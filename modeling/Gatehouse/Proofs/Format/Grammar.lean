import Gatehouse.Proofs.Format.DnsName
import Gatehouse.Proofs.Format.Quantity

/-!
The grammars of times and of names, in the words of their rules.

A time is cut into tokens, each a number with a unit or without one. The parts of a subdomain are
words whose ends are letters or digits; since nothing but a dash may stand in a part besides these,
that is to say that neither end is a dash (`word_iff_no_dash`). A qualified name is a name, or a
subdomain, a slash and a name. So each format accepts exactly the texts of its grammar
(`formats_exact`).
-/

set_option autoImplicit false

namespace Gatehouse.Format

open Text

/-! ## 1. Times -/

/-- A token, with its units written out. It is stated for lists of characters, as the tokens of a
text are cut out of it. -/
theorem durationPart_iff {part : List Char} : DurationPart part ↔
    ∃ (digits : List Char) (unit : String) (spaces : List Char),
      part = digits ++ unit.toList ++ spaces ∧ digits ≠ [] ∧
        (∀ c ∈ digits, isDecimalDigit c = true) ∧
        unit ∈ ["", "ms", "s", "m", "h", "d", "w", "M", "y"] ∧ ∀ c ∈ spaces, c = ' ' := by
  constructor
  · intro h
    cases h with
    | @mk digits unit spaces hsome hdigits hunit hspaces =>
      exact ⟨digits, unit, spaces, rfl, hsome, hdigits, List.mem_cons.2 hunit, hspaces⟩
  · rintro ⟨digits, unit, spaces, rfl, hsome, hdigits, hunit, hspaces⟩
    exact .mk hsome hdigits (List.mem_cons.1 hunit) hspaces

/-! ## 2. Names -/

/-- A part of a subdomain: it is not empty, it has nothing but lower case letters, digits and
dashes, and neither end is a dash. -/
structure IsDomainPart (part : String) : Prop where
  ne_empty : part ≠ ""
  inner : ∀ c ∈ part.toList, c.isLower = true ∨ c.isDigit = true ∨ c = '-'
  first : part.toList.head? ≠ some '-'
  last : part.toList.getLast? ≠ some '-'

theorem isLabelChar_iff {c : Char} :
    isLabelChar c = true ↔ c.isLower = true ∨ c.isDigit = true ∨ c = '-' := by
  rw [isLabelChar, isLowerAlphanum, Bool.or_eq_true, Bool.or_eq_true, beq_iff_eq, or_assoc]

/-- What a part is made of, but for the dash, may stand on its ends. -/
theorem isLowerAlphanum_iff {c : Char} :
    isLowerAlphanum c = true ↔ isLabelChar c = true ∧ c ≠ '-' := by
  rw [isLabelChar, Bool.or_eq_true, beq_iff_eq]
  constructor
  · refine fun h => ⟨.inl h, ?_⟩
    rintro rfl
    exact absurd h (by decide)
  · exact fun h => h.1.resolve_right h.2

section Words

variable {cs : List Char}

/-- An end of a text is a letter or a digit when there is one and it is not a dash. -/
theorem exists_end_iff {c? : Option Char} (hc : ∀ c, c? = some c → isLabelChar c = true) :
    (∃ c, c? = some c ∧ isLowerAlphanum c = true) ↔ c? ≠ none ∧ c? ≠ some '-' := by
  cases c? with
  | none => exact iff_of_false nofun fun h => h.1 rfl
  | some c =>
    have hlabel : isLabelChar c = true := hc c rfl
    simp [isLowerAlphanum_iff, hlabel]

/-- A word of these characters is one that does not begin or end with a dash. The dash is the only
one of them that may not stand at the ends. -/
theorem word_iff_no_dash : Word isLowerAlphanum isLabelChar isLowerAlphanum cs ↔
    cs ≠ [] ∧ (∀ c ∈ cs, isLabelChar c = true) ∧ cs.head? ≠ some '-' ∧ cs.getLast? ≠ some '-' := by
  constructor
  · intro h
    have hfirst := (exists_end_iff fun c hc => h.inner c (List.mem_of_mem_head? hc)).1 h.first
    have hlast := (exists_end_iff fun c hc => h.inner c (List.mem_of_getLast? hc)).1 h.last
    exact ⟨h.ne_nil, h.inner, hfirst.2, hlast.2⟩
  · rintro ⟨hne, hinner, hfirst, hlast⟩
    refine ⟨?_, hinner, ?_⟩
    · refine (exists_end_iff fun c hc => hinner c (List.mem_of_mem_head? hc)).2 ⟨?_, hfirst⟩
      exact fun hnone => hne (List.head?_eq_none_iff.1 hnone)
    · refine (exists_end_iff fun c hc => hinner c (List.mem_of_getLast? hc)).2 ⟨?_, hlast⟩
      exact fun hnone => hne (List.getLast?_eq_none_iff.1 hnone)

/-- So the parts of a subdomain are such words. -/
theorem isDomainPart_ofList_iff :
    IsDomainPart (String.ofList cs) ↔ Word isLowerAlphanum isLabelChar isLowerAlphanum cs := by
  have hempty : String.ofList cs ≠ "" ↔ cs ≠ [] := by simp
  rw [word_iff_no_dash]
  constructor
  · rintro ⟨hne, hinner, hfirst, hlast⟩
    rw [String.toList_ofList] at hinner hfirst hlast
    exact ⟨hempty.1 hne, fun c hc => isLabelChar_iff.2 (hinner c hc), hfirst, hlast⟩
  · rintro ⟨hne, hinner, hfirst, hlast⟩
    rw [← String.toList_ofList (l := cs)] at hinner hfirst hlast
    exact ⟨hempty.2 hne, fun c hc => isLabelChar_iff.1 (hinner c hc), hfirst, hlast⟩

end Words

section Grammars

variable {s : String}

/-- The grammar of subdomains speaks of texts, the pattern of lists of characters. -/
theorem isSubdomain_iff_parts :
    IsSubdomain s ↔ s.utf8ByteSize ≤ 253 ∧ ∀ part ∈ splitAll '.' s, IsDomainPart part := by
  rw [splitAll, List.forall_mem_map]
  simp only [isDomainPart_ofList_iff]
  exact ⟨fun h => ⟨h.bytes, h.parts⟩, fun h => ⟨h.1, h.2⟩⟩

/-- A qualified name written out. The slash is the only one. -/
theorem isQualifiedName_iff : IsQualifiedName s ↔
    IsName s ∨ ∃ home name, IsSubdomain home ∧ IsName name ∧ s = home ++ "/" ++ name := by
  constructor
  · intro h
    cases h with
    | plain hname => exact .inl hname
    | @prefixed home name hhome hname => exact .inr ⟨home, name, hhome, hname, rfl⟩
  · rintro (hname | ⟨home, name, hhome, hname, rfl⟩)
    · exact .plain hname
    · exact .prefixed hhome hname

end Grammars

/-! ## 3. The formats -/

/-- Each format accepts exactly the texts of its grammar. A time is one or more tokens, and the
blanks around it do not count; a token is one or more digits of any script, a unit or none, and any
number of spaces. A subdomain has parts between its dots. A qualified name is a name, or a subdomain
that is not empty, a slash and a name. -/
theorem formats_exact (v : String) :
    (isTime v = true ↔ ∃ tokens : List (List Char), tokens ≠ [] ∧
        (∀ token ∈ tokens, ∃ (digits : List Char) (unit : String) (spaces : List Char),
          token = digits ++ unit.toList ++ spaces ∧ digits ≠ [] ∧
            (∀ c ∈ digits, isDecimalDigit c = true) ∧
            unit ∈ ["", "ms", "s", "m", "h", "d", "w", "M", "y"] ∧ ∀ c ∈ spaces, c = ' ') ∧
        trim v.toList = tokens.flatten) ∧
      (subdomainComplaints v = [] ↔
        v.utf8ByteSize ≤ 253 ∧ ∀ part ∈ splitAll '.' v, IsDomainPart part) ∧
      (qualifiedNameComplaints v = [] ↔ IsName v ∨ ∃ home name,
        home ≠ "" ∧ subdomainComplaints home = [] ∧ IsName name ∧ v = home ++ "/" ++ name) := by
  refine ⟨?_, subdomainComplaints_eq_nil_iff.trans isSubdomain_iff_parts, ?_⟩
  · rw [isTime_iff, IsTime, IsDuration]
    simp only [durationPart_iff]
  · rw [qualifiedNameComplaints_eq_nil_iff, isQualifiedName_iff]
    refine or_congr_right (exists_congr fun home => exists_congr fun name => ?_)
    rw [subdomainComplaints_eq_nil_iff]
    exact (and_iff_right_of_imp fun h => h.1.ne_empty).symm

end Gatehouse.Format
