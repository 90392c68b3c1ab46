import Gatehouse.Format.DnsName
import Gatehouse.Key
import Gatehouse.Proofs.Text.Pattern
import Mathlib.Data.List.Basic

/-!
The grammars of names.

All names are words: they begin and end with characters of some sets, and have others only in
between (`Word`). What the patterns say with repetitions and optional tails is that a text is a word
(`matches_word_iff`), a label or a name that it is one of at most 63 bytes, and a subdomain that it
is words with a dot between two. A check has no complaint about a text exactly when the text has the
form (`labelComplaints_eq_nil_iff`, `subdomainComplaints_eq_nil_iff`,
`qualifiedNameComplaints_eq_nil_iff`).
-/

set_option autoImplicit false

namespace Gatehouse.Format

open Text

/-! ## 1. Words -/

/-- The text is not empty, its first character is one of `first`, its last one of `last`, and all of
them are of `inner`. With one character only, it has to be allowed on both ends. -/
structure Word (first inner last : Char → Bool) (cs : List Char) : Prop where
  first : ∃ c, cs.head? = some c ∧ first c = true
  inner : ∀ c ∈ cs, inner c = true
  last : ∃ c, cs.getLast? = some c ∧ last c = true

section Words

variable {first inner last : Char → Bool} {cs : List Char}

/-- A word has a first character. -/
theorem Word.ne_nil (h : Word first inner last cs) : cs ≠ [] := by
  rintro rfl
  obtain ⟨c, hc, -⟩ := h.first
  cases hc

/-- It has no character that is not allowed inside. The ends count as inside here. -/
theorem Word.notMem {c : Char} (h : Word first inner last cs) (hc : inner c = false) :
    c ∉ cs := by
  intro hmem
  rw [h.inner c hmem] at hc
  cases hc

/-- A word is one character that may stand on both ends, or has two ends. Patterns say it in this
form, and the characters of the ends have to be allowed inside for that. -/
theorem word_iff (hfirst : ∀ c, first c = true → inner c = true)
    (hlast : ∀ c, last c = true → inner c = true) : Word first inner last cs ↔
      (∃ c, cs = [c] ∧ first c = true ∧ last c = true) ∨
        ∃ c between d, cs = c :: (between ++ [d]) ∧ first c = true ∧
          (∀ e ∈ between, inner e = true) ∧ last d = true := by
  constructor
  · rintro ⟨⟨c, hhead, hc⟩, hinner, ⟨d, hend, hd⟩⟩
    obtain ⟨rest, rfl⟩ := List.head?_eq_some_iff.1 hhead
    -- One character is its own first and last; two or more have something between, perhaps empty.
    rcases List.eq_nil_or_concat' rest with rfl | ⟨between, e, rfl⟩
    · obtain rfl : c = d := by simpa using hend
      exact .inl ⟨c, rfl, hc, hd⟩
    · rw [← List.cons_append, List.getLast?_concat] at hend
      obtain rfl := Option.some.inj hend
      exact .inr ⟨c, between, e, rfl, hc, fun x hx => hinner x (by simp [hx]), hd⟩
  · rintro (⟨c, rfl, hc, hd⟩ | ⟨c, between, d, rfl, hc, hbetween, hd⟩)
    · exact ⟨⟨c, rfl, hc⟩, by simpa using hfirst c hc, ⟨c, rfl, hd⟩⟩
    · refine ⟨⟨c, rfl, hc⟩, ?_, ⟨d, by rw [← List.cons_append, List.getLast?_concat], hd⟩⟩
      intro x hx
      rcases List.mem_cons.1 hx with rfl | hx
      · exact hfirst x hc
      · rcases List.mem_append.1 hx with hx | hx
        · exact hbetween x hx
        · rw [List.mem_singleton.1 hx]
          exact hlast d hd

end Words

/-- A pattern with a first character and an ending is that of words, when every first character may
be the last one. An ending may be missing, and then the first character is the last. -/
theorem matches_word_iff {first inner last : CharSet} {cs : List Char}
    (hfirst : ∀ c, first.has c = true → last.has c = true)
    (hlast : ∀ c, last.has c = true → inner.has c = true) :
    Matches (.seq (.one first) (ending inner last)) cs ↔ Word first.has inner.has last.has cs := by
  -- what the pattern reads after the first character is what stands between the ends, and the end
  rw [word_iff (fun c hc => hlast c (hfirst c hc)) hlast, matches_one_seq_iff, ending]
  simp only [matches_opt_iff, matches_seq_one_iff, matches_star_one_iff]
  constructor
  · rintro ⟨c, rest, rfl, hc, ⟨between, d, rfl, hbetween, hd⟩ | rfl⟩
    · exact .inr ⟨c, between, d, rfl, hc, hbetween, hd⟩
    · exact .inl ⟨c, rfl, hc, hfirst c hc⟩
  · rintro (⟨c, rfl, hc, -⟩ | ⟨c, between, d, rfl, hc, hbetween, hd⟩)
    · exact ⟨c, [], rfl, hc, .inr rfl⟩
    · exact ⟨c, between ++ [d], rfl, hc, .inl ⟨between, d, rfl, hbetween, hd⟩⟩

/-- So is a pattern with a beginning that may be missing and a last character, when the characters
of both ends are the same. -/
theorem matches_opt_seq_one_iff {outer inner : CharSet} {cs : List Char}
    (houter : ∀ c, outer.has c = true → inner.has c = true) :
    Matches (.seq (.opt (.seq (.one outer) (.star (.one inner)))) (.one outer)) cs ↔
      Word outer.has inner.has outer.has cs := by
  rw [word_iff houter houter, matches_seq_one_iff]
  simp only [matches_opt_iff, matches_one_seq_iff, matches_star_one_iff]
  constructor
  · rintro ⟨front, d, rfl, ⟨c, between, rfl, hc, hbetween⟩ | rfl, hd⟩
    · exact .inr ⟨c, between, d, rfl, hc, hbetween, hd⟩
    · exact .inl ⟨d, rfl, hd, hd⟩
  · rintro (⟨c, rfl, hc, -⟩ | ⟨c, between, d, rfl, hc, hbetween, hd⟩)
    · exact ⟨[], c, rfl, .inr rfl, hc⟩
    · exact ⟨c :: between, d, rfl, .inl ⟨c, between, rfl, hc, hbetween⟩, hd⟩

/-! ## 2. The grammars -/

/-- The lower case letters and the digits. -/
def isLowerAlphanum (c : Char) : Bool := c.isLower || c.isDigit

/-- What labels and the parts of a subdomain are made of. -/
def isLabelChar (c : Char) : Bool := isLowerAlphanum c || c == '-'

/-- What names are made of. -/
def isNameChar (c : Char) : Bool := c.isAlphanum || c == '-' || c == '_' || c == '.'

/-- A label begins with a letter, does not end with a dash, and has lower case letters, digits and
dashes between. It has no more than 63 bytes, which here are as many characters. -/
structure IsLabel (s : String) : Prop where
  bytes : s.utf8ByteSize ≤ 63
  word : Word Char.isLower isLabelChar isLowerAlphanum s.toList

/-- The parts of a subdomain are not empty, and neither begin nor end with a dash. Parts are what
stands between dots, so a dot at either end would leave an empty one. -/
structure IsSubdomain (s : String) : Prop where
  bytes : s.utf8ByteSize ≤ 253
  parts : ∀ part ∈ cutAll '.' s.toList, Word isLowerAlphanum isLabelChar isLowerAlphanum part

/-- A name begins and ends with a letter or a digit of either case, and may have dashes, dots and
underscores between. -/
structure IsName (s : String) : Prop where
  bytes : s.utf8ByteSize ≤ 63
  word : Word Char.isAlphanum isNameChar Char.isAlphanum s.toList

/-- A qualified name is a name, or a subdomain, a slash and a name. As neither has a slash, a text
can be one in one way only. -/
inductive IsQualifiedName : String → Prop
  | plain {name : String} (hname : IsName name) : IsQualifiedName name
  | prefixed {home name : String} (hhome : IsSubdomain home) (hname : IsName name) :
      IsQualifiedName (joinKey home name)

/-- Nothing that has one of these forms is empty. That is used where an empty text has a meaning of
its own. -/
theorem IsLabel.ne_empty {s : String} (h : IsLabel s) : s ≠ "" := by
  rintro rfl
  exact h.word.ne_nil rfl

theorem IsName.ne_empty {s : String} (h : IsName s) : s ≠ "" := by
  rintro rfl
  exact h.word.ne_nil rfl

/-- A name has no slash, so a text with a slash can only be a qualified name with a subdomain. -/
theorem IsName.slash_notMem {s : String} (h : IsName s) : '/' ∉ s.toList :=
  h.word.notMem (by decide)

theorem IsSubdomain.ne_empty {s : String} (h : IsSubdomain s) : s ≠ "" := by
  rintro rfl
  exact (h.parts [] (List.mem_singleton_self _)).ne_nil rfl

/-- A character of a subdomain is a dot or stands in one of the parts, and neither can be a slash.
So a reference that is a subdomain has no namespace in it. -/
theorem IsSubdomain.slash_notMem {s : String} (h : IsSubdomain s) : '/' ∉ s.toList := by
  obtain ⟨first, parts, hcut, hs⟩ := exists_cutAll_eq '.' s.toList
  have hparts := h.parts
  rw [hcut] at hparts
  intro hmem
  rw [hs] at hmem
  rcases List.mem_append.1 hmem with hmem | hmem
  · exact (hparts first List.mem_cons_self).notMem (by decide) hmem
  · obtain ⟨part, hpart, hmem⟩ := List.mem_flatMap.1 hmem
    rcases List.mem_cons.1 hmem with heq | hmem
    · cases heq
    · exact (hparts part (List.mem_cons_of_mem _ hpart)).notMem (by decide) hmem

theorem IsQualifiedName.ne_empty {s : String} (h : IsQualifiedName s) : s ≠ "" := by
  cases h with
  | plain hname => exact hname.ne_empty
  | prefixed => simp [joinKey]

/-! ## 3. The checks -/

/-- The sets that the patterns are made of are the predicates of the grammars. This is the first of
them. -/
theorem lowerLetter_has : lowerLetter.has = Char.isLower := rfl

theorem lowerAlphanumeric_has : lowerAlphanumeric.has = isLowerAlphanum := rfl

theorem alphanumeric_has : alphanumeric.has = Char.isAlphanum := by
  funext c
  have hupper : (CharSet.between 'A' 'Z').has c = c.isUpper := (Bool.decide_and _ _).symm
  show (c.isLower || c.isDigit || (CharSet.between 'A' 'Z').has c) =
    (c.isUpper || c.isLower || c.isDigit)
  rw [hupper, Bool.or_comm, Bool.or_assoc]

theorem labelChar_has :
    (CharSet.either lowerAlphanumeric (.among ['-'])).has = isLabelChar := by
  funext c
  simp [CharSet.has, lowerAlphanumeric_has, isLabelChar, beq_eq_decide]

theorem nameChar_has :
    (CharSet.either alphanumeric (.among ['-', '_', '.'])).has = isNameChar := by
  funext c
  simp [CharSet.has, alphanumeric_has, isNameChar, Bool.or_assoc, beq_eq_decide]

/-- Each pattern, as the words that it stands for. This one is the label. -/
theorem matches_labelPattern_iff {cs : List Char} :
    Matches labelPattern cs ↔ Word Char.isLower isLabelChar isLowerAlphanum cs := by
  rw [labelPattern, matches_word_iff, labelChar_has, lowerLetter_has, lowerAlphanumeric_has]
  · exact fun c hc => Bool.or_eq_true_iff.2 (.inl hc)
  · exact fun c hc => Bool.or_eq_true_iff.2 (.inl hc)

/-- A part of a subdomain may begin with a digit, which a label may not. -/
theorem matches_domainPartPattern_iff {cs : List Char} :
    Matches domainPartPattern cs ↔ Word isLowerAlphanum isLabelChar isLowerAlphanum cs := by
  rw [domainPartPattern, matches_word_iff, labelChar_has, lowerAlphanumeric_has]
  · exact fun c hc => hc
  · exact fun c hc => Bool.or_eq_true_iff.2 (.inl hc)

/-- A subdomain is cut at its dots. A part has none, which is why the parts of the pattern are those
of the text. -/
theorem matches_subdomainPattern_iff {cs : List Char} : Matches subdomainPattern cs ↔
    ∀ part ∈ cutAll '.' cs, Word isLowerAlphanum isLabelChar isLowerAlphanum part := by
  rw [subdomainPattern, matches_separated_iff]
  · simp only [matches_domainPartPattern_iff]
  · exact fun part hpart => (matches_domainPartPattern_iff.1 hpart).notMem (by decide)

/-- The pattern of names is the one whose beginning may be missing. -/
theorem matches_namePattern_iff {cs : List Char} :
    Matches namePattern cs ↔ Word Char.isAlphanum isNameChar Char.isAlphanum cs := by
  rw [namePattern, matches_opt_seq_one_iff, nameChar_has, alphanumeric_has]
  exact fun c hc => Bool.or_eq_true_iff.2 (.inl hc)

section Checks

variable {s : String}

/-- The length is complained about when it is more than the most, and it is counted in bytes. -/
theorem tooLong_eq_nil_iff {subject : String} {most : Nat} :
    tooLong subject most s = [] ↔ s.utf8ByteSize ≤ most := by
  rw [tooLong]
  split
  · simpa using ‹most < s.utf8ByteSize›
  · simpa using ‹¬most < s.utf8ByteSize›

/-- A text is complained about when it does not have the pattern. -/
theorem complainUnless_eq_nil_iff {p : Pattern} {complaint : String} :
    complainUnless p complaint s = [] ↔ Matches p s.toList := by
  rw [← Pattern.accepts_iff, complainUnless]
  split <;> simp [*]

/-- A check makes no complaint exactly when the text has the form. Complaints are only added, so
each condition can be looked at by itself. -/
theorem labelComplaints_eq_nil_iff : labelComplaints s = [] ↔ IsLabel s := by
  rw [labelComplaints, List.append_eq_nil_iff, tooLong_eq_nil_iff, complainUnless_eq_nil_iff,
    matches_labelPattern_iff]
  exact ⟨fun h => ⟨h.1, h.2⟩, fun h => ⟨h.bytes, h.word⟩⟩

theorem subdomainComplaints_eq_nil_iff : subdomainComplaints s = [] ↔ IsSubdomain s := by
  rw [subdomainComplaints, List.append_eq_nil_iff, tooLong_eq_nil_iff, complainUnless_eq_nil_iff,
    matches_subdomainPattern_iff]
  exact ⟨fun h => ⟨h.1, h.2⟩, fun h => ⟨h.bytes, h.parts⟩⟩

theorem nameComplaints_eq_nil_iff : nameComplaints s = [] ↔ IsName s := by
  have hchecks : tooLong "name part " 63 s = [] ∧ Matches namePattern s.toList ↔ IsName s := by
    rw [tooLong_eq_nil_iff, matches_namePattern_iff]
    exact ⟨fun h => ⟨h.1, h.2⟩, fun h => ⟨h.bytes, h.word⟩⟩
  rw [nameComplaints]
  split
  · rename_i hempty
    have hs : s = "" := by simpa using hempty
    simpa using fun h : IsName s => h.ne_empty hs
  · rw [List.append_eq_nil_iff, complainUnless_eq_nil_iff, hchecks]

/-- What stands before the slash is a subdomain. It must not be empty either, but a subdomain never
is. -/
theorem homeComplaints_eq_nil_iff : homeComplaints s = [] ↔ IsSubdomain s := by
  rw [homeComplaints]
  split
  · rename_i hempty
    have hs : s = "" := by simpa using hempty
    simpa using fun h : IsSubdomain s => h.ne_empty hs
  · rw [List.map_eq_nil_iff, subdomainComplaints_eq_nil_iff]

/-- A text without a slash is checked as a name, one with a slash as a subdomain and a name. With
more than one slash it is neither. -/
theorem qualifiedNameComplaints_eq_nil_iff :
    qualifiedNameComplaints s = [] ↔ IsQualifiedName s := by
  constructor
  · intro h
    rw [qualifiedNameComplaints] at h
    split at h
    · rename_i home name hsplit
      obtain ⟨hhome, hname⟩ := List.append_eq_nil_iff.1 h
      rw [(splitFirst_eq_some_iff.1 hsplit).1, ← String.append_assoc]
      exact .prefixed (homeComplaints_eq_nil_iff.1 hhome) (nameComplaints_eq_nil_iff.1 hname)
    · exact .plain (nameComplaints_eq_nil_iff.1 h)
  · intro h
    rw [qualifiedNameComplaints]
    cases h with
    | plain hname =>
      -- A name holds no slash, so a plain one is not cut; a home holds none either, so the first
      -- slash is where the two meet.
      rw [splitFirst_eq_none_iff.2 hname.slash_notMem]
      exact nameComplaints_eq_nil_iff.2 hname
    | prefixed hhome hname =>
      rw [splitFirst_joinKey hhome.slash_notMem]
      exact List.append_eq_nil_iff.2
        ⟨homeComplaints_eq_nil_iff.2 hhome, nameComplaints_eq_nil_iff.2 hname⟩

end Checks

/-! The checks decide the grammars. -/

instance (s : String) : Decidable (IsLabel s) := decidable_of_iff _ labelComplaints_eq_nil_iff

instance (s : String) : Decidable (IsSubdomain s) :=
  decidable_of_iff _ subdomainComplaints_eq_nil_iff

instance (s : String) : Decidable (IsName s) := decidable_of_iff _ nameComplaints_eq_nil_iff

instance (s : String) : Decidable (IsQualifiedName s) :=
  decidable_of_iff _ qualifiedNameComplaints_eq_nil_iff

example : IsSubdomain "cafe.example.com" ∧ ¬IsSubdomain "cafe..com" := by decide +kernel

example : IsQualifiedName "shop/Tea_2" ∧ ¬IsQualifiedName "/tea" := by decide +kernel

end Gatehouse.Format
