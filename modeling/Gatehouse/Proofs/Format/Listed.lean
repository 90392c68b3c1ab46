import Gatehouse.Format.Listed
import Gatehouse.Proofs.Text.Numeral
import Gatehouse.Proofs.Text.Pattern

/-!
The grammars of lists in one text: of ports, of services with sticky sessions, and of rewrites. A
list is accepted when each of its items is, without the blanks around it; an item without anything
in it is passed over, except in a list of ports.
-/

set_option autoImplicit false

namespace Gatehouse.Format

open Text

/-! ## 1. Ports -/

/-- The text is a numeral of a port. A plus sign and zeros at the front do no harm. -/
def IsPortNumeral (s : String) : Prop := ∃ n, Numeral s.toList n ∧ 1 ≤ n ∧ n ≤ 65535

theorem isPort_eq_true_iff {port : Int} : isPort port = true ↔ 1 ≤ port ∧ port ≤ 65535 := by
  rw [isPort, Bool.and_eq_true, decide_eq_true_eq, decide_eq_true_eq]

/-- A text is read as a port when it is a numeral of a port. The reader is one of 64 bits, which is
wide enough for every port, and the range of ports is checked after it. -/
theorem isPortNumeral_iff {s : String} : isPortNumeral s = true ↔ IsPortNumeral s := by
  rw [isPortNumeral]
  constructor
  · intro h
    split at h
    · rename_i n hread
      exact ⟨n, ((readInt_eq_ok_iff int64Range_hasZero).1 hread).numeral, isPort_eq_true_iff.1 h⟩
    · cases h
  · rintro ⟨n, hnumeral, hport⟩
    -- a port is in the range of the numbers that are read
    have hin : NumeralIn int64Range s.toList n :=
      ⟨hnumeral, fun _ => by decide, by simp only [int64Range]; omega,
        by simp only [int64Range]; omega⟩
    rw [(readInt_eq_ok_iff int64Range_hasZero).2 hin]
    exact isPort_eq_true_iff.2 hport

/-- Every item has to be a port, so an empty list is not one of ports. -/
theorem isPortList_iff {s : String} :
    isPortList s = true ↔ ∀ item ∈ splitAll ',' s, IsPortNumeral (trimmed item) := by
  simp only [isPortList, List.all_eq_true, isPortNumeral_iff]

/-! ## 2. Services -/

/-- A service and, after blanks, the parameters of its sticky sessions, which end with the line.
What the parameters are is not looked at. -/
inductive StickyService : List Char → Prop
  | mk {name gap parameters : List Char} {first : Char} (hsome : name ≠ [])
      (hname : ∀ c ∈ name, isBlank c = false) (hapart : gap ≠ [])
      (hgap : ∀ c ∈ gap, isBlank c = true) (hfirst : isBlank first = false)
      (hline : '\n' ∉ parameters) :
      StickyService ("serviceName=".toList ++ name ++ gap ++ first :: parameters)

/-- A service and, after blanks, the path that requests for it get. Neither of the words is empty,
and the path ends the text. -/
inductive Rewrite : List Char → Prop
  | mk {name gap path : List Char} (hsome : name ≠ []) (hname : ∀ c ∈ name, isBlank c = false)
      (hapart : gap ≠ []) (hgap : ∀ c ∈ gap, isBlank c = true) (hpath : path ≠ [])
      (hplain : ∀ c ∈ path, isBlank c = false) :
      Rewrite ("serviceName=".toList ++ name ++ gap ++ "rewrite=".toList ++ path)

section Services

variable {cs : List Char}

/-- A word of a pattern is one or more characters that are no blanks. -/
theorem matches_word_iff_nonBlank :
    Matches word cs ↔ cs ≠ [] ∧ ∀ c ∈ cs, isBlank c = false := by
  rw [word, matches_plus_one_iff]
  simp [CharSet.has]

/-- And a gap is one or more blanks. -/
theorem matches_gap_iff : Matches gap cs ↔ cs ≠ [] ∧ ∀ c ∈ cs, isBlank c = true :=
  matches_plus_one_iff

/-- A service is named by a word behind its label. -/
theorem matches_serviceName_iff : Matches serviceName cs ↔
    ∃ name, cs = "serviceName=".toList ++ name ∧ name ≠ [] ∧ ∀ c ∈ name, isBlank c = false := by
  rw [serviceName, matches_seq_iff]
  simp only [matches_literal_iff, matches_word_iff_nonBlank]
  constructor
  · rintro ⟨_, name, rfl, rfl, hname⟩
    exact ⟨name, rfl, hname⟩
  · rintro ⟨name, rfl, hname⟩
    exact ⟨_, name, rfl, rfl, hname⟩

/-- The parameters begin with something that is no blank. So the gap is as long as it can be. -/
theorem matches_stickyServicePattern_iff :
    Matches stickyServicePattern cs ↔ StickyService cs := by
  simp only [stickyServicePattern, matches_inOrder_cons, matches_inOrder_nil,
    matches_serviceName_iff, matches_gap_iff, matches_one_iff, matches_star_one_iff]
  constructor
  · rintro ⟨_, _, rfl, ⟨name, rfl, hsome, hname⟩, gap, _, rfl, ⟨hapart, hgap⟩, _, _, rfl,
      ⟨first, hfirst, rfl⟩, parameters, _, rfl, hline, rfl⟩
    rw [List.append_nil, List.singleton_append, ← List.append_assoc]
    refine .mk hsome hname hapart hgap (by simpa [CharSet.has] using hfirst) fun hmem => ?_
    simpa [CharSet.has] using hline _ hmem
  · intro h
    cases h with
    | @mk name gap parameters first hsome hname hapart hgap hfirst hline =>
      refine ⟨"serviceName=".toList ++ name, gap ++ first :: parameters, List.append_assoc ..,
        ⟨name, rfl, hsome, hname⟩, gap, first :: parameters, rfl, ⟨hapart, hgap⟩, [first],
        parameters, rfl, ⟨first, by simpa [CharSet.has] using hfirst, rfl⟩, parameters, [],
        (List.append_nil _).symm, fun c hc => ?_, rfl⟩
      -- The parameters run to the end of the text, and the dot takes all but a line feed.
      have hne : c ≠ '\n' := fun heq => hline (heq ▸ hc)
      simpa [CharSet.has] using hne

/-- A rewrite has two words, each behind its label. A word ends at the first blank, so the gap is
where the second label has to begin. -/
theorem matches_rewritePattern_iff : Matches rewritePattern cs ↔ Rewrite cs := by
  simp only [rewritePattern, matches_inOrder_cons, matches_inOrder_nil, matches_serviceName_iff,
    matches_gap_iff, matches_literal_iff, matches_word_iff_nonBlank]
  constructor
  · rintro ⟨_, _, rfl, ⟨name, rfl, hsome, hname⟩, gap, _, rfl, ⟨hapart, hgap⟩, _, _, rfl, rfl,
      path, _, rfl, ⟨hpath, hplain⟩, rfl⟩
    rw [List.append_nil, ← List.append_assoc, ← List.append_assoc]
    exact .mk hsome hname hapart hgap hpath hplain
  · intro h
    cases h with
    | @mk name gap path hsome hname hapart hgap hpath hplain =>
      exact ⟨"serviceName=".toList ++ name, gap ++ ("rewrite=".toList ++ path), by simp,
        ⟨name, rfl, hsome, hname⟩, gap, "rewrite=".toList ++ path, rfl, ⟨hapart, hgap⟩,
        "rewrite=".toList, path, rfl, rfl, path, [], (List.append_nil _).symm, ⟨hpath, hplain⟩,
        rfl⟩

end Services

/-- Of the items of a list, those that are left have to be accepted; blank ones are gone by then. -/
theorem isStickyServiceList_iff {s : String} : isStickyServiceList s = true ↔
    ∀ item ∈ listItems ';' s, StickyService item.toList := by
  simp only [isStickyServiceList, List.all_eq_true, Pattern.accepts_iff,
    matches_stickyServicePattern_iff]

theorem isRewriteList_iff {s : String} :
    isRewriteList s = true ↔ ∀ item ∈ listItems ';' s, Rewrite item.toList := by
  simp only [isRewriteList, List.all_eq_true, Pattern.accepts_iff, matches_rewritePattern_iff]

end Gatehouse.Format
