import Gatehouse.Proofs.Text.Pattern

/-!
Alphabets: of which characters the texts with a pattern are made.

A pattern is made of sets of characters, and every character of a text with the pattern is in one of
them (`exists_set_of_matches`). When the sets are narrowed to the characters with some property,
what is left are the texts all of whose characters have it (`matches_mapSets_iff`).

The property in question is to be *plain*: an ASCII character, and one of `0` to `9` if it is a
digit. Decimal digits are those of any script, so a pattern with them has texts that are not plain,
even if all its other sets are within ASCII. Then they are the texts with a digit of another script
(`plain_iff_of_ascii_or_digit`), and the plain texts are those of the pattern with `0` to `9` in the
place of all digits (`matches_plain_iff`).
-/

set_option autoImplicit false

namespace Gatehouse.Text

/-! ## 1. The sets of a pattern -/

namespace Pattern

/-- The sets of characters that the pattern is made of, with repetitions and in no order that
matters. -/
def sets : Pattern → List CharSet
  | .never => []
  | .nothing => []
  | .one set => [set]
  | .seq p q => p.sets ++ q.sets
  | .alt p q => p.sets ++ q.sets
  | .star p => p.sets

/-- The pattern with other sets in the place of its sets. Its shape stays the same. -/
def mapSets (f : CharSet → CharSet) : Pattern → Pattern
  | .never => .never
  | .nothing => .nothing
  | .one set => .one (f set)
  | .seq p q => .seq (p.mapSets f) (q.mapSets f)
  | .alt p q => .alt (p.mapSets f) (q.mapSets f)
  | .star p => .star (p.mapSets f)

end Pattern

section Patterns

variable {p : Pattern} {cs : List Char}

/-- The characters of a text with a pattern are in the sets of the pattern. -/
theorem exists_set_of_matches (h : Matches p cs) {c : Char} (hc : c ∈ cs) :
    ∃ set ∈ p.sets, set.has c = true := by
  -- By the derivation: a character of a text is a character of the half it came from.
  induction h with
  | nothing => cases hc
  | @one set d hset =>
    rw [List.mem_singleton.1 hc]
    exact ⟨set, List.mem_singleton_self set, hset⟩
  | seq _ _ ihp ihq =>
    rcases List.mem_append.1 hc with hc | hc
    · obtain ⟨set, hmem, hset⟩ := ihp hc
      exact ⟨set, List.mem_append_left _ hmem, hset⟩
    · obtain ⟨set, hmem, hset⟩ := ihq hc
      exact ⟨set, List.mem_append_right _ hmem, hset⟩
  | left _ ih =>
    obtain ⟨set, hmem, hset⟩ := ih hc
    exact ⟨set, List.mem_append_left _ hmem, hset⟩
  | right _ ih =>
    obtain ⟨set, hmem, hset⟩ := ih hc
    exact ⟨set, List.mem_append_right _ hmem, hset⟩
  | starNil => cases hc
  | starMore _ _ ihp ihs =>
    rcases List.mem_append.1 hc with hc | hc
    · exact ihp hc
    · exact ihs hc

/-- When each set is narrowed to the characters with a property, the texts with the pattern are
narrowed to those of such characters. The property is one of single characters, so each repetition
and each branch can be narrowed by itself. -/
theorem matches_mapSets_iff {f : CharSet → CharSet} {P : Char → Prop}
    (hf : ∀ set ∈ p.sets, ∀ c, (f set).has c = true ↔ set.has c = true ∧ P c) :
    Matches (p.mapSets f) cs ↔ Matches p cs ∧ ∀ c ∈ cs, P c := by
  induction p generalizing cs with
  | never => exact iff_of_false not_matches_never fun h => not_matches_never h.1
  | nothing =>
    rw [Pattern.mapSets, matches_nothing_iff]
    exact ⟨fun h => ⟨h, by simp [h]⟩, And.left⟩
  | one set =>
    rw [Pattern.mapSets, matches_one_iff, matches_one_iff]
    constructor
    · rintro ⟨c, hc, rfl⟩
      obtain ⟨hset, hP⟩ := (hf set (List.mem_singleton_self set) c).1 hc
      exact ⟨⟨c, hset, rfl⟩, by simpa using hP⟩
    · rintro ⟨⟨c, hset, rfl⟩, hP⟩
      have hc : P c := hP c (List.mem_singleton_self c)
      exact ⟨c, (hf set (List.mem_singleton_self set) c).2 ⟨hset, hc⟩, rfl⟩
  | seq p q ihp ihq =>
    have hp := fun set hset => hf set (List.mem_append_left _ hset)
    have hq := fun set hset => hf set (List.mem_append_right _ hset)
    rw [Pattern.mapSets, matches_seq_iff, matches_seq_iff]
    constructor
    · rintro ⟨as, bs, rfl, has, hbs⟩
      obtain ⟨has, hPas⟩ := (ihp hp).1 has
      obtain ⟨hbs, hPbs⟩ := (ihq hq).1 hbs
      exact ⟨⟨as, bs, rfl, has, hbs⟩, List.forall_mem_append.2 ⟨hPas, hPbs⟩⟩
    · rintro ⟨⟨as, bs, rfl, has, hbs⟩, hP⟩
      obtain ⟨hPas, hPbs⟩ := List.forall_mem_append.1 hP
      exact ⟨as, bs, rfl, (ihp hp).2 ⟨has, hPas⟩, (ihq hq).2 ⟨hbs, hPbs⟩⟩
  | alt p q ihp ihq =>
    have hp := fun set hset => hf set (List.mem_append_left _ hset)
    have hq := fun set hset => hf set (List.mem_append_right _ hset)
    rw [Pattern.mapSets, matches_alt_iff, matches_alt_iff, ihp hp, ihq hq, or_and_right]
  | star p ih =>
    -- the text has the property when all its parts have it, so the parts are narrowed one by one
    rw [Pattern.mapSets, matches_star_iff, matches_star_iff]
    constructor
    · rintro ⟨parts, hparts, rfl⟩
      refine ⟨⟨parts, fun part hpart => ((ih hf).1 (hparts part hpart)).1, rfl⟩, fun c hc => ?_⟩
      obtain ⟨part, hpart, hc⟩ := List.mem_flatten.1 hc
      exact ((ih hf).1 (hparts part hpart)).2 c hc
    · rintro ⟨⟨parts, hparts, rfl⟩, hP⟩
      refine ⟨parts, fun part hpart => (ih hf).2 ⟨hparts part hpart, fun c hc => ?_⟩, rfl⟩
      exact hP c (List.mem_flatten_of_mem hpart hc)

end Patterns

/-! ## 2. Plain characters -/

/-- The character is a digit, but none of `0` to `9`. Patterns take it where they ask for a digit,
and numerals are never read with it. -/
def IsForeignDigit (c : Char) : Prop := isDecimalDigit c = true ∧ c.isDigit = false

/-- The characters are ASCII characters, and the digits among them are `0` to `9`. The second half
is what the formats are about; the first one excludes whatever else a pattern might let through. -/
def Plain (cs : List Char) : Prop :=
  ∀ c ∈ cs, c.toNat < 128 ∧ (isDecimalDigit c = true → c.isDigit = true)

instance (c : Char) : Decidable (IsForeignDigit c) := inferInstanceAs (Decidable (_ ∧ _))

instance (cs : List Char) : Decidable (Plain cs) := List.decidableBAll _ cs

theorem isDigit_iff_between {c : Char} : c.isDigit = true ↔ 48 ≤ c.toNat ∧ c.toNat ≤ 57 := by
  rw [Char.isDigit, Bool.and_eq_true, decide_eq_true_eq, decide_eq_true_eq]
  exact Iff.rfl

theorem Ranges.has_iff {ranges : Ranges} {c : Char} :
    ranges.has c = true ↔ ∃ r ∈ ranges, r.1 ≤ c.toNat ∧ c.toNat ≤ r.2 := by
  simp [Ranges.has]

/-- A decimal digit in ASCII is one of `0` to `9`. The table of digits begins with these, and its
other ranges are beyond ASCII. -/
theorem isDigit_iff {c : Char} : c.isDigit = true ↔ isDecimalDigit c = true ∧ c.toNat < 128 := by
  constructor
  · intro h
    have hbounds := isDigit_iff_between.1 h
    exact ⟨isDecimalDigit_of_isDigit h, by omega⟩
  · rintro ⟨hdigit, hascii⟩
    obtain ⟨r, hr, hfirst, hlast⟩ := Ranges.has_iff.1 hdigit
    -- all ranges but the first are beyond ASCII
    have hranges : ∀ r ∈ decimalDigits, r = (48, 57) ∨ 128 ≤ r.1 := by decide +kernel
    rcases hranges r hr with rfl | hbeyond
    · exact isDigit_iff_between.2 ⟨hfirst, hlast⟩
    · omega

theorem isBlank_of_isDecimalDigit {c : Char} (h : isDecimalDigit c = true) : isBlank c = false := by
  rw [← Bool.not_eq_true]
  intro hblank
  obtain ⟨r, hr, hfirst, hlast⟩ := Ranges.has_iff.1 h
  obtain ⟨b, hb, hbfirst, hblast⟩ := Ranges.has_iff.1 hblank
  have hapart : ∀ r ∈ decimalDigits, ∀ b ∈ blanks, r.2 < b.1 ∨ b.2 < r.1 := by decide +kernel
  have := hapart r hr b hb
  omega

/-- Of the two conditions on plain texts the first is enough. -/
theorem plain_iff {cs : List Char} : Plain cs ↔ ∀ c ∈ cs, c.toNat < 128 := by
  constructor
  · exact fun h c hc => (h c hc).1
  · exact fun h c hc => ⟨h c hc, fun hdigit => isDigit_iff.2 ⟨hdigit, h c hc⟩⟩

/-- Within ASCII but for digits, a text is plain when it has no digit of another script. -/
theorem plain_iff_of_ascii_or_digit {cs : List Char}
    (h : ∀ c ∈ cs, c.toNat < 128 ∨ isDecimalDigit c = true) :
    Plain cs ↔ ∀ c ∈ cs, ¬IsForeignDigit c := by
  rw [plain_iff]
  constructor
  · rintro hascii c hc ⟨hdigit, hforeign⟩
    rw [isDigit_iff.2 ⟨hdigit, hascii c hc⟩] at hforeign
    cases hforeign
  · intro hnone c hc
    rcases h c hc with hascii | hdigit
    · exact hascii
    · cases hforeign : c.isDigit with
      | true => exact (isDigit_iff.1 hforeign).2
      | false => exact absurd ⟨hdigit, hforeign⟩ (hnone c hc)

/-! ## 3. Patterns within ASCII but for digits -/

/-- The set holds nothing but ASCII characters and decimal digits. It is computed, so that a pattern
can be tested for it. -/
def CharSet.isAsciiOrDigits : CharSet → Bool
  | .between _ last => decide (last.toNat < 128)
  | .among cs => cs.all fun c => decide (c.toNat < 128)
  | .decimalDigit => true
  | .either a b => a.isAsciiOrDigits && b.isAsciiOrDigits
  | .outside _ => false
  | .blank => false
  | .nonBlank => false

/-- The set with `0` to `9` in the place of all decimal digits. The other sets are left as they
are. -/
def CharSet.plain : CharSet → CharSet
  | .decimalDigit => .between '0' '9'
  | .either a b => .either a.plain b.plain
  | .between first last => .between first last
  | .among cs => .among cs
  | .outside cs => .outside cs
  | .blank => .blank
  | .nonBlank => .nonBlank

/-- That narrows the set to its ASCII characters. -/
theorem CharSet.has_plain_iff {set : CharSet} (hset : set.isAsciiOrDigits = true) {c : Char} :
    set.plain.has c = true ↔ set.has c = true ∧ c.toNat < 128 := by
  induction set with
  | between first last =>
    rw [plain]
    refine (and_iff_left_of_imp fun h => ?_).symm
    rw [has, Bool.and_eq_true, decide_eq_true_eq, decide_eq_true_eq] at h
    rw [isAsciiOrDigits, decide_eq_true_eq] at hset
    -- what is below a character within ASCII is within ASCII
    exact Nat.lt_of_le_of_lt (UInt32.le_iff_toNat_le.1 (Char.le_def.1 h.2)) hset
  | among cs =>
    rw [plain]
    refine (and_iff_left_of_imp fun h => ?_).symm
    rw [has, List.contains_iff_mem] at h
    rw [isAsciiOrDigits, List.all_eq_true] at hset
    exact of_decide_eq_true (hset c h)
  | decimalDigit =>
    have hdigits : (CharSet.between '0' '9').has c = c.isDigit := rfl
    rw [plain, hdigits]
    exact isDigit_iff
  | either a b iha ihb =>
    rw [isAsciiOrDigits, Bool.and_eq_true] at hset
    rw [plain, has, has, Bool.or_eq_true, Bool.or_eq_true, iha hset.1, ihb hset.2, or_and_right]
  | outside _ => cases hset
  | blank => cases hset
  | nonBlank => cases hset

/-- What such a set holds is in ASCII or a digit. -/
theorem CharSet.ascii_or_digit_of_has {set : CharSet} (hset : set.isAsciiOrDigits = true) {c : Char}
    (h : set.has c = true) : c.toNat < 128 ∨ isDecimalDigit c = true := by
  induction set with
  | between | among => exact .inl ((has_plain_iff hset).1 h).2
  | decimalDigit => exact .inr h
  | either a b iha ihb =>
    rw [isAsciiOrDigits, Bool.and_eq_true] at hset
    rw [has, Bool.or_eq_true] at h
    exact h.elim (iha hset.1) (ihb hset.2)
  | outside _ => cases hset
  | blank => cases hset
  | nonBlank => cases hset

namespace Pattern

/-- The pattern is made of nothing but ASCII characters and decimal digits. It can be decided from
the sets of the pattern, without a text. -/
def IsAsciiOrDigits (p : Pattern) : Prop := ∀ set ∈ p.sets, set.isAsciiOrDigits = true

instance (p : Pattern) : Decidable p.IsAsciiOrDigits :=
  inferInstanceAs (Decidable (∀ set ∈ p.sets, _))

/-- The pattern with `0` to `9` in the place of all decimal digits. -/
def plain (p : Pattern) : Pattern := p.mapSets CharSet.plain

end Pattern

section Plain

variable {p : Pattern} {cs : List Char}

/-- And so are the characters of a text with a pattern of such sets. -/
theorem ascii_or_digit_of_matches (hp : p.IsAsciiOrDigits) (h : Matches p cs) {c : Char}
    (hc : c ∈ cs) : c.toNat < 128 ∨ isDecimalDigit c = true := by
  obtain ⟨set, hmem, hset⟩ := exists_set_of_matches h hc
  exact CharSet.ascii_or_digit_of_has (hp set hmem) hset

/-- With `0` to `9` in the place of all digits a pattern has the plain ones of its texts. So the two
patterns differ exactly by texts with a digit of another script. -/
theorem matches_plain_iff (hp : p.IsAsciiOrDigits) :
    Matches p.plain cs ↔ Matches p cs ∧ Plain cs := by
  rw [Pattern.plain, matches_mapSets_iff fun set hset c => CharSet.has_plain_iff (hp set hset),
    plain_iff]

end Plain

end Gatehouse.Text
