import Gatehouse.Format.Quantity
import Gatehouse.Proofs.Text.Pattern

/-!
The grammars of durations, of sizes and of buffers.

A duration is one or more parts, such as `1h 30m`. A part is a number, a unit or none, and any
number of spaces. The parts may be cut in more than one way, for a number without a unit may be
followed by another one. So what is said of a text is that it can be cut into parts
(`IsDuration`), and the pattern accepts the text, without the blanks around it, exactly then
(`isTime_iff`). A size is a number with a unit or without one (`IsSize`), and buffers are a number
of them and their size (`IsBuffers`).
-/

set_option autoImplicit false

namespace Gatehouse.Format

open Text

/-! ## 1. Durations -/

/-- One or more digits of any script, a unit or none, and any number of spaces. A part need not say
where it ends; the text `12` is one part as well as two. -/
inductive DurationPart : List Char → Prop
  | mk {digits : List Char} {unit : String} {spaces : List Char} (hsome : digits ≠ [])
      (hdigits : ∀ c ∈ digits, isDecimalDigit c = true) (hunit : unit = "" ∨ unit ∈ durationUnits)
      (hspaces : ∀ c ∈ spaces, c = ' ') : DurationPart (digits ++ unit.toList ++ spaces)

/-- The text can be cut into one or more parts of a duration. The parts need not go from greater
units to smaller ones, and a unit may come twice. -/
def IsDuration (cs : List Char) : Prop :=
  ∃ parts : List (List Char), parts ≠ [] ∧ (∀ part ∈ parts, DurationPart part) ∧
    cs = parts.flatten

/-- The text is a duration; the blanks around it do not count. -/
def IsTime (s : String) : Prop := IsDuration (trim s.toList)

section Durations

variable {cs : List Char}

/-- The parts of the pattern, each as what it has. A number first: at least one digit. -/
theorem matches_number_iff :
    Matches number cs ↔ cs ≠ [] ∧ ∀ c ∈ cs, isDecimalDigit c = true := matches_plus_one_iff

/-- A unit may be left out. -/
theorem matches_unit_iff : Matches (.opt (.anyOf (durationUnits.map .literal))) cs ↔
    ∃ unit : String, cs = unit.toList ∧ (unit = "" ∨ unit ∈ durationUnits) := by
  rw [matches_opt_iff, matches_anyOf_iff]
  constructor
  · rintro (⟨p, hp, hmatches⟩ | rfl)
    · obtain ⟨unit, hunit, rfl⟩ := List.mem_map.1 hp
      exact ⟨unit, matches_literal_iff.1 hmatches, .inr hunit⟩
    · exact ⟨"", rfl, .inl rfl⟩
  · rintro ⟨unit, rfl, rfl | hunit⟩
    · exact .inr rfl
    · exact .inl ⟨.literal unit, List.mem_map_of_mem hunit, matches_literal_iff.2 rfl⟩

/-- Only spaces may stand behind a unit, no other blanks. -/
theorem matches_spaces_iff :
    Matches (.star (.one (.among [' ']))) cs ↔ ∀ c ∈ cs, c = ' ' := by
  rw [matches_star_one_iff]
  simp [CharSet.has]

/-- The three in a row are a part of a duration: the digits, the unit if there is one, and the
spaces behind it. -/
theorem matches_durationToken_iff : Matches durationToken cs ↔ DurationPart cs := by
  simp only [durationToken, matches_inOrder_cons, matches_inOrder_nil, matches_number_iff,
    matches_unit_iff, matches_spaces_iff]
  constructor
  · rintro ⟨digits, _, rfl, ⟨hsome, hdigits⟩, _, _, rfl, ⟨unit, rfl, hunit⟩, spaces, _, rfl,
      hspaces, rfl⟩
    rw [List.append_nil, ← List.append_assoc]
    exact .mk hsome hdigits hunit hspaces
  · intro h
    cases h with
    | @mk digits unit spaces hsome hdigits hunit hspaces =>
      exact ⟨digits, unit.toList ++ spaces, List.append_assoc .., ⟨hsome, hdigits⟩, unit.toList,
        spaces, rfl, ⟨unit, rfl, hunit⟩, spaces, [], (List.append_nil _).symm, hspaces, rfl⟩

/-- And a duration is such parts in a row. -/
theorem matches_durationPattern_iff : Matches durationPattern cs ↔ IsDuration cs := by
  rw [durationPattern, matches_plus_iff]
  simp only [matches_durationToken_iff, IsDuration]

end Durations

/-- The test drops the blanks around the text first. -/
theorem isTime_iff {s : String} : isTime s = true ↔ IsTime s := by
  rw [isTime, hasTrimmed, Pattern.accepts_iff, matches_durationPattern_iff, IsTime]

instance (s : String) : Decidable (IsTime s) := decidable_of_iff _ isTime_iff

example : IsTime " 1h30m 5 " ∧ ¬IsTime "1 hour" ∧ ¬IsTime "" := by decide +kernel

/-! ## 2. Sizes and buffers -/

/-- One or more digits of any script, and one of the units or none. The unit is one letter, and what
the number comes to is nobody's concern. -/
inductive Size (units : List Char) : List Char → Prop
  | mk {digits unit : List Char} (hsome : digits ≠ [])
      (hdigits : ∀ c ∈ digits, isDecimalDigit c = true)
      (hunit : unit = [] ∨ ∃ c ∈ units, unit = [c]) : Size units (digits ++ unit)

/-- A number of buffers, a space and the size of each. It is exactly one space, and no other
blank. -/
inductive Buffers : List Char → Prop
  | mk {digits size : List Char} (hsome : digits ≠ [])
      (hdigits : ∀ c ∈ digits, isDecimalDigit c = true)
      (hsize : Size ['k', 'K', 'm', 'M'] size) : Buffers (digits ++ ' ' :: size)

/-- The text is a size in some of the units; the blanks around it do not count. -/
def IsSize (units : List Char) (s : String) : Prop := Size units (trim s.toList)

/-- The text is a number of buffers and their size; the blanks around it do not count. -/
def IsBuffers (s : String) : Prop := Buffers (trim s.toList)

/-- A size has no more than one unit, of one letter. -/
theorem matches_sizePattern_iff {units cs : List Char} :
    Matches (sizePattern units) cs ↔ Size units cs := by
  simp only [sizePattern, matches_seq_iff, matches_number_iff, matches_opt_iff, matches_one_iff]
  constructor
  · rintro ⟨digits, unit, rfl, ⟨hsome, hdigits⟩, hunit⟩
    refine .mk hsome hdigits ?_
    rcases hunit with ⟨c, hc, rfl⟩ | rfl
    · exact .inr ⟨c, by simpa [CharSet.has] using hc, rfl⟩
    · exact .inl rfl
  · intro h
    cases h with
    | @mk digits unit hsome hdigits hunit =>
      refine ⟨digits, unit, rfl, ⟨hsome, hdigits⟩, ?_⟩
      rcases hunit with rfl | ⟨c, hc, rfl⟩
      · exact .inr rfl
      · exact .inl ⟨c, by simpa [CharSet.has] using hc, rfl⟩

/-- Exactly one space stands between the number of buffers and their size. -/
theorem matches_buffersPattern_iff {cs : List Char} : Matches buffersPattern cs ↔ Buffers cs := by
  simp only [buffersPattern, matches_inOrder_cons, matches_inOrder_nil, matches_number_iff,
    matches_one_iff, matches_sizePattern_iff]
  constructor
  · rintro ⟨digits, _, rfl, ⟨hsome, hdigits⟩, _, _, rfl, ⟨c, hc, rfl⟩, size, _, rfl, hsize, rfl⟩
    obtain rfl : c = ' ' := by simpa [CharSet.has] using hc
    rw [List.append_nil, List.singleton_append]
    exact .mk hsome hdigits hsize
  · intro h
    cases h with
    | @mk digits size hsome hdigits hsize =>
      exact ⟨digits, ' ' :: size, rfl, ⟨hsome, hdigits⟩, [' '], size, rfl,
        ⟨' ', by decide, rfl⟩, size, [], (List.append_nil _).symm, hsize, rfl⟩

/-- The test for sizes of any units, from which those for offsets and for sizes are made. -/
theorem hasTrimmed_sizePattern_iff {units : List Char} {s : String} :
    hasTrimmed (sizePattern units) s = true ↔ IsSize units s := by
  rw [hasTrimmed, Pattern.accepts_iff, matches_sizePattern_iff, IsSize]

theorem isProxyBuffers_iff {s : String} : isProxyBuffers s = true ↔ IsBuffers s := by
  rw [isProxyBuffers, hasTrimmed, Pattern.accepts_iff, matches_buffersPattern_iff, IsBuffers]

end Gatehouse.Format
