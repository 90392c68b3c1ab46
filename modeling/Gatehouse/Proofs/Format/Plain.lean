import Gatehouse.Format.Quantity
import Gatehouse.Proofs.Format.Destination
import Gatehouse.Proofs.Text.Alphabet
import Gatehouse.Proofs.Text.Blank

/-!
Digits of other scripts in quantities and destinations.

Whoever gets a quantity or a destination reads the digits `0` to `9`. The patterns admit the decimal
digits of every script, and nothing else beyond ASCII. So an accepted text is plain exactly when it
has no digit of another script, which is what the patterns would accept with `0` to `9` in the place
of all digits (`accepted_plain_iff`). The port of a destination is read again as a number, and the
names of hosts are spelled out in the pattern. What remains are the numbers of an address.
-/

set_option autoImplicit false

namespace Gatehouse.Format

open Text

/-! ## 1. Blanks around a text -/

section Trim

variable {cs : List Char}

/-- The blanks around a text have no part in whether it is plain, when it is within ASCII but for
digits. -/
theorem plain_trim_iff (h : ∀ c ∈ cs, c.toNat < 128 ∨ isDecimalDigit c = true) :
    Plain (trim cs) ↔ Plain cs := by
  rw [plain_iff, plain_iff]
  constructor
  · intro hascii c hc
    rcases h c hc with hc' | hdigit
    · exact hc'
    · exact hascii c ((mem_trim_iff (isBlank_of_isDecimalDigit hdigit)).2 hc)
  · exact fun hascii c hc => hascii c (mem_of_mem_trim hc)

/-- Nor have they a part in whether there is a foreign digit, since no digit is a blank. -/
theorem forall_not_isForeignDigit_trim_iff :
    (∀ c ∈ trim cs, ¬IsForeignDigit c) ↔ ∀ c ∈ cs, ¬IsForeignDigit c := by
  constructor
  · intro h c hc hforeign
    exact h c ((mem_trim_iff (isBlank_of_isDecimalDigit hforeign.1)).2 hc) hforeign
  · exact fun h c hc => h c (mem_of_mem_trim hc)

end Trim

/-! ## 2. The formats -/

/-- The formats of texts with numbers that are handed on as they are. Texts that are read as a
number and written anew are no matter here. -/
inductive NumericFormat
  | time
  | offset
  | size
  | buffers
  | destination
  deriving DecidableEq

namespace NumericFormat

/-- The text is accepted in the format. -/
def accepts : NumericFormat → String → Bool
  | time, v => isTime v
  | offset, v => isOffset v
  | size, v => isSize v
  | buffers, v => isProxyBuffers v
  | destination, v => (destinationFault? v).isNone

/-- The pattern of the format. -/
def pattern : NumericFormat → Pattern
  | time => durationPattern
  | offset => sizePattern ['k', 'K', 'm', 'M', 'g', 'G']
  | size => sizePattern ['k', 'K', 'm', 'M']
  | buffers => buffersPattern
  | destination => destinationPattern

/-- The text would be accepted with another pattern in the place of the pattern of the format. -/
def acceptsBy (p : Pattern) : NumericFormat → String → Bool
  | time, v => hasTrimmed p v
  | offset, v => hasTrimmed p v
  | size, v => hasTrimmed p v
  | buffers, v => hasTrimmed p v
  | destination, v => p.accepts v.toList && isPort (destinationPort v) || v == "stderr"

/-- A destination is accepted by a pattern and by its port, or is the standard error stream. -/
theorem acceptsBy_destination_iff {p : Pattern} {v : String} :
    destination.acceptsBy p v = true ↔
      (Matches p v.toList ∧ isPort (destinationPort v) = true) ∨ v = "stderr" := by
  rw [acceptsBy, Bool.or_eq_true, Bool.and_eq_true, beq_iff_eq, Pattern.accepts_iff]

/-- With its own pattern a format accepts what it accepts. -/
theorem acceptsBy_pattern (f : NumericFormat) (v : String) :
    f.acceptsBy f.pattern v = f.accepts v := by
  cases f with
  | time | offset | size | buffers => rfl
  | destination =>
    rw [Bool.eq_iff_iff, acceptsBy_destination_iff, accepts, Option.isNone_iff_eq_none,
      destinationFault?_eq_none_iff_or, Pattern.accepts_iff, pattern]

/-- The patterns are made of nothing but ASCII characters and decimal digits, each of them. They are
closed terms, so this is computed. -/
theorem isAsciiOrDigits_pattern (f : NumericFormat) : f.pattern.IsAsciiOrDigits := by
  cases f <;> decide +kernel

section Accepts

variable {f : NumericFormat} {v : String}

/-- For destinations that is said of the whole text, as no blanks are dropped. -/
theorem ascii_or_digit_of_destination (h : destination.accepts v = true) {c : Char}
    (hc : c ∈ v.toList) : c.toNat < 128 ∨ isDecimalDigit c = true := by
  rw [← acceptsBy_pattern, acceptsBy_destination_iff] at h
  rcases h with ⟨hpattern, -⟩ | rfl
  · exact ascii_or_digit_of_matches (isAsciiOrDigits_pattern destination) hpattern hc
  · have hplain : Plain "stderr".toList := by decide +kernel
    exact .inl (hplain c hc).1

/-- An accepted text holds nothing beyond ASCII but digits. -/
theorem ascii_or_digit_of_accepts (h : f.accepts v = true) {c : Char} (hc : c ∈ trim v.toList) :
    c.toNat < 128 ∨ isDecimalDigit c = true := by
  cases f with
  | destination => exact ascii_or_digit_of_destination h (mem_of_mem_trim hc)
  | time | offset | size | buffers =>
    rw [← acceptsBy_pattern, acceptsBy, hasTrimmed, Pattern.accepts_iff] at h
    exact ascii_or_digit_of_matches (isAsciiOrDigits_pattern _) h hc

/-- With `0` to `9` in the place of all digits the pattern of a format accepts the plain ones of the
texts that are accepted. -/
theorem acceptsBy_plain_iff :
    f.acceptsBy f.pattern.plain v = true ↔ f.accepts v = true ∧ Plain (trim v.toList) := by
  have hplain : ∀ {cs}, Matches f.pattern.plain cs ↔ Matches f.pattern cs ∧ Plain cs :=
    matches_plain_iff (isAsciiOrDigits_pattern f)
  cases f with
  | time | offset | size | buffers =>
    rw [← acceptsBy_pattern, acceptsBy, acceptsBy, hasTrimmed, hasTrimmed, Pattern.accepts_iff,
      Pattern.accepts_iff, hplain]
  | destination =>
    -- this pattern is not asked about the trimmed text, but there is nothing to trim
    have htrim : destination.accepts v = true → (Plain (trim v.toList) ↔ Plain v.toList) :=
      fun h => plain_trim_iff fun c hc => ascii_or_digit_of_destination h hc
    rw [and_congr_right htrim, ← acceptsBy_pattern, acceptsBy_destination_iff,
      acceptsBy_destination_iff, hplain, or_and_right, and_right_comm]
    refine or_congr_right (and_iff_left_of_imp ?_).symm
    rintro rfl
    decide +kernel

end Accepts

end NumericFormat

/-! ## 3. What is beyond ASCII -/

section Sites

variable {cs : List Char}

/-- The names of hosts are spelled out. -/
theorem plain_of_matches_hostParts (h : Matches (.inOrder hostParts) cs) : Plain cs := by
  have hsets : (Pattern.inOrder hostParts).IsAsciiOrDigits := by decide +kernel
  -- there are no decimal digits of all scripts to be narrowed
  have hplain : (Pattern.inOrder hostParts).plain = .inOrder hostParts := by decide +kernel
  rw [← hplain, matches_plain_iff hsets] at h
  exact h.2

theorem IsPlainPort.plain (h : IsPlainPort cs) : Plain cs :=
  plain_iff.2 fun c hc => (isDigit_iff.1 (h.digits.each c hc)).2

/-- In front of the port, only the numbers of an address can be beyond ASCII. -/
theorem Site.address_of_not_plain (h : Site cs) (hplain : ¬Plain cs) : Address cs := by
  cases h with
  | address h => exact h
  | host h => exact absurd (plain_of_matches_hostParts h) hplain
  | ownHost => exact absurd (by decide +kernel) hplain

end Sites

/-- A destination that is accepted and not plain is an address, with a port that is plain. The
foreign digits are in its numbers, then. -/
theorem exists_address_of_not_plain {v : String} (h : NumericFormat.destination.accepts v = true)
    (hplain : ¬Plain (trim v.toList)) :
    ∃ numbers port, v.toList = numbers ++ ':' :: port ∧ Address numbers ∧ IsPlainPort port := by
  rw [NumericFormat.accepts, Option.isNone_iff_eq_none, destinationFault?_eq_none_iff] at h
  rcases h with ⟨site, port, hv, hsite, hport⟩ | rfl
  · -- were the site plain too, the whole text would be
    refine ⟨site, port, hv, hsite.address_of_not_plain fun hsplain => hplain ?_, hport⟩
    intro c hc
    have hall : Plain (site ++ ':' :: port) :=
      List.forall_mem_append.2 ⟨hsplain, List.forall_mem_cons.2 ⟨by decide +kernel, hport.plain⟩⟩
    exact hall c (hv ▸ mem_of_mem_trim hc)
  · exact absurd (by decide +kernel) hplain

/-- An accepted text is plain exactly when its pattern accepts it with `0` to `9` in the place of
all digits, which is when it has no digit of another script. A destination that is not plain is an
address with such digits in its numbers. -/
theorem accepted_plain_iff {f : NumericFormat} {v : String} (h : f.accepts v = true) :
    (Plain (trim v.toList) ↔ f.acceptsBy f.pattern.plain v = true) ∧
      (Plain (trim v.toList) ↔ ∀ c ∈ v.toList, ¬IsForeignDigit c) ∧
      (f = .destination → ¬Plain (trim v.toList) → ∃ numbers port,
        v.toList = numbers ++ ':' :: port ∧ Address numbers ∧ IsPlainPort port) := by
  refine ⟨?_, ?_, ?_⟩
  · rw [NumericFormat.acceptsBy_plain_iff, and_iff_right h]
  · rw [plain_iff_of_ascii_or_digit fun c hc => NumericFormat.ascii_or_digit_of_accepts h hc,
      forall_not_isForeignDigit_trim_iff]
  · rintro rfl hplain
    exact exists_address_of_not_plain h hplain

/-- An address whose first number is written in another script. Its port is plain, as every accepted
port is. -/
theorem address_in_another_script :
    NumericFormat.destination.accepts "\u0661\u0662\u0667.0.0.1:514" = true ∧
      NumericFormat.destination.acceptsBy destinationPattern.plain
        "\u0661\u0662\u0667.0.0.1:514" = false ∧
      ∃ numbers port, "\u0661\u0662\u0667.0.0.1:514".toList = numbers ++ ':' :: port ∧
        Address numbers ∧ IsPlainPort port := by
  have haccepts : NumericFormat.destination.accepts "\u0661\u0662\u0667.0.0.1:514" = true := by
    decide +kernel
  have hplain : ¬Plain (trim "\u0661\u0662\u0667.0.0.1:514".toList) := by decide +kernel
  obtain ⟨hby, -, haddress⟩ := accepted_plain_iff haccepts
  exact ⟨haccepts, by rwa [hby, Bool.not_eq_true] at hplain, haddress rfl hplain⟩

/-- Neither a duration nor a destination needs to be plain to be accepted. Both are written here
with Arabic-Indic digits. -/
theorem foreign_digits_accepted :
    (isTime "\u0663\u0660s" = true ∧ ¬Plain (trim "\u0663\u0660s".toList)) ∧
      destinationFault? "\u0661\u0662\u0667.0.0.1:514" = none ∧
      ¬Plain (trim "\u0661\u0662\u0667.0.0.1:514".toList) := by decide +kernel

end Gatehouse.Format
