import Gatehouse.Text.Numeral
import Mathlib.Data.List.Basic

/-!
Which texts are numerals, and of which numbers.

A numeral is one or more digits, with a sign before them or not, and its number is what the digits
spell (`Numeral`). Reading stops at the first digit that leads out of the range asked for. As what
has been read never gets less with another digit, the number of the whole numeral is out of the
range exactly when this happens (`readDigits_eq_ok_iff`), so a text is read as a number exactly when
it is a numeral of it and the number is in the range (`readInt_eq_ok_iff`). In a range without
negative numbers a numeral has no minus sign, not even that of `-0`. What a number is written as is
one of its numerals (`numeral_toString`).
-/

set_option autoImplicit false

namespace Gatehouse.Text

/-! ## 1. Digits -/

/-- The number that has been spelled when digits are read onto a number. The number that is read
onto is a parameter, so that reading can be followed digit by digit. -/
def spelled (acc : Nat) (digits : List Char) : Nat :=
  digits.foldl (fun n d => 10 * n + digitValue d) acc

/-- One or more digits, `0` to `9` only. -/
structure IsDigits (cs : List Char) : Prop where
  notEmpty : cs ≠ []
  each : ∀ c ∈ cs, c.isDigit = true

/-- What has been read never gets less with more digits. -/
theorem le_spelled (acc : Nat) (digits : List Char) : acc ≤ spelled acc digits := by
  induction digits generalizing acc with
  | nil => exact Nat.le_refl acc
  | cons d ds ih =>
    have hstep := ih (10 * acc + digitValue d)
    rw [spelled, List.foldl_cons, ← spelled]
    omega

/-- Reading succeeds exactly when all are digits and the number stays within the limit. It stops as
soon as the limit is passed, and after that no digit brings the number back. -/
theorem readDigits_eq_ok_iff {limit : Nat} {beyond : NumeralError} {acc : Nat} {cs : List Char}
    {n : Nat} (hacc : acc ≤ limit) : readDigits limit beyond acc cs = .ok n ↔
      (∀ c ∈ cs, c.isDigit = true) ∧ n = spelled acc cs ∧ n ≤ limit := by
  induction cs generalizing acc with
  | nil =>
    rw [readDigits, Except.ok.injEq]
    constructor
    · rintro rfl
      exact ⟨by simp, rfl, hacc⟩
    · exact fun h => h.2.1.symm
  | cons d ds ih =>
    rw [readDigits, List.forall_mem_cons, spelled, List.foldl_cons, ← spelled]
    by_cases hd : d.isDigit = true
    · rw [if_pos hd]
      by_cases hlimit : 10 * acc + digitValue d ≤ limit
      · rw [if_pos hlimit, ih hlimit, and_iff_right hd]
      · -- the number only grows from here on
        rw [if_neg hlimit]
        refine iff_of_false nofun fun h => hlimit ?_
        have hgrows := le_spelled (10 * acc + digitValue d) ds
        omega
    · rw [if_neg hd]
      exact iff_of_false nofun fun h => hd h.1.1

/-- A magnitude is read from one digit at least. -/
theorem readMagnitude_eq_ok_iff {limit : Nat} {beyond : NumeralError} {cs : List Char} {n : Nat} :
    readMagnitude limit beyond cs = .ok n ↔ IsDigits cs ∧ n = spelled 0 cs ∧ n ≤ limit := by
  cases cs with
  | nil => exact iff_of_false nofun fun h => h.1.notEmpty rfl
  | cons c cs =>
    rw [readMagnitude, readDigits_eq_ok_iff (Nat.zero_le limit)]
    · exact and_congr_left fun _ => ⟨fun h => ⟨List.cons_ne_nil c cs, h⟩, IsDigits.each⟩
    · exact List.cons_ne_nil c cs

/-! ## 2. Numerals -/

/-- The text is a numeral of the number: digits, alone or behind one sign. Zeros at the front are
allowed, so a number has many numerals. -/
inductive Numeral : List Char → Int → Prop
  | unsigned {digits : List Char} (h : IsDigits digits) : Numeral digits (spelled 0 digits)
  | plus {digits : List Char} (h : IsDigits digits) : Numeral ('+' :: digits) (spelled 0 digits)
  | minus {digits : List Char} (h : IsDigits digits) : Numeral ('-' :: digits) (-spelled 0 digits)

/-- The text is a numeral of a number of the range. A minus sign is not read where there are no
negative numbers, also when only zeros follow. -/
structure NumeralIn (range : NumeralRange) (cs : List Char) (n : Int) : Prop where
  numeral : Numeral cs n
  sign : cs.head? = some '-' → range.least < 0
  least : range.least ≤ n
  greatest : n ≤ range.greatest

/-- The range has zero. Only then is each of its bounds one for the digits of the numbers on its
side. -/
structure NumeralRange.HasZero (range : NumeralRange) : Prop where
  least : range.least ≤ 0
  greatest : 0 ≤ range.greatest

/-- So it is with the ranges that are in use. -/
theorem int32Range_hasZero : int32Range.HasZero := ⟨by decide, by decide⟩

theorem int64Range_hasZero : int64Range.HasZero := ⟨by decide, by decide⟩

theorem nat64Range_hasZero : nat64Range.HasZero := ⟨by decide, by decide⟩

section Numerals

variable {range : NumeralRange} {cs : List Char} {n : Int}

/-- Digits do not begin with a sign, so the sign of a numeral is told by the first character. -/
theorem IsDigits.head?_ne {c : Char} (h : IsDigits cs) (hc : c.isDigit = false) :
    cs.head? ≠ some c := by
  intro hhead
  have hdigit := h.each c (List.mem_of_mem_head? hhead)
  rw [hc] at hdigit
  cases hdigit

/-- With a plus sign the rest are the digits of the number. -/
theorem numeral_plus_iff : Numeral ('+' :: cs) n ↔ IsDigits cs ∧ n = spelled 0 cs := by
  constructor
  · intro h
    cases h with
    | unsigned hdigits => exact absurd rfl (hdigits.head?_ne (c := '+') (by decide))
    | plus hdigits => exact ⟨hdigits, rfl⟩
  · rintro ⟨hdigits, rfl⟩
    exact .plus hdigits

/-- With a minus sign they are those of its opposite. -/
theorem numeral_minus_iff : Numeral ('-' :: cs) n ↔ IsDigits cs ∧ n = -spelled 0 cs := by
  constructor
  · intro h
    cases h with
    | unsigned hdigits => exact absurd rfl (hdigits.head?_ne (c := '-') (by decide))
    | minus hdigits => exact ⟨hdigits, rfl⟩
  · rintro ⟨hdigits, rfl⟩
    exact .minus hdigits

/-- Without a sign the whole text is digits. -/
theorem numeral_iff_of_head?_ne (hplus : cs.head? ≠ some '+') (hminus : cs.head? ≠ some '-') :
    Numeral cs n ↔ IsDigits cs ∧ n = spelled 0 cs := by
  constructor
  · intro h
    cases h with
    | unsigned hdigits => exact ⟨hdigits, rfl⟩
    | plus => exact absurd rfl hplus
    | minus => exact absurd rfl hminus
  · rintro ⟨hdigits, rfl⟩
    exact .unsigned hdigits

/-- What is made of the number that digits spell. -/
theorem map_readMagnitude_eq_ok_iff {limit : Nat} {beyond : NumeralError} {f : Nat → Int} :
    (readMagnitude limit beyond cs).map f = .ok n ↔
      (IsDigits cs ∧ n = f (spelled 0 cs)) ∧ spelled 0 cs ≤ limit := by
  constructor
  · intro h
    cases hread : readMagnitude limit beyond cs with
    | error e =>
      rw [hread] at h
      cases h
    | ok m =>
      obtain ⟨hdigits, rfl, hlimit⟩ := readMagnitude_eq_ok_iff.1 hread
      rw [hread] at h
      exact ⟨⟨hdigits, (Except.ok.inj h).symm⟩, hlimit⟩
  · rintro ⟨⟨hdigits, rfl⟩, hlimit⟩
    rw [readMagnitude_eq_ok_iff.2 ⟨hdigits, rfl, hlimit⟩]
    rfl

/-- A text is read as a number exactly when it is a numeral of it in the range. The cases are those
of the sign, and in each the limit is the bound of the range on that side of zero. -/
theorem readInt_eq_ok_iff (hrange : range.HasZero) :
    readInt range cs = .ok n ↔ NumeralIn range cs n := by
  have hleast := hrange.least
  have hgreatest := hrange.greatest
  fun_cases readInt range cs with
  | case1 =>
    refine iff_of_false nofun fun h => ?_
    cases h.numeral with
    | unsigned hdigits => exact hdigits.notEmpty rfl
  | case2 cs =>
    rw [map_readMagnitude_eq_ok_iff, Int.ofNat_eq_natCast]
    constructor
    · rintro ⟨⟨hdigits, rfl⟩, hlimit⟩
      exact ⟨.plus hdigits, nofun, by omega, by omega⟩
    · intro h
      obtain ⟨hdigits, rfl⟩ := numeral_plus_iff.1 h.numeral
      exact ⟨⟨hdigits, rfl⟩, by have := h.greatest; omega⟩
  | case3 cs hneg =>
    rw [map_readMagnitude_eq_ok_iff, Int.ofNat_eq_natCast]
    constructor
    · rintro ⟨⟨hdigits, rfl⟩, hlimit⟩
      exact ⟨.minus hdigits, fun _ => hneg, by omega, by omega⟩
    · intro h
      obtain ⟨hdigits, rfl⟩ := numeral_minus_iff.1 h.numeral
      exact ⟨⟨hdigits, rfl⟩, by have := h.least; omega⟩
  | case4 cs hneg => exact iff_of_false nofun fun h => hneg (h.sign rfl)
  | case5 cs hne hplus hminus =>
    -- The last branch of the reader: neither sign is in front, so the digits stand alone.
    have hplus' : cs.head? ≠ some '+' := by
      intro hhead
      obtain ⟨rest, rfl⟩ := List.head?_eq_some_iff.1 hhead
      exact hplus rest rfl
    have hminus' : cs.head? ≠ some '-' := by
      intro hhead
      obtain ⟨rest, rfl⟩ := List.head?_eq_some_iff.1 hhead
      exact hminus rest rfl
    rw [map_readMagnitude_eq_ok_iff, Int.ofNat_eq_natCast]
    constructor
    · rintro ⟨⟨hdigits, rfl⟩, hlimit⟩
      exact ⟨.unsigned hdigits, fun h => absurd h hminus', by omega, by omega⟩
    · intro h
      obtain ⟨hdigits, rfl⟩ := (numeral_iff_of_head?_ne hplus' hminus').1 h.numeral
      exact ⟨⟨hdigits, rfl⟩, by have := h.greatest; omega⟩

end Numerals

/-! ## 3. Decimal numerals -/

/-- What is spelled by the digits that a number is written with. -/
theorem spelled_toDigits (n : Nat) : spelled 0 (Nat.toDigits 10 n) = n :=
  Nat.ofDigitChars_toDigits (by decide) (by decide)

theorem isDigits_toDigits (n : Nat) : IsDigits (Nat.toDigits 10 n) :=
  ⟨Nat.toDigits_ne_nil, fun _ => Nat.isDigit_of_mem_toDigits (by decide) (by decide)⟩

theorem toList_toString_natCast (n : Nat) : (toString (n : Int)).toList = Nat.toDigits 10 n :=
  String.toList_ofList

/-- A negative number is written with a minus sign before the digits of its opposite. -/
theorem toList_toString_negSucc (n : Nat) :
    (toString (Int.negSucc n)).toList = '-' :: Nat.toDigits 10 (n + 1) := by
  have hsign : toString (Int.negSucc n) = "-" ++ String.ofList (Nat.toDigits 10 (n + 1)) := rfl
  simp [hsign]

/-- A number is written as one of its numerals. -/
theorem numeral_toString (n : Int) : Numeral (toString n).toList n := by
  cases n with
  | ofNat n =>
    have h := Numeral.unsigned (isDigits_toDigits n)
    rw [spelled_toDigits] at h
    exact (toList_toString_natCast n) ▸ h
  | negSucc n =>
    have h := Numeral.minus (isDigits_toDigits (n + 1))
    rw [spelled_toDigits] at h
    exact (toList_toString_negSucc n) ▸ h

/-- In a range that has the number, the text is read back as it. -/
theorem numeralIn_toString {range : NumeralRange} {n : Int} (hleast : range.least ≤ n)
    (hgreatest : n ≤ range.greatest) : NumeralIn range (toString n).toList n := by
  refine ⟨numeral_toString n, fun hminus => ?_, hleast, hgreatest⟩
  cases n with
  | ofNat n =>
    rw [Int.ofNat_eq_natCast, toList_toString_natCast] at hminus
    exact absurd hminus ((isDigits_toDigits n).head?_ne (by decide))
  | negSucc n => omega

/-- The characters of a numeral. A text with any other character is none. -/
theorem Numeral.mem {cs : List Char} {n : Int} {c : Char} (h : Numeral cs n) (hc : c ∈ cs) :
    c.isDigit = true ∨ c = '+' ∨ c = '-' := by
  cases h with
  | unsigned hdigits => exact .inl (hdigits.each c hc)
  | plus hdigits =>
    rcases List.mem_cons.1 hc with rfl | hc
    · exact .inr (.inl rfl)
    · exact .inl (hdigits.each c hc)
  | minus hdigits =>
    rcases List.mem_cons.1 hc with rfl | hc
    · exact .inr (.inr rfl)
    · exact .inl (hdigits.each c hc)

theorem Numeral.ne_nil {cs : List Char} {n : Int} (h : Numeral cs n) : cs ≠ [] := by
  cases h with
  | unsigned hdigits => exact hdigits.notEmpty
  | plus | minus => exact List.cons_ne_nil _ _

/-! ## 4. Texts that are numerals -/

/-- The text is a numeral of the range. For a range without negative numbers this excludes the minus
sign, even before a zero. -/
def IsNumeral (range : NumeralRange) (s : String) : Prop := ∃ n, NumeralIn range s.toList n

/-- The test asks whether the text can be read, so whether it is a numeral. -/
theorem isInt_iff {range : NumeralRange} (hrange : range.HasZero) {s : String} :
    isInt range s = true ↔ IsNumeral range s := by
  rw [isInt, IsNumeral]
  cases hread : readInt range s.toList with
  | ok n => exact iff_of_true rfl ⟨n, (readInt_eq_ok_iff hrange).1 hread⟩
  | error e =>
    refine iff_of_false nofun fun ⟨n, hn⟩ => ?_
    rw [(readInt_eq_ok_iff hrange).2 hn] at hread
    cases hread

end Gatehouse.Text
