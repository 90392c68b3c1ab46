/-!
Decimal numerals and truth values in texts. A numeral is an optional sign and at least one of the
digits `0` to `9`, leading zeros allowed; its value must lie in the range of the number that is
asked for, and the digit that leads out of the range is where reading stops, so a text that is both
too large and malformed later on is reported as too large.
-/

set_option autoImplicit false

namespace Gatehouse.Text

/-- Why a text is no numeral of the range asked for. -/
inductive NumeralError
  | empty
  | badDigit
  | tooLarge
  | tooSmall
  deriving DecidableEq, Repr

/-- The wording of a numeral error. -/
def NumeralError.message : NumeralError → String
  | .empty => "cannot parse integer from empty string"
  | .badDigit => "invalid digit found in string"
  | .tooLarge => "number too large to fit in target type"
  | .tooSmall => "number too small to fit in target type"

/-- The range of numbers asked for, both ends included. A range without negative numbers takes no
minus sign. -/
structure NumeralRange where
  least : Int
  greatest : Int
  deriving DecidableEq, Repr

/-- Signed numbers of 32 bits. -/
def int32Range : NumeralRange := ⟨-2147483648, 2147483647⟩

/-- Signed numbers of 64 bits. -/
def int64Range : NumeralRange := ⟨-9223372036854775808, 9223372036854775807⟩

/-- Unsigned numbers of 64 bits. -/
def nat64Range : NumeralRange := ⟨0, 18446744073709551615⟩

/-- The value of a digit. -/
def digitValue (c : Char) : Nat := c.toNat - 48

/-- Reads digits onto a value read so far; `beyond` is the error of a value beyond the limit. -/
def readDigits (limit : Nat) (beyond : NumeralError) : Nat → List Char → Except NumeralError Nat
  | acc, [] => .ok acc
  | acc, c :: cs =>
    if c.isDigit then
      if 10 * acc + digitValue c ≤ limit then
        readDigits limit beyond (10 * acc + digitValue c) cs
      else .error beyond
    else .error .badDigit

/-- The value of at least one digit, without a sign. -/
def readMagnitude (limit : Nat) (beyond : NumeralError) : List Char → Except NumeralError Nat
  | [] => .error .badDigit
  | cs => readDigits limit beyond 0 cs

/-- The number a text stands for. -/
def readInt (range : NumeralRange) (cs : List Char) : Except NumeralError Int :=
  match cs with
  | [] => .error .empty
  | '+' :: cs => (readMagnitude range.greatest.toNat .tooLarge cs).map Int.ofNat
  | '-' :: cs =>
    if range.least < 0 then
      (readMagnitude (-range.least).toNat .tooSmall cs).map fun n => -Int.ofNat n
    else .error .badDigit
  | cs => (readMagnitude range.greatest.toNat .tooLarge cs).map Int.ofNat

/-- The text is a numeral of the range. -/
def isInt (range : NumeralRange) (s : String) : Bool :=
  match readInt range s.toList with
  | .ok _ => true
  | .error _ => false

/-- The truth value a text stands for, in one of the six spellings of each. -/
def readBool (s : String) : Option Bool :=
  if ["1", "t", "T", "TRUE", "true", "True"].contains s then some true
  else if ["0", "f", "F", "FALSE", "false", "False"].contains s then some false
  else none

end Gatehouse.Text
