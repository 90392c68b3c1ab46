/-!
Base64: bytes written with the letters, the digits, `+` and `/`, six bits a character. Four
characters stand for three bytes. Equals signs fill up the last four when fewer bytes are left, and
the bits that are left over then are zero, so each sequence of bytes has one written form.
-/

set_option autoImplicit false

namespace Gatehouse.Format

/-- The six bits a character stands for. -/
def sextet? (c : Char) : Option Nat :=
  if c.isUpper then some (c.toNat - 'A'.toNat)
  else if c.isLower then some (c.toNat - 'a'.toNat + 26)
  else if c.isDigit then some (c.toNat - '0'.toNat + 52)
  else if c = '+' then some 62
  else if c = '/' then some 63
  else none

/-- The character stands for six bits that make a multiple of the number. -/
def isSextet (unit : Nat) (c : Char) : Bool := (sextet? c).any fun n => n % unit == 0

/-- The characters are the written form of some bytes. -/
def isBase64Text : List Char → Bool
  | [] => true
  | [a, b, '=', '='] => isSextet 1 a && isSextet 16 b
  | [a, b, c, '='] => isSextet 1 a && isSextet 1 b && isSextet 4 c
  | a :: b :: c :: d :: cs => [a, b, c, d].all (isSextet 1) && isBase64Text cs
  | _ => false

/-- The text is the written form of some bytes. -/
def isBase64 (s : String) : Bool := isBase64Text s.toList

end Gatehouse.Format
