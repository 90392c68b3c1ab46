import Gatehouse.Text.Ranges

/-!
White space, as the Unicode property of that name has it, and the text left when it is stripped
from both ends.
-/

set_option autoImplicit false

namespace Gatehouse.Text

/-- The characters with the property White_Space: the five controls from tab to carriage return,
the space, next line, the no-break and fixed-width spaces, and the two separators. -/
def blanks : Ranges :=
  [(0x9, 0xD), (0x20, 0x20), (0x85, 0x85), (0xA0, 0xA0), (0x1680, 0x1680), (0x2000, 0x200A),
    (0x2028, 0x2029), (0x202F, 0x202F), (0x205F, 0x205F), (0x3000, 0x3000)]

/-- A white space character. -/
def isBlank (c : Char) : Bool := blanks.has c

/-- Drops the blanks at the front. -/
def trimLeft (cs : List Char) : List Char := cs.dropWhile isBlank

/-- Drops the blanks at both ends; those between other characters stay. -/
def trim (cs : List Char) : List Char := (trimLeft (trimLeft cs).reverse).reverse

/-- The text without the blanks at its ends. -/
def trimmed (s : String) : String := String.ofList (trim s.toList)

end Gatehouse.Text
