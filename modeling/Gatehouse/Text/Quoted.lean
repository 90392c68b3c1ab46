import Gatehouse.Text.Unprintable

/-!
Quoted text, the form in which messages show a value they complain about: between double quotes,
with a backslash before every quote and backslash inside, the short escapes for tab, carriage
return, line feed and NUL, and the code point in hexadecimal for every other character that would
not show. A character is escaped by itself, so the quoted form of a text is the concatenation of
the escapes of its characters (`escaped_append`).
-/

set_option autoImplicit false

namespace Gatehouse.Text

/-- The written form of one character inside quotes. -/
def escape (c : Char) : List Char :=
  match c with
  | '"' => ['\\', '"']
  | '\\' => ['\\', '\\']
  | '\t' => ['\\', 't']
  | '\r' => ['\\', 'r']
  | '\n' => ['\\', 'n']
  | '\x00' => ['\\', '0']
  | c =>
    if isUnprintable c then
      ['\\', 'u', '\x7b'] ++ Nat.toDigits 16 c.toNat ++ ['\x7d']
    else [c]

/-- The text between the quotes. -/
def escaped (cs : List Char) : List Char := cs.flatMap escape

@[simp] theorem escaped_nil : escaped [] = [] := rfl

@[simp] theorem escaped_cons (c : Char) (cs : List Char) :
    escaped (c :: cs) = escape c ++ escaped cs := rfl

theorem escaped_append (as bs : List Char) : escaped (as ++ bs) = escaped as ++ escaped bs :=
  List.flatMap_append

/-- A value as messages show it. -/
def quoted (s : String) : String := String.ofList ('"' :: escaped s.toList ++ ['"'])

/-- Several values as messages show them, with a comma and a space between two. -/
def quotedList (values : List String) : String := ", ".intercalate (values.map quoted)

end Gatehouse.Text
