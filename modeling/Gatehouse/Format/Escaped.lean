/-!
Escaped strings: texts that may stand between double quotes in a configuration file. Every double
quote in such a text has a backslash before it, and the text does not end in a backslash that
escapes nothing. A reader of the file that skips the character after each backslash therefore does
not meet the end of the string before the end of the text.
-/

set_option autoImplicit false

namespace Gatehouse.Format

/-- Every quote is escaped, and so is something after every backslash that escapes; a line feed
cannot be escaped. -/
def escapesQuotes : List Char → Bool
  | [] => true
  | ['\\'] => false
  | '\\' :: c :: cs => c != '\n' && escapesQuotes cs
  | c :: cs => c != '"' && escapesQuotes cs

/-- The text may stand between double quotes. -/
def isEscaped (s : String) : Bool := escapesQuotes s.toList

/-- The complaint about a text that may not stand between double quotes. -/
def escapedComplaint (s : String) : String :=
  "'" ++ s ++ "' must have all '\"' (double quotes) escaped and must not end with an unescaped "
    ++ "'\\' (backslash)"

end Gatehouse.Format
