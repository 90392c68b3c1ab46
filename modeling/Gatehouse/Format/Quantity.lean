import Gatehouse.Text.Pattern

/-!
Quantities as the proxy's configuration has them: durations, sizes, and the number and size of
buffers. Blanks around a quantity do not count. The digits are those of any script.
-/

set_option autoImplicit false

namespace Gatehouse.Format

open Text

/-- One or more decimal digits. -/
def number : Pattern := .plus (.one .decimalDigit)

/-- The units of a duration, from the millisecond to the year. -/
def durationUnits : List String := ["ms", "s", "m", "h", "d", "w", "M", "y"]

/-- A number, a unit if there is one, and any spaces after it. -/
def durationToken : Pattern :=
  .inOrder [number, .opt (.anyOf (durationUnits.map .literal)), .star (.one (.among [' ']))]

/-- One or more numbers with units. -/
def durationPattern : Pattern := .plus durationToken

/-- A number and one of the units, or none. -/
def sizePattern (units : List Char) : Pattern := .seq number (.opt (.one (.among units)))

/-- A number of buffers, a space and the size of each. -/
def buffersPattern : Pattern :=
  .inOrder [number, .one (.among [' ']), sizePattern ['k', 'K', 'm', 'M']]

/-- The text without the blanks around it has the pattern. -/
def hasTrimmed (p : Pattern) (s : String) : Bool := p.accepts (trim s.toList)

/-- A duration, such as `1h 30m`. -/
def isTime (s : String) : Bool := hasTrimmed durationPattern s

/-- A size up to gigabytes. -/
def isOffset (s : String) : Bool := hasTrimmed (sizePattern ['k', 'K', 'm', 'M', 'g', 'G']) s

/-- A size up to megabytes. -/
def isSize (s : String) : Bool := hasTrimmed (sizePattern ['k', 'K', 'm', 'M']) s

/-- A number of buffers and their size, such as `8 4k`. -/
def isProxyBuffers (s : String) : Bool := hasTrimmed buffersPattern s

end Gatehouse.Format
