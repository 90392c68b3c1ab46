import Gatehouse.Text.Numeral
import Gatehouse.Text.Pattern
import Gatehouse.Text.Split

/-!
Lists in one text: ports and services separated by commas, sticky services and rewrites separated
by semicolons. Blanks around an item do not count. Empty items are passed over, except in a list of
ports, where each item is to be a port.
-/

set_option autoImplicit false

namespace Gatehouse.Format

open Text

/-- A number that is a port. -/
def isPort (n : Int) : Bool := decide (1 ≤ n) && decide (n ≤ 65535)

/-- The text is the numeral of a port. -/
def isPortNumeral (s : String) : Bool :=
  match readInt int64Range s.toList with
  | .ok n => isPort n
  | .error _ => false

/-- Ports, separated by commas. -/
def isPortList (s : String) : Bool :=
  (splitAll ',' s).all fun item => isPortNumeral (trimmed item)

/-- The items of a list that are not empty. -/
def listItems (separator : Char) (s : String) : List String :=
  ((splitAll separator s).map trimmed).filter fun item => !item.isEmpty

/-- The names of a list of services. -/
def serviceList (s : String) : List String := listItems ',' s

/-- One or more characters that are not blank. -/
def word : Pattern := .plus (.one .nonBlank)

/-- The name of a service, as an item begins with it. -/
def serviceName : Pattern := .seq (.literal "serviceName=") word

/-- One or more blanks. -/
def gap : Pattern := .plus (.one .blank)

/-- A service and the parameters of its sticky sessions. -/
def stickyServicePattern : Pattern :=
  .inOrder [serviceName, gap, .one .nonBlank, .star (.one (.outside ['\n']))]

/-- A service and the path that requests for it get. -/
def rewritePattern : Pattern := .inOrder [serviceName, gap, .literal "rewrite=", word]

/-- Services with sticky sessions, separated by semicolons. -/
def isStickyServiceList (s : String) : Bool :=
  (listItems ';' s).all fun item => stickyServicePattern.accepts item.toList

/-- Rewrites, separated by semicolons. -/
def isRewriteList (s : String) : Bool :=
  (listItems ';' s).all fun item => rewritePattern.accepts item.toList

end Gatehouse.Format
