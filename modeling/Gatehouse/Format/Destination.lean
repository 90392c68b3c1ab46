import Gatehouse.Format.Listed
import Gatehouse.Format.Quantity

/-!
Destinations of logs: an address, `localhost` or the name of a host, with a port, or the standard
error stream. The digits of the port may be those of any script, but only a port that is written in
ASCII digits has a number.
-/

set_option autoImplicit false

namespace Gatehouse.Format

open Text

/-- Between one and five decimal digits after a colon. -/
def portPart : Pattern := .seq (.literal ":") (.times (.one .decimalDigit) 4 1)

/-- Between one and three decimal digits. -/
def octet : Pattern := .times (.one .decimalDigit) 2 1

/-- Four numbers, separated by dots, and a port. -/
def addressPattern : Pattern :=
  .inOrder [.times (.seq octet (.literal ".")) 0 3, octet, portPart]

/-- A letter. -/
def letter : CharSet := .either (.between 'A' 'Z') (.between 'a' 'z')

/-- A letter, a digit or a hyphen. -/
def hostChar : CharSet := .either (.either letter (.between '0' '9')) (.among ['-'])

/-- Names separated by dots, the last of them of two to six letters, and a port. -/
def hostPattern : Pattern :=
  .inOrder [.one (.either letter (.between '0' '9')), .times (.one hostChar) 61 1, .literal ".",
    .star (.seq (.times (.one hostChar) 62 1) (.literal ".")), .times (.one letter) 4 2, portPart]

/-- The own host and a port. -/
def ownHostPattern : Pattern := .seq (.literal "localhost") portPart

/-- A text with one of the forms that have a port. -/
def destinationPattern : Pattern := .anyOf [addressPattern, hostPattern, ownHostPattern]

/-- The number after the last colon, 0 when it is not one. -/
def destinationPort (s : String) : Int :=
  match readInt int64Range (afterLast ':' s).toList with
  | .ok n => n
  | .error _ => 0

/-- What is wrong with a destination. -/
inductive DestinationFault
  | badPort (port : Int)
  | badForm (destination : String)
  deriving DecidableEq

/-- The wording of what is wrong with a destination. -/
def DestinationFault.message : DestinationFault → String
  | .badPort port =>
    "invalid log destination: error parsing port: " ++ toString port ++ " not a valid port number"
  | .badForm destination =>
    "invalid log destination: " ++ destination ++
      ", must follow format: <ip-address | localhost | dns name>:<port> or stderr"

/-- What is wrong with a destination, if something is. -/
def destinationFault? (s : String) : Option DestinationFault :=
  if destinationPattern.accepts s.toList then
    if isPort (destinationPort s) then none else some (.badPort (destinationPort s))
  else if s = "stderr" then none
  else some (.badForm s)

end Gatehouse.Format
