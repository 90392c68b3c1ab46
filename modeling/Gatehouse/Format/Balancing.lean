import Gatehouse.Format.Escaped
import Gatehouse.Text.Pattern
import Gatehouse.Text.Quoted
import Gatehouse.Text.Split

/-!
Load balancing methods. Requests and streams have their own lists of methods, and each list is
longer for the commercial build of the proxy. Besides the listed ones there is balancing by the
hash of a key, which is any word.
-/

set_option autoImplicit false

namespace Gatehouse.Format

open Text

/-- The methods for requests. -/
def httpMethods : List String :=
  ["round_robin", "least_conn", "ip_hash", "random", "random two", "random two least_conn"]

/-- The methods for requests that the commercial build adds. -/
def plusHttpMethods : List String :=
  ["least_time header", "least_time last_byte", "least_time header inflight",
    "least_time last_byte inflight", "random least_time=header", "random least_time=last_byte",
    "random two least_time=header", "random two least_time=last_byte"]

/-- The methods for streams. -/
def streamMethods : List String :=
  ["round_robin", "least_conn", "random", "random two", "random two least_conn"]

/-- The methods for streams that the commercial build adds. -/
def plusStreamMethods : List String :=
  ["random least_conn", "least_time connect", "least_time first_byte", "least_time last_byte",
    "least_time last_byte inflight"]

/-- Balancing by the hash of a key. -/
def hashPattern : Pattern :=
  .inOrder [.literal "hash ", .plus (.one .nonBlank), .opt (.literal " consistent")]

/-- The method is balancing by a hash. -/
def isHashMethod (method : String) : Bool := hashPattern.accepts method.toList

/-- The method is one for requests; no method is one too. -/
def isHttpMethod (isPlus : Bool) (method : String) : Bool :=
  method.isEmpty || httpMethods.contains method || isPlus && plusHttpMethods.contains method ||
    isHashMethod method

/-- What is wrong with a text as a method for requests. Blanks around it do not count. -/
def httpMethodComplaint (isPlus : Bool) (text : String) : Option String :=
  if isHttpMethod isPlus (trimmed text) then none
  else some ("Invalid load balancing method: " ++ quoted (trimmed text))

/-- What is wrong with a method for streams, from which the blanks around it are stripped. A method
that begins like a hash is judged as one. -/
def streamMethodComplaint (isPlus : Bool) (method : String) : Option String :=
  if method.isEmpty then none
  else if startsWith method "hash" then
    if !isHashMethod method then some ("invalid value for load balancing method: " ++ method)
    else if isEscaped method then none
    else some ("invalid value for hash: " ++ escapedComplaint method)
  else if streamMethods.contains method || isPlus && plusStreamMethods.contains method then none
  else some ("load balancing method is not valid: " ++ method)

end Gatehouse.Format
