import Gatehouse.Format.LogFilter
import Gatehouse.Format.SocketAddress
import Gatehouse.Text.Blank
import Gatehouse.Text.Numeral
import Gatehouse.Text.Quoted
import Gatehouse.Text.Split
import Gatehouse.Validation.Features

/-!
Settings: what the command line says, and how the values of its options are read.
-/

set_option autoImplicit false

namespace Gatehouse

open Text

/-! ## 1. Values -/

/-- Why the value of an option is refused. -/
inductive ValueFault
  | numeral (error : NumeralError)
  | globalKey (value : String)
  | logFilter (fault : Format.LogFilterFault)
  | logFormat (value : String)
  | socketAddress
  deriving DecidableEq

/-- The wording of a refused value. -/
def ValueFault.message : ValueFault → String
  | numeral error => error.message
  | globalKey value =>
    "invalid GlobalConfiguration " ++ quoted value ++ ": expected namespace/name"
  | logFilter fault => fault.message
  | logFormat value => "invalid log level: " ++ value ++ " must be 'plain' or 'json'"
  | socketAddress => "invalid socket address syntax"

/-- A number in a list that increases; a number that is there already is not put in again. -/
def insertPort (port : Int) : List Int → List Int
  | [] => [port]
  | p :: ps =>
    if port < p then port :: p :: ps else if port = p then p :: ps else p :: insertPort port ps

/-- Reads numerals, up to the first that is none. -/
def readPorts : List String → Except ValueFault (List Int)
  | [] => .ok []
  | item :: items =>
    match readInt int32Range item.toList with
    | .error e => .error (.numeral e)
    | .ok port => (readPorts items).map (insertPort port)

/-- The ports of a list separated by commas, in increasing order. Blanks around an item and empty
items do not count. -/
def portsOf (value : String) : Except ValueFault (List Int) :=
  readPorts (((splitAll ',' value).map trimmed).filter fun item => !item.isEmpty)

/-- The key of an object: a namespace and a name, neither of them empty. -/
def globalKeyOf (value : String) : Except ValueFault String :=
  match splitFirst '/' value with
  | some (space, name) =>
    if !space.isEmpty && !name.isEmpty && !holds name '/' then .ok value
    else .error (.globalKey value)
  | none => .error (.globalKey value)

/-! ## 2. Settings -/

/-- What the command line says. -/
structure Settings where
  className : String
  globalKey : Option String
  customResources : Bool
  tlsPassthrough : Bool
  snippets : Bool
  plus : Bool
  appProtect : Bool
  appProtectDos : Bool
  internalRoutes : Bool
  forbiddenPorts : List Int
  deriving DecidableEq

namespace Settings

/-- What an empty command line says. -/
def standard : Settings where
  className := "nginx"
  globalKey := none
  customResources := true
  tlsPassthrough := false
  snippets := false
  plus := false
  appProtect := false
  appProtectDos := false
  internalRoutes := false
  forbiddenPorts := [80, 443]

/-- What is switched on. -/
def features (s : Settings) : Features where
  isPlus := s.plus
  snippetsEnabled := s.snippets
  appProtectEnabled := s.appProtect
  appProtectDosEnabled := s.appProtectDos
  internalRoutesEnabled := s.internalRoutes
  tlsPassthroughEnabled := s.tlsPassthrough
  forbiddenListenerPorts := s.forbiddenPorts

/-- Settings that do not go together. -/
inductive Refusal
  | dosWithoutPlus
  | globalWithoutCustomResources
  deriving DecidableEq

/-- The wording of a refusal. -/
def Refusal.message : Refusal → String
  | .dosWithoutPlus => "App Protect DoS requires NGINX Plus"
  | .globalWithoutCustomResources =>
    "A GlobalConfiguration requires custom resources to be enabled"

/-- The first pair of settings that do not go together. -/
def refusal? (s : Settings) : Option Refusal :=
  if s.appProtectDos && !s.plus then some .dosWithoutPlus
  else if s.globalKey.isSome && !s.customResources then some .globalWithoutCustomResources
  else none

end Settings

end Gatehouse
