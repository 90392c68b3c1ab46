import Gatehouse.CommandLine.Settings

/-!
The command line. It consists of switches, `--name`, and of options with a value, `--name value` or
`--name=value`; each may be given once, and everything else is refused.

The words are read from left to right. A value that is written as a word of its own is looked at
only when the next switch or option comes, or at the end; so a word that is not known is reported
before a bad value in front of it, while a bad value is reported before a bad option behind it. A
word that starts with a hyphen is never a value, the hyphen alone excepted, and no name has a single
hyphen in front. After the word `--` everything is refused.
-/

set_option autoImplicit false

namespace Gatehouse.CommandLine

open Text

/-! ## 1. Switches and options -/

/-- A switch. -/
inductive Switch
  | tlsPassthrough
  | snippets
  | plus
  | appProtect
  | appProtectDos
  | internalRoutes
  deriving DecidableEq

/-- The name of a switch. -/
def Switch.name : Switch → String
  | tlsPassthrough => "enable-tls-passthrough"
  | snippets => "enable-snippets"
  | plus => "nginx-plus"
  | appProtect => "enable-app-protect"
  | appProtectDos => "enable-app-protect-dos"
  | internalRoutes => "enable-internal-routes"

/-- All switches. -/
def Switch.all : List Switch :=
  [tlsPassthrough, snippets, plus, appProtect, appProtectDos, internalRoutes]

/-- An option with a value. Those from the log filter on say what to log, where to serve and how to
reach the cluster: their values have to be well-formed and change nothing else. Any value will do
for the others. -/
inductive Valued
  | className
  | globalConfiguration
  | customResources
  | forbiddenPorts
  | logFilter
  | logFormat
  | adminAddress
  | clusterFile
  | other (name : String)
  deriving DecidableEq

/-- The name of an option. -/
def Valued.name : Valued → String
  | className => "ingress-class"
  | globalConfiguration => "global-configuration"
  | customResources => "enable-custom-resources"
  | forbiddenPorts => "forbidden-listener-ports"
  | logFilter => "log-level"
  | logFormat => "log-format"
  | adminAddress => "admin-addr"
  | clusterFile => "kubeconfig"
  | other name => name

/-- All options with a value. -/
def Valued.all : List Valued :=
  [className, globalConfiguration, customResources, forbiddenPorts, logFilter, logFormat,
      adminAddress, clusterFile] ++
    ["cluster", "context", "user", "as", "as-group"].map other

/-- The switch of a name. -/
def switch? (name : String) : Option Switch := Switch.all.find? fun s => s.name == name

/-- The option of a name. -/
def valued? (name : String) : Option Valued := Valued.all.find? fun v => v.name == name

/-! ## 2. Words -/

/-- The form of a word. -/
inductive Word
  | separator
  | long (name : String) (value : Option String)
  | short
  | plain (text : String)
  deriving DecidableEq

/-- The form of a word, by the hyphens that it starts with. -/
def Word.ofText (text : String) : Word :=
  match text.toList with
  | ['-', '-'] => .separator
  | '-' :: '-' :: rest =>
    match splitFirst '=' (String.ofList rest) with
    | some (name, value) => .long name (some value)
    | none => .long (String.ofList rest) none
  | '-' :: _ :: _ => .short
  | _ => .plain text

/-! ## 3. Faults -/

/-- Why a command line is refused. -/
inductive Fault
  | unknownArgument (word : String)
  | noValue (option : String)
  | badTruthValue (option value : String)
  | badValue (option value : String) (why : ValueFault)
  | givenTwice (option : String)
  | unwantedValue (switch : String)
  deriving DecidableEq

/-- The wording of a fault. -/
def Fault.message : Fault → String
  | unknownArgument word => "unexpected argument '" ++ word ++ "' found"
  | noValue option => "a value is required for '--" ++ option ++ "' but none was supplied"
  | badTruthValue option value =>
    "invalid value '" ++ value ++ "' for '--" ++ option ++ "': true or false expected"
  | badValue option value why =>
    "invalid value '" ++ value ++ "' for '--" ++ option ++ "': " ++ why.message
  | givenTwice option => "the argument '--" ++ option ++ "' cannot be used multiple times"
  | unwantedValue switch => "no value is expected for '--" ++ switch ++ "'"

/-! ## 4. Reading -/

/-- How far a command line is read: what it says so far, the names that were given, an option whose
value is not yet looked at or not yet there, and whether the separator was met. -/
structure Reading where
  settings : Settings
  given : List String
  pending : Option (Valued × Option String)
  isSeparated : Bool

/-- Nothing is read. -/
def Reading.start : Reading := ⟨.standard, [], none, false⟩

/-- The settings with a switch. -/
def withSwitch (s : Settings) : Switch → Settings
  | .tlsPassthrough => { s with tlsPassthrough := true }
  | .snippets => { s with snippets := true }
  | .plus => { s with plus := true }
  | .appProtect => { s with appProtect := true }
  | .appProtectDos => { s with appProtectDos := true }
  | .internalRoutes => { s with internalRoutes := true }

/-- The settings with the value of an option. -/
def withValue (s : Settings) (v : Valued) (value : String) : Except Fault Settings :=
  match v with
  | .className => .ok { s with className := value }
  | .globalConfiguration =>
    match globalKeyOf value with
    | .ok key => .ok { s with globalKey := some key }
    | .error why => .error (.badValue v.name value why)
  | .customResources =>
    if value = "true" then .ok { s with customResources := true }
    else if value = "false" then .ok { s with customResources := false }
    else .error (.badTruthValue v.name value)
  | .forbiddenPorts =>
    match portsOf value with
    | .ok ports => .ok { s with forbiddenPorts := ports }
    | .error why => .error (.badValue v.name value why)
  | .logFilter =>
    match Format.logFilterFault? value with
    | none => .ok s
    | some fault => .error (.badValue v.name value (.logFilter fault))
  | .logFormat =>
    if ["plain", "json"].contains value then .ok s
    else .error (.badValue v.name value (.logFormat value))
  | .adminAddress =>
    if Format.isSocketAddress value then .ok s
    else .error (.badValue v.name value .socketAddress)
  | .clusterFile => if value.isEmpty then .error (.noValue v.name) else .ok s
  | .other _ => .ok s

namespace Reading

/-- Notes that a name is given. -/
def note (r : Reading) (name : String) : Except Fault Reading :=
  if r.given.contains name then .error (.givenTwice name)
  else .ok { r with given := name :: r.given }

/-- Takes a value for an option. -/
def take (r : Reading) (v : Valued) (value : String) : Except Fault Reading := do
  let r ← r.note v.name
  let settings ← withValue r.settings v value
  return { r with settings }

/-- Looks at the option whose value was not yet looked at. -/
def settled (r : Reading) : Except Fault Reading :=
  match r.pending with
  | none => .ok r
  | some (v, none) => .error (.noValue v.name)
  | some (v, some value) => take { r with pending := none } v value

/-- Takes a switch. -/
def turnOn (r : Reading) (s : Switch) : Except Fault Reading := do
  let r ← r.settled
  let r ← r.note s.name
  return { r with settings := withSwitch r.settings s }

/-- Reads one more word. -/
def word (r : Reading) (text : String) : Except Fault Reading :=
  if r.isSeparated then .error (.unknownArgument text)
  else match Word.ofText text with
    | .separator => .ok { r with isSeparated := true }
    | .long name value =>
      match switch? name, value with
      | some _, some _ => .error (.unwantedValue name)
      | some s, none => r.turnOn s
      | none, value =>
        match valued? name, value with
        | none, _ => .error (.unknownArgument text)
        | some v, some value => do
          let r ← r.settled
          r.take v value
        | some v, none => do
          let r ← r.settled
          return { r with pending := some (v, none) }
    | .short => .error (.unknownArgument text)
    | .plain value =>
      match r.pending with
      | some (v, none) => .ok { r with pending := some (v, some value) }
      | _ => .error (.unknownArgument text)

end Reading

/-- What a command line says. -/
def read (words : List String) : Except Fault Settings := do
  let r ← words.foldlM Reading.word .start
  let r ← r.settled
  return r.settings

end Gatehouse.CommandLine
