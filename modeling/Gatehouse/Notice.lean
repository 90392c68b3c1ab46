import Gatehouse.Field
import Gatehouse.Json
import Gatehouse.Problem
import Gatehouse.Report
import Gatehouse.Text.Quoted

/-!
Notices: what the controller tells about its work. A notice has a level, a message, and named
fields; all three are functions of what it is about.
-/

set_option autoImplicit false

namespace Gatehouse

/-- How much a notice matters. -/
inductive Level
  | warn
  | info
  | debug
  deriving DecidableEq

/-- The name of a level. -/
def Level.name : Level → String
  | .warn => "WARN"
  | .info => "INFO"
  | .debug => "DEBUG"

/-- What the controller tells. Resources are given by their keys. -/
inductive Notice
  /-- A change that is to be followed. -/
  | changed (op : Change.Op) (resource : String) (error : Option String)
  /-- A problem of an object. -/
  | problem (p : Problem)
  /-- Resources depend on an object that came, changed or went. -/
  | affected (kind : Kind) (space name : String) (resources : List String)
  /-- A global configuration is not the one that counts. -/
  | otherGlobalConfiguration (key : String)
  /-- The global configuration is wrong. -/
  | badGlobalConfiguration (key : String) (errors : List FieldError)
  /-- A policy can be used no longer, or again. -/
  | policyTurned (op : Change.Op) (policy : String)
  /-- So many signatures can be used. -/
  | usableSignatures (count : Nat)
  deriving DecidableEq

namespace Notice

/-- The level of a notice. -/
def level : Notice → Level
  | changed .. | affected .. | policyTurned .. => .info
  | problem _ | badGlobalConfiguration .. => .warn
  | otherGlobalConfiguration _ | usableSignatures _ => .debug

/-- The message of a notice. -/
def message : Notice → String
  | changed .. => "Configuration changed"
  | problem p => p.message
  | affected .. => "Referenced object changed"
  | otherGlobalConfiguration _ => "Ignoring GlobalConfiguration"
  | badGlobalConfiguration .. => "GlobalConfiguration is invalid"
  | policyTurned .. => "App Protect policy changed"
  | usableSignatures _ => "Valid user signatures"

/-- The fields of a notice. A change without an error has no field for one, and the keys of
resources are shown as one list of quoted texts. -/
def fields : Notice → List (String × Json)
  | changed op resource error =>
    [("op", .str op.name), ("resource", .str resource)] ++
      error.toList.map fun e => ("error", .str e)
  | problem p =>
    [("object", .str p.key), ("reason", .str p.reason.name), ("is_error", .bool p.isError)]
  | affected kind space name resources =>
    [("kind", .str kind.name), ("namespace", .str space), ("name", .str name),
      ("resources", .str ("[" ++ Text.quotedList resources ++ "]"))]
  | otherGlobalConfiguration key => [("key", .str key)]
  | badGlobalConfiguration key errors =>
    [("key", .str key), ("error", .str (FieldError.summary errors))]
  | policyTurned op policy => [("op", .str op.name), ("policy", .str policy)]
  | usableSignatures count => [("user_sigs", .int count)]

/-- The notices about a report: its changes, then its problems. -/
def ofReport {α : Type} (keyOf : α → String) (r : Report α) : List Notice :=
  r.changes.map (fun c => changed c.op (keyOf c.resource) c.error) ++ r.problems.map problem

end Notice

end Gatehouse
