import Gatehouse.Text.Quoted

/-!
Field errors: what is wrong with an object, and where. A check gives the list of everything it
finds, in the order of the fields; an object is accepted when the list is empty. The wording of an
error is in `FieldError.message`, that of a list in `FieldError.summary`.
-/

set_option autoImplicit false

namespace Gatehouse

/-! ## 1. Places -/

/-- One step from a value into a part of it. -/
inductive Path.Step
  | field (name : String)
  | item (index : Nat)
  deriving DecidableEq

/-- A place in an object: a top-level field and the steps from there, the last step first. -/
structure Path where
  root : String
  steps : List Path.Step
  deriving DecidableEq

namespace Path

/-- The place of a top-level field. -/
def top (name : String) : Path := ⟨name, []⟩

/-- The place of a field of the value at this place. -/
def child (p : Path) (name : String) : Path := { p with steps := .field name :: p.steps }

/-- The place of an item of the list at this place. -/
def index (p : Path) (i : Nat) : Path := { p with steps := .item i :: p.steps }

/-- One step as it is shown. -/
def Step.text : Step → String
  | .field name => "." ++ name
  | .item i => "[" ++ toString i ++ "]"

/-- The place as it is shown. -/
def text (p : Path) : String := p.steps.foldr (fun step shown => shown ++ step.text) p.root

@[simp] theorem text_top (name : String) : (top name).text = name := rfl

end Path

/-! ## 2. Errors -/

/-- A value that is complained about. -/
inductive BadValue
  | text (value : String)
  | number (value : Int)
  deriving DecidableEq

/-- A value as messages show it: a text quoted, a number plain. -/
def BadValue.shown : BadValue → String
  | .text value => Text.quoted value
  | .number value => toString value

/-- Something wrong with a field. -/
inductive FieldError
  | required (path : Path) (detail : String)
  | duplicate (path : Path) (value : BadValue)
  | invalid (path : Path) (value : BadValue) (detail : String)
  | forbidden (path : Path) (detail : String)
  | tooMany (path : Path) (actual most : Nat)
  | notFound (path : Path) (value : BadValue)
  | notSupported (path : Path) (value : BadValue) (supported : List String)
  deriving DecidableEq

namespace FieldError

/-- The place of the error. -/
def path : FieldError → Path
  | .required p _ | .duplicate p _ | .invalid p _ _ | .forbidden p _ | .tooMany p _ _
  | .notFound p _ | .notSupported p _ _ => p

/-- The name of the kind of error. -/
def kindName : FieldError → String
  | .required .. => "Required"
  | .duplicate .. => "Duplicate"
  | .invalid .. => "Invalid"
  | .forbidden .. => "Forbidden"
  | .tooMany .. => "TooMany"
  | .notFound .. => "NotFound"
  | .notSupported .. => "NotSupported"

/-- A detail after a colon; nothing when there is none. -/
def withDetail (text detail : String) : String :=
  if detail.isEmpty then text else text ++ ": " ++ detail

/-- What is wrong, without the place. -/
def complaint : FieldError → String
  | .required _ detail => withDetail "Required value" detail
  | .duplicate _ value => "Duplicate value: " ++ value.shown
  | .invalid _ value detail => withDetail ("Invalid value: " ++ value.shown) detail
  | .forbidden _ detail => withDetail "Forbidden" detail
  | .tooMany _ actual most =>
    "Too many: " ++ toString actual ++ ": must have at most " ++ toString most ++ " items"
  | .notFound _ value => "Not found: " ++ value.shown
  | .notSupported _ value supported =>
    "Unsupported value: " ++ value.shown ++ ": supported values: " ++ Text.quotedList supported

/-- The text of an error. -/
def message (e : FieldError) : String := e.path.text ++ ": " ++ e.complaint

/-- The text of a list of errors: nothing, the one error, or all of them in brackets. -/
def summary : List FieldError → String
  | [] => ""
  | [e] => e.message
  | errors => "[" ++ ", ".intercalate (errors.map message) ++ "]"

end FieldError

end Gatehouse
