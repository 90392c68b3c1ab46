import Gatehouse.Format.Base64
import Gatehouse.Instant.Reader
import Gatehouse.Table
import Gatehouse.Wire

/-!
Forms of JSON values, for the parts of an object that are checked but not used. A form refuses the
values that do not have it and brings the others into a *normal form*: two values are the same to
the reader of such a part exactly when their normal forms are equal. So the normal form of a record
leaves out unknown fields and those that say nothing, and has the others in a fixed order.
-/

set_option autoImplicit false

namespace Gatehouse

/-- A form of JSON values: the normal form of each value that has it. -/
structure Form where
  normal? : Json → Option Json

namespace Form

/-! ## 1. Scalars -/

/-- A text. -/
def text : Form := ⟨fun j => j.text?.map .str⟩

/-- A truth value. -/
def flag : Form := ⟨fun j => (decodeBool j).map .bool⟩

/-- An integer of a range. -/
def integer (range : Text.NumeralRange) : Form :=
  ⟨fun j => (decodeRanged range j).map fun n => .int n.val⟩

/-- An integer of 32 bits. -/
def int32 : Form := integer Text.int32Range

/-- An integer of 64 bits. -/
def int64 : Form := integer Text.int64Range

/-- A point of time; its normal form is the instant, however it is written. -/
def time : Form :=
  ⟨fun j => (j.text?.bind Instant.readLoose).map fun t => .arr [.int t.second, .int t.nano]⟩

/-- Bytes in base64; null stands for no bytes. -/
def bytes : Form :=
  ⟨fun j => match j with
    | .null => some (.str "")
    | .str s => if Format.isBase64 s then some (.str s) else none
    | _ => none⟩

/-- Any value. -/
def anything : Form := ⟨some⟩

/-! ## 2. Composite forms -/

/-- One form or another. -/
def either (a b : Form) : Form := ⟨fun j => a.normal? j <|> b.normal? j⟩

/-- A list of values of a form. -/
def listOf (item : Form) : Form :=
  ⟨fun j => j.items?.bind fun items => (items.mapM item.normal?).map .arr⟩

/-- A map from texts to values of a form; the order of its entries does not count. -/
def mapOf (value : Form) : Form :=
  ⟨fun j => do
    let fields ← j.fields?
    let entries ← fields.mapM fun f => (value.normal? f.2).map fun n => (f.1, n)
    return .obj (Table.ofList entries).entries⟩

/-- What a field says when it is missing or null. -/
inductive Absence
  | nothing
  | refused
  | same (value : Json)
  deriving DecidableEq

/-- A field of a record. -/
structure Part where
  name : String
  form : Form
  absence : Absence

/-- The entry of a part in the normal form of a record. There is none when the field says what its
absence says. -/
def Part.entry? (p : Part) (fields : List (String × Json)) : Option (List (String × Json)) :=
  match (fields.lookup p.name).getD .null with
  | .null => if p.absence = .refused then none else some []
  | value =>
    (p.form.normal? value).map fun n => if p.absence = .same n then [] else [(p.name, n)]

/-- A record with the given parts. -/
def record (parts : List Part) : Form :=
  ⟨fun j => do
    let fields ← j.fields?
    let entries ← parts.mapM fun p => p.entry? fields
    return .obj entries.flatten⟩

/-- Parts of one form that may be missing. -/
def mayHave (form : Form) (names : List String) : List Part :=
  names.map fun name => ⟨name, form, .nothing⟩

/-- Texts that are empty when missing. -/
def texts (names : List String) : List Part := names.map fun name => ⟨name, text, .same (.str "")⟩

/-- A number that is zero when missing. -/
def number (name : String) : List Part := [⟨name, int32, .same (.int 0)⟩]

/-- A part that must not be missing. -/
def mustHave (form : Form) (name : String) : List Part := [⟨name, form, .refused⟩]

/-- The value has the form. -/
def admits (form : Form) (j : Json) : Bool := (form.normal? j).isSome

end Form

end Gatehouse
