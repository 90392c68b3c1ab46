import Gatehouse.Instant.Reader
import Gatehouse.Key
import Gatehouse.Object.Unread
import Gatehouse.Table
import Gatehouse.Wire

/-!
What every object carries: its name and namespace, its identity and age, the version of its
specification, and its annotations. Any part may be missing. A missing set of annotations differs
from an empty one, because two versions of an object are compared with it. What else an object
carries is kept in normal form, for the same reason.
-/

set_option autoImplicit false

namespace Gatehouse

/-- The metadata of an object. -/
structure Meta where
  name : Option String
  space : Option String
  generateName : Option String
  uid : Option String
  created : Option Instant
  generation : Option Int
  resourceVersion : Option String
  annotations : Option (Table String)
  unread : Json
  deriving DecidableEq

namespace Meta

/-- The namespace, empty when missing. -/
def spaceOrEmpty (m : Meta) : String := m.space.getD ""

/-- The key under which the object is stored; missing parts are empty. -/
def key (m : Meta) : String := joinKey m.spaceOrEmpty (m.name.getD "")

/-- The name by which messages call the object: its own, or the one it was to be generated from. -/
def shownName (m : Meta) : String := (m.name <|> m.generateName).getD ""

/-- The value of an annotation. -/
def annotation? (m : Meta) (name : String) : Option String :=
  m.annotations.bind fun t => t.get? name

/-- The metadata of an object that says nothing about itself. -/
def blank : Meta := ⟨none, none, none, none, none, none, none, none, .obj []⟩

instance : Inhabited Meta := ⟨blank⟩

/-! ## Reading -/

/-- A part that may be missing or null. -/
def part {α : Type} (decode : Json → Option α) (name : String) (fields : List (String × Json)) :
    Option (Option α) :=
  match fields.lookup name with
  | none => some none
  | some .null => some none
  | some value => (decode value).map some

/-- A map from texts to texts. -/
def decodeLabels (value : Json) : Option (Table String) := do
  let fields ← value.fields?
  let entries ← fields.mapM fun f => f.2.text?.map fun text => (f.1, text)
  return Table.ofList entries

/-- Metadata is read from an object. -/
def decode (value : Json) : Option Meta := do
  let fields ← value.fields?
  let name ← part Json.text? "name" fields
  let space ← part Json.text? "namespace" fields
  let generateName ← part Json.text? "generateName" fields
  let uid ← part Json.text? "uid" fields
  let created ← part (fun j => j.text?.bind Instant.readLoose) "creationTimestamp" fields
  let generation ← part (decodeRanged Text.int64Range) "generation" fields
  let resourceVersion ← part Json.text? "resourceVersion" fields
  let annotations ← part decodeLabels "annotations" fields
  let unread ← Unread.metadata.normal? value
  return { name, space, generateName, uid, created, resourceVersion, annotations, unread
           generation := generation.map (·.val) }

end Meta

/-! ## Objects of the core kinds -/

/-- The fields of an object of a core kind. When it says which kind it is of and in which version,
that has to be right. -/
def coreFields? (version kind : String) (value : Json) : Option (List (String × Json)) := do
  let fields ← value.fields?
  let isRight (name text : String) := (fields.lookup name).all (· = .str text)
  if isRight "apiVersion" version && isRight "kind" kind then some fields else none

/-- The metadata of an object of a core kind of which nothing else is used. The object must have
the form of its kind; the metadata may be missing. -/
def decodeMetadataOnly (kind : String) (form : Form) (value : Json) : Option Meta := do
  let fields ← coreFields? "v1" kind value
  let metadata ← Meta.part Meta.decode "metadata" fields
  if form.admits value then some (metadata.getD default) else none

/-! ## Objects with a specification of their own -/

/-- An object of one of the custom kinds: metadata and a specification, both of them required. -/
structure Custom (σ : Type) where
  metadata : Meta
  spec : σ
  deriving DecidableEq

/-- A custom object is a record of both parts. -/
def Custom.decode {σ : Type} [Wire σ] : Json → Option (Custom σ) :=
  decodeRecord do
    let metadata ← FieldReader.field Meta.decode none none "metadata"
    let spec ← FieldReader.required "spec"
    return { metadata, spec }

end Gatehouse
