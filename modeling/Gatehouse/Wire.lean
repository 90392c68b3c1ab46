import Gatehouse.Json
import Gatehouse.Text.Numeral

/-!
The wire form of values: how they are written as JSON and read back. `Wire` gives both directions
for a type; `LawfulWire` says that what is written is read back as the value that was written, and
that it is never null, so that null can stand for an absent value.

A record is written as an object with all of its fields. It is read from an object, where unknown
fields are ignored, or from an array, which holds the values of the fields in their order. A field
is *required*, has a *default* for when it is missing, or is *nullable*; a nullable field may be
missing from an object, but an array has to reach it.
-/

set_option autoImplicit false

namespace Gatehouse

open Text (NumeralRange)

/-! ## 1. Both directions, and their law -/

/-- A type with a wire form. -/
class Wire (α : Type) where
  encode : α → Json
  decode : Json → Option α

/-- Writing and reading back gives the value, and no value is written as null. The second law is
what lets a field that may be null hold any lawful value. -/
class LawfulWire (α : Type) [Wire α] : Prop where
  decode_encode : ∀ a : α, Wire.decode (Wire.encode a) = some a
  encode_ne_null : ∀ a : α, Wire.encode a ≠ Json.null

export Wire (encode decode)

/-! ## 2. Scalars -/

/-- The numbers of a range. -/
abbrev Ranged (range : NumeralRange) := { n : Int // range.least ≤ n ∧ n ≤ range.greatest }

/-- Signed numbers of 32 bits. -/
abbrev Signed32 := Ranged Text.int32Range

/-- Port numbers as they are stored: unsigned numbers of 16 bits. -/
abbrev Unsigned16 := Ranged ⟨0, 65535⟩

/-- Unsigned numbers of 64 bits. -/
abbrev Unsigned64 := Ranged Text.nat64Range

instance : Inhabited Signed32 := ⟨⟨0, by decide⟩⟩

/-- The number of a range that a JSON value stands for; a decimal is none. -/
def decodeRanged (range : NumeralRange) : Json → Option (Ranged range)
  | .int n =>
    if h : range.least ≤ n ∧ n ≤ range.greatest then some ⟨n, h⟩ else none
  | _ => none

instance (range : NumeralRange) : Wire (Ranged range) where
  encode n := .int n.val
  decode := decodeRanged range

instance (range : NumeralRange) : LawfulWire (Ranged range) where
  decode_encode n := by simp [Wire.decode, Wire.encode, decodeRanged, n.property]
  encode_ne_null n := by simp [Wire.encode]

/-- The text a JSON value stands for. -/
def decodeText : Json → Option String
  | .str s => some s
  | _ => none

instance : Wire String where
  encode := .str
  decode := decodeText

instance : LawfulWire String where
  decode_encode _ := rfl
  encode_ne_null := by simp [Wire.encode]

/-- The truth value a JSON value stands for. -/
def decodeBool : Json → Option Bool
  | .bool b => some b
  | _ => none

instance : Wire Bool where
  encode := .bool
  decode := decodeBool

instance : LawfulWire Bool where
  decode_encode _ := rfl
  encode_ne_null := by simp [Wire.encode]

/-! ## 3. Lists and absent values -/

/-- The list a JSON array stands for, when all of its items can be read. -/
def decodeList {α : Type} [Wire α] : Json → Option (List α)
  | .arr items => items.mapM decode
  | _ => none

instance {α : Type} [Wire α] : Wire (List α) where
  encode xs := .arr (xs.map encode)
  decode := decodeList

/-- A list is read item by item, and each item by the law of its type. -/
theorem mapM_decode_encode {α : Type} [Wire α] [LawfulWire α] (xs : List α) :
    (xs.map (encode (α := α))).mapM (decode (α := α)) = some xs := by
  induction xs with
  | nil => rfl
  | cons x xs ih => simp [List.mapM_cons, LawfulWire.decode_encode, ih]

instance {α : Type} [Wire α] [LawfulWire α] : LawfulWire (List α) where
  decode_encode xs := mapM_decode_encode xs
  encode_ne_null := by simp [Wire.encode]

/-- A value or null. -/
def decodeNullable {α : Type} [Wire α] : Json → Option (Option α)
  | .null => some none
  | j => (decode j).map some

/-- An absent value is null. -/
def encodeNullable {α : Type} [Wire α] (value : Option α) : Json := (value.map encode).getD .null

/-- An absent value is read back as absent and a value as itself, because a value is never written
as the null that stands for absence. -/
theorem decodeNullable_encodeNullable {α : Type} [Wire α] [LawfulWire α] (value : Option α) :
    decodeNullable (encodeNullable value) = some value := by
  cases value with
  | none => rfl
  | some a =>
    have hne := LawfulWire.encode_ne_null a
    have hlaw := LawfulWire.decode_encode a
    simp only [encodeNullable, Option.map_some, Option.getD_some]
    cases h : encode a with
    | null => exact absurd h hne
    | _ => simp [decodeNullable, ← h, hlaw]

/-! ## 4. Records -/

/-- Where the fields of a record are read from: by name, or in order. -/
inductive Fields
  | named (fields : List (String × Json))
  | listed (values : List Json)

/-- Reads some fields of a record. -/
abbrev FieldReader (α : Type) := StateT Fields Option α

namespace FieldReader

/-- Reads a field. `missing` is its value when an object does not have it, `past` when an array
ends before it. -/
def field {α : Type} (decode : Json → Option α) (missing past : Option α) (name : String) :
    FieldReader α
  | .named fields =>
    match fields.lookup name with
    | some value => (decode value).map fun a => (a, .named fields)
    | none => missing.map fun a => (a, .named fields)
  | .listed [] => past.map fun a => (a, .listed [])
  | .listed (value :: values) => (decode value).map fun a => (a, .listed values)

/-- A field that has to be there. -/
def required {α : Type} [Wire α] (name : String) : FieldReader α :=
  field decode none none name

/-- A field with a value for when it is missing. -/
def defaulted {α : Type} [Wire α] (name : String) (value : α) : FieldReader α :=
  field decode (some value) (some value) name

/-- A field that may be missing or null. -/
def nullable {α : Type} [Wire α] (name : String) : FieldReader (Option α) :=
  field decodeNullable (some none) none name

/-- A field with any JSON value; missing and null are the same. -/
def anything (name : String) : FieldReader Json :=
  field some (some .null) none name

/-- What a field reads from an object that has it. Whether the field is required, has a default or
may be null makes no difference then; it only matters for objects that lack it. -/
theorem run_field_named {α : Type} {decode : Json → Option α} {missing past : Option α}
    {name : String} {fields : List (String × Json)} {value : Json}
    (h : fields.lookup name = some value) :
    (field decode missing past name).run (.named fields) =
      (decode value).map fun a => (a, .named fields) := by
  simp [StateT.run, field, h]

/-- A required field that was written is read back. -/
theorem run_required_named {α : Type} [Wire α] [LawfulWire α] {name : String}
    {fields : List (String × Json)} {a : α} (h : fields.lookup name = some (encode a)) :
    (required name : FieldReader α).run (.named fields) = some (a, .named fields) := by
  simp [required, run_field_named h, LawfulWire.decode_encode]

/-- A field with a default that was written is read back, whatever the default is. -/
theorem run_defaulted_named {α : Type} [Wire α] [LawfulWire α] {name : String}
    {fields : List (String × Json)} {a value : α} (h : fields.lookup name = some (encode a)) :
    (defaulted name value).run (.named fields) = some (a, .named fields) := by
  simp [defaulted, run_field_named h, LawfulWire.decode_encode]

/-- A field that may be null was written as null or as its value, and is read back as either. -/
theorem run_nullable_named {α : Type} [Wire α] [LawfulWire α] {name : String}
    {fields : List (String × Json)} {a : Option α}
    (h : fields.lookup name = some (encodeNullable a)) :
    (nullable name : FieldReader (Option α)).run (.named fields) = some (a, .named fields) := by
  simp [nullable, run_field_named h, decodeNullable_encodeNullable]

end FieldReader

/-- A record, read from an object or from an array with nothing left over. -/
def decodeRecord {α : Type} (read : FieldReader α) : Json → Option α
  | .obj fields => (read.run (.named fields)).map (·.1)
  | .arr values =>
    match read.run (.listed values) with
    | some (a, .listed []) => some a
    | _ => none
  | _ => none

end Gatehouse
