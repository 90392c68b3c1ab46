/-!
JSON values. Objects are lists of fields; a field is looked up by its first occurrence. Numbers are
exact: integers, and decimals of a mantissa and a number of places after the point. Whether two
values are equal is decidable, by a comparison that goes down both of them (`beq_iff`).
-/

set_option autoImplicit false

namespace Gatehouse

/-- A JSON value. -/
inductive Json
  | null
  | bool (value : Bool)
  | int (value : Int)
  | decimal (mantissa : Int) (places : Nat)
  | str (value : String)
  | arr (items : List Json)
  | obj (fields : List (String × Json))
  deriving Inhabited

namespace Json

/-- The value of a field of an object. -/
def field? (name : String) : Json → Option Json
  | .obj fields => fields.lookup name
  | _ => none

/-- The fields of an object. -/
def fields? : Json → Option (List (String × Json))
  | .obj fields => some fields
  | _ => none

/-- The items of an array. -/
def items? : Json → Option (List Json)
  | .arr items => some items
  | _ => none

/-- The text of a string. -/
def text? : Json → Option String
  | .str value => some value
  | _ => none

/-- The value is an object. -/
def isObject : Json → Bool
  | .obj _ => true
  | _ => false

/-- The value is an array. -/
def isArray : Json → Bool
  | .arr _ => true
  | _ => false

/-! ## Equality -/

mutual

/-- Compares two values. -/
def beq : Json → Json → Bool
  | .null, .null => true
  | .bool a, .bool b => a == b
  | .int a, .int b => a == b
  | .decimal m p, .decimal n q => m == n && p == q
  | .str a, .str b => a == b
  | .arr as, .arr bs => beqItems as bs
  | .obj fs, .obj gs => beqFields fs gs
  | _, _ => false

/-- Compares the items of two arrays. -/
def beqItems : List Json → List Json → Bool
  | [], [] => true
  | a :: as, b :: bs => beq a b && beqItems as bs
  | _, _ => false

/-- Compares the fields of two objects. -/
def beqFields : List (String × Json) → List (String × Json) → Bool
  | [], [] => true
  | (k, a) :: fs, (l, b) :: gs => k == l && beq a b && beqFields fs gs
  | _, _ => false

end

mutual

theorem beq_iff (a b : Json) : beq a b = true ↔ a = b := by
  cases a <;> cases b <;> simp [beq]
  case arr.arr as bs => exact beqItems_iff as bs
  case obj.obj fs gs => exact beqFields_iff fs gs

theorem beqItems_iff (as bs : List Json) : beqItems as bs = true ↔ as = bs := by
  cases as <;> cases bs <;> simp [beqItems]
  case cons.cons a as b bs => rw [beq_iff a b, beqItems_iff as bs]

theorem beqFields_iff (fs gs : List (String × Json)) : beqFields fs gs = true ↔ fs = gs := by
  cases fs <;> cases gs <;> simp [beqFields]
  case cons.cons f fs g gs =>
    obtain ⟨k, a⟩ := f
    obtain ⟨l, b⟩ := g
    simp [beq_iff a b, beqFields_iff fs gs]

end

instance : DecidableEq Json := fun a b => decidable_of_iff _ (beq_iff a b)

end Json

end Gatehouse
