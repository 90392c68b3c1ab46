/-!
Changes: what the consumer of a set of resources has to do so that its copy follows. One event can
yield several changes for one resource, of which only the last counts; and what is let go has to be
let go before anything else takes it. `squash` brings a list of changes into that form: one change
for each key, the removals first.
-/

set_option autoImplicit false

universe u

namespace Gatehouse

/-- What is to be done with a resource. -/
inductive Change.Op
  | delete
  | addOrUpdate
  deriving DecidableEq, Repr

/-- The name of what is to be done, as it is shown. -/
def Change.Op.name : Change.Op → String
  | .delete => "Delete"
  | .addOrUpdate => "AddOrUpdate"

/-- A resource, what is to be done with it, and the error that is the reason, if one is. -/
structure Change (α : Type u) where
  op : Change.Op
  resource : α
  error : Option String
  deriving DecidableEq

namespace Change

variable {α : Type u}

/-- A change without an error. -/
def plain (op : Op) (resource : α) : Change α := ⟨op, resource, none⟩

/-- The change removes its resource. -/
def isDelete (c : Change α) : Bool := c.op = .delete

@[simp] theorem resource_plain (op : Op) (resource : α) :
    (plain op resource).resource = resource := rfl

@[simp] theorem isDelete_plain_delete (resource : α) :
    (plain .delete resource).isDelete = true := rfl

@[simp] theorem isDelete_plain_addOrUpdate (resource : α) :
    (plain .addOrUpdate resource).isDelete = false := rfl

/-- Takes the change at the place of the first change with its key, or at the end when it is the
first one. -/
def keepLast (keyOf : α → String) (kept : List (Change α)) (c : Change α) : List (Change α) :=
  if kept.any fun k => keyOf k.resource == keyOf c.resource then
    kept.map fun k => if keyOf k.resource == keyOf c.resource then c else k
  else kept ++ [c]

/-- The last change of every key, in the order in which the keys first appear. -/
def lastPerKey (keyOf : α → String) (changes : List (Change α)) : List (Change α) :=
  changes.foldl (keepLast keyOf) []

/-- The last change of every key, the removals before the others. -/
def squash (keyOf : α → String) (changes : List (Change α)) : List (Change α) :=
  (lastPerKey keyOf changes).filter isDelete ++
    (lastPerKey keyOf changes).filter fun c => !c.isDelete

@[simp] theorem lastPerKey_nil (keyOf : α → String) :
    lastPerKey keyOf ([] : List (Change α)) = [] := rfl

theorem lastPerKey_append (keyOf : α → String) (changes : List (Change α)) (c : Change α) :
    lastPerKey keyOf (changes ++ [c]) = keepLast keyOf (lastPerKey keyOf changes) c := by
  simp [lastPerKey]

@[simp] theorem squash_nil (keyOf : α → String) : squash keyOf ([] : List (Change α)) = [] := rfl

end Change

end Gatehouse
