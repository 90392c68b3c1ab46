import Gatehouse.Change
import Gatehouse.Problem

/-!
Reports: what an event comes to. The consumer follows the changes, in their order, and the owners of
objects are told the problems.
-/

set_option autoImplicit false

namespace Gatehouse

/-- The changes to follow and the problems to tell. -/
structure Report (α : Type) where
  changes : List (Change α)
  problems : List Problem
  deriving DecidableEq

namespace Report

variable {α : Type}

/-- Nothing follows. -/
def empty : Report α := ⟨[], []⟩

/-- The resource is to be put. -/
def put (resource : α) : Report α := ⟨[.plain .addOrUpdate resource], []⟩

/-- The resource is to be removed if it was there. -/
def removed (resource? : Option α) : Report α := ⟨resource?.toList.map (.plain .delete), []⟩

/-- The resource of an object is to be removed because of an error, which its owner is told. -/
def refused (object : Object) (resource : α) (message : String) : Report α :=
  ⟨[⟨.delete, resource, some message⟩], [.rejection object message]⟩

/-- One report after another. -/
def append (r s : Report α) : Report α := ⟨r.changes ++ s.changes, r.problems ++ s.problems⟩

instance : Append (Report α) := ⟨append⟩

end Report

end Gatehouse
