import Gatehouse.Object.Meta

/-!
Seniority: which of two objects that want the same thing gets it. The older one does; of two that
were created at the same time, the one whose identifier is greater. A missing creation time counts
as older than any time and a missing identifier as smaller than any.
-/

set_option autoImplicit false

namespace Gatehouse

/-- The order of creation times, the missing one first. -/
def createdBefore : Option Instant → Option Instant → Bool
  | none, some _ => true
  | some a, some b => a.before b
  | _, none => false

/-- The order of identifiers, the missing one first. -/
def uidBefore : Option String → Option String → Bool
  | none, some _ => true
  | some a, some b => decide (a < b)
  | _, none => false

/-- The first object is senior to the second. -/
def Meta.wins (a b : Meta) : Bool :=
  if a.created = b.created then uidBefore b.uid a.uid else createdBefore a.created b.created

/-- Puts an object into a ranking, behind everything that it is not senior to. -/
def rankIn {α : Type} (metaOf : α → Meta) (x : α) : List α → List α
  | [] => [x]
  | y :: ys =>
    if (metaOf x).wins (metaOf y) then x :: y :: ys else y :: rankIn metaOf x ys

/-- Objects in the order of seniority. Those of equal seniority keep the order of the list. -/
def bySeniority {α : Type} (metaOf : α → Meta) (xs : List α) : List α :=
  xs.foldl (fun ranking x => rankIn metaOf x ranking) []

/-- No object is senior to itself. -/
theorem Meta.wins_irrefl (a : Meta) : a.wins a = false := by
  simp only [wins, ↓reduceIte]
  cases a.uid with
  | none => rfl
  | some u => exact decide_eq_false (String.lt_irrefl u)

end Gatehouse
