import Gatehouse.Seniority
import Gatehouse.Table

/-!
Contests: several claimants want the same slots (hosts, listeners, paths), and a slot has one
holder. Claims are decided one after the other. A claim to a free slot gets it; otherwise the holder
keeps the slot if it is senior to the newcomer, and the newcomer takes it over if not. Whoever goes
without is remembered as having lost the slot.

Claimants are numbered, and a claim carries the number of its claimant, so the numbers in the result
are numbers that occur in the claims. `settle_append` is the step from which what holds of all
claims follows by induction on them.
-/

set_option autoImplicit false

universe u

namespace Gatehouse

/-- The wish of a claimant to hold a slot. -/
structure Claim where
  slot : String
  claimant : Nat
  metadata : Meta
  deriving DecidableEq

/-- Who holds which slot, and who lost which slot, in the order of the losses. -/
structure Standing where
  holders : Table Claim
  losses : List (Nat × String)
  deriving DecidableEq

namespace Standing

/-- Nothing is held. -/
def start : Standing := ⟨Table.empty, []⟩

/-- Decides one more claim. -/
def claim (s : Standing) (c : Claim) : Standing :=
  match s.holders.get? c.slot with
  | none => ⟨s.holders.insert c.slot c, s.losses⟩
  | some holder =>
    if holder.metadata.wins c.metadata then ⟨s.holders, s.losses ++ [(c.claimant, c.slot)]⟩
    else ⟨s.holders.insert c.slot c, s.losses ++ [(holder.claimant, c.slot)]⟩

/-- The claimant holds the slot. -/
def isHolder (s : Standing) (claimant : Nat) (slot : String) : Bool :=
  (s.holders.get? slot).any fun c => c.claimant == claimant

/-- The slots a claimant lost, in order; a slot lost twice is there twice. -/
def lost (s : Standing) (claimant : Nat) : List String :=
  (s.losses.filter fun l => l.1 == claimant).map (·.2)

end Standing

/-- Decides claims in order. -/
def settle (claims : List Claim) : Standing := claims.foldl Standing.claim Standing.start

@[simp] theorem settle_nil : settle [] = Standing.start := rfl

theorem settle_append (claims : List Claim) (c : Claim) :
    settle (claims ++ [c]) = (settle claims).claim c := by
  simp [settle]

/-- The claims of one claimant. -/
def claimsOf (claimant : Nat) (metadata : Meta) (slots : List String) : List Claim :=
  slots.map fun slot => ⟨slot, claimant, metadata⟩

/-- The contest of the items of a list, which are numbered by their places, for the slots that each
of them wants. -/
def contest {α : Type u} (metaOf : α → Meta) (slotsOf : α → List String) (xs : List α) : Standing :=
  settle (xs.zipIdx.flatMap fun x => claimsOf x.2 (metaOf x.1) (slotsOf x.1))

end Gatehouse
