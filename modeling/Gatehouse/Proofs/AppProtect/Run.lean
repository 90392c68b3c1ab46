import Gatehouse.AppProtect
import Gatehouse.Proofs.AppProtect.Requirements
import Gatehouse.Proofs.Configuration.Run

/-!
Runs of an App Protect store.

The store keeps a status with every object and changes the statuses as objects come and go.
`ofObjects` is the store that some objects come to when nothing but them is known, and a step leads
from such a store to such a store (`step_ofObjects`). So after any events the store is that of the
objects that were applied last (`run_eq_ofObjects`), whatever the order of the events was and
whatever statuses there were in between.
-/

set_option autoImplicit false

namespace Gatehouse

/-! ## 1. The objects -/

/-- The objects of App Protect, under their keys. The module itself stores them with a status and
with what was read of them; that all of this can be had again from the bare objects is
`run_eq_ofObjects`. -/
structure ApObjects where
  policies : Table ApPolicy
  logConfs : Table LogConf
  userSigs : Table ApUserSig

namespace ApObjects

/-- There are no objects. -/
def empty : ApObjects := ⟨Table.empty, Table.empty, Table.empty⟩

/-- The kinds of the objects. -/
def kinds : List Kind := [.apPolicy, .apLogConf, .apUserSig]

/-- The objects after an event. -/
def after (s : ApObjects) : Event → ApObjects
  | .apply (.apPolicy p) => { s with policies := s.policies.insert p.metadata.key p }
  | .apply (.apLogConf l) => { s with logConfs := s.logConfs.insert l.metadata.key l }
  | .apply (.apUserSig o) => { s with userSigs := s.userSigs.insert o.metadata.key o }
  | .delete .apPolicy key => { s with policies := s.policies.erase key }
  | .delete .apLogConf key => { s with logConfs := s.logConfs.erase key }
  | .delete .apUserSig key => { s with userSigs := s.userSigs.erase key }
  | _ => s

/-- The object at a place. -/
def find? (s : ApObjects) : Place → Option Object
  | (.apPolicy, key) => (s.policies.get? key).map .apPolicy
  | (.apLogConf, key) => (s.logConfs.get? key).map .apLogConf
  | (.apUserSig, key) => (s.userSigs.get? key).map .apUserSig
  | _ => none

/-- The objects after some events. -/
def run (s : ApObjects) (events : List Event) : ApObjects := events.foldl after s

theorem run_append (s : ApObjects) (events : List Event) (e : Event) :
    s.run (events ++ [e]) = (s.run events).after e := by
  simp [run]

/-- An event decides about its own place. For the other kinds nothing is stored, so the place is
asked to be of one of these. -/
theorem find?_after (s : ApObjects) (e : Event) {place : Place} (hkind : place.1 ∈ kinds) :
    (s.after e).find? place = if e.place = place then e.object? else s.find? place := by
  obtain ⟨kind, key⟩ := place
  by_cases hsame : e.kind = kind
  · subst hsame
    -- within a kind, the key tells the places apart
    have hplace : e.place = (e.kind, key) ↔ e.place.2 = key := by
      simp [Prod.ext_iff, e.fst_place]
    rw [if_congr hplace rfl rfl]
    rcases e with o | ⟨k, key'⟩
    · cases o with
      | apPolicy p => exact Store.map_get?_insert .apPolicy ..
      | apLogConf l => exact Store.map_get?_insert .apLogConf ..
      | apUserSig o => exact Store.map_get?_insert .apUserSig ..
      | _ => simp [kinds, Event.kind, Object.kind] at hkind
    · cases k with
      | apPolicy => exact Store.map_get?_erase .apPolicy ..
      | apLogConf => exact Store.map_get?_erase .apLogConf ..
      | apUserSig => exact Store.map_get?_erase .apUserSig ..
      | _ => simp [kinds, Event.kind] at hkind
  · have hne : e.place ≠ (kind, key) := fun h => hsame (e.fst_place.symm.trans (congrArg Prod.fst h))
    rw [if_neg hne]
    rcases e with o | ⟨k, key'⟩
    · cases o <;> cases kind <;> first | rfl | exact absurd rfl hsame
    · cases k <;> cases kind <;> first | rfl | exact absurd rfl hsame

/-- At a place there is what was applied there last. -/
theorem find?_run (events : List Event) {place : Place} (hkind : place.1 ∈ kinds) :
    (empty.run events).find? place = latest place events := by
  induction events using List.reverseRecOn with
  | nil =>
    obtain ⟨kind, key⟩ := place
    cases kind <;> rfl
  | append_singleton events e ih => rw [run_append, find?_after _ _ hkind, latest_append, ih]

end ApObjects

namespace AppProtect

/-! ## 2. The store of some objects -/

/-- The store that some objects come to. The statuses of the signatures come first, and those of the
policies are read with the signatures that can be used. -/
def ofObjects (s : ApObjects) : AppProtect where
  policies :=
    s.policies.map (.ofPolicy ((Signature.settled s.userSigs).values.filter (·.isUsable)))
  logConfs := s.logConfs.map .ofLogConf
  userSigs := Signature.settled s.userSigs

/-- The object at a place. -/
def find? (a : AppProtect) : Place → Option Object
  | (.apPolicy, key) => (a.policies.get? key).map (.apPolicy ∘ StoredPolicy.policy)
  | (.apLogConf, key) => (a.logConfs.get? key).map (.apLogConf ∘ StoredLogConf.logConf)
  | (.apUserSig, key) => (a.userSigs.get? key).map (.apUserSig ∘ Signature.object)
  | _ => none

/-- The store after an event. Kinds that it does not keep pass it by. -/
def step (a : AppProtect) : Event → AppProtect
  | .apply (.apPolicy p) => (a.applyPolicy p).1
  | .apply (.apLogConf l) => (a.applyLogConf l).1
  | .apply (.apUserSig o) => (a.applyUserSig o).1
  | .delete .apPolicy key => (a.deletePolicy key).1
  | .delete .apLogConf key => (a.deleteLogConf key).1
  | .delete .apUserSig key => (a.deleteUserSig key).1
  | _ => a

/-- The store after some events. -/
def run (a : AppProtect) (events : List Event) : AppProtect := events.foldl step a

/-- The last event of a run is a step of the store that the others have made. -/
theorem run_append (a : AppProtect) (events : List Event) (e : Event) :
    a.run (events ++ [e]) = (a.run events).step e := by
  simp [run]

/-- When the signatures are brought up to date, so are the policies. -/
theorem reconcile_ofObjects (s : ApObjects) {userSigs : Table Signature}
    {objects : Table ApUserSig} (h : Signature.reconcile userSigs = Signature.settled objects)
    (own : List Problem) :
    ({ ofObjects s with userSigs := userSigs }.reconcile own).1 =
      ofObjects { s with userSigs := objects } := by
  simp only [reconcile, h, ofObjects, usableSignatures, Table.map_map]
  congr 2
  exact funext fun p => StoredPolicy.recheck_ofPolicy _ _ p

/-- A policy is stored with the status that it has besides the signatures at that time. -/
theorem fst_applyPolicy (a : AppProtect) (p : ApPolicy) : (a.applyPolicy p).1 =
    { a with policies := a.policies.insert p.metadata.key (.ofPolicy a.usableSignatures p) } := by
  unfold applyPolicy
  split <;> rfl

/-- The status of a log configuration is a matter of its own. -/
theorem fst_applyLogConf (a : AppProtect) (l : LogConf) : (a.applyLogConf l).1 =
    { a with logConfs := a.logConfs.insert l.metadata.key (.ofLogConf l) } := by
  unfold applyLogConf
  split <;> rfl

/-- An event leads from the store of some objects to the store of the objects after it. Signatures
are the case with an argument, since the policies are looked at again. -/
theorem step_ofObjects (s : ApObjects) (e : Event) :
    (ofObjects s).step e = ofObjects (s.after e) := by
  rcases e with o | ⟨kind, key⟩
  · cases o with
    | apPolicy p =>
      simp only [step, fst_applyPolicy, ofObjects, ApObjects.after, Table.map_insert]
      rfl
    | apLogConf l =>
      simp only [step, fst_applyLogConf, ofObjects, ApObjects.after, Table.map_insert]
    | apUserSig o => exact reconcile_ofObjects s (Signature.reconcile_insert s.userSigs _ o) _
    | _ => rfl
  · cases kind with
    | apPolicy => simp only [step, deletePolicy, ofObjects, ApObjects.after, Table.map_erase]
    | apLogConf => simp only [step, deleteLogConf, ofObjects, ApObjects.after, Table.map_erase]
    | apUserSig =>
      by_cases hin : (ofObjects s).userSigs.contains key
      · simp only [step, deleteUserSig, if_pos hin]
        exact reconcile_ofObjects s (Signature.reconcile_erase s.userSigs key) []
      · -- what is not there is not removed
        have hnone : s.userSigs.get? key = none := by
          simpa [Table.contains, ofObjects, Signature.settled, Table.get?_map] using hin
        simp only [step, deleteUserSig, if_neg hin, ApObjects.after,
          Table.erase_of_get?_eq_none hnone]
    | _ => rfl

/-- After any events the store is that of the objects that there are. Everything about statuses is
proved of `ofObjects` and brought to runs by this. -/
theorem run_eq_ofObjects (events : List Event) :
    empty.run events = ofObjects (ApObjects.empty.run events) := by
  induction events using List.reverseRecOn with
  | nil => rfl
  | append_singleton events e ih =>
    rw [run_append, ih, step_ofObjects, ApObjects.run_append]

/-- The store has the objects at their places. -/
theorem find?_ofObjects (s : ApObjects) (place : Place) :
    (ofObjects s).find? place = s.find? place := by
  obtain ⟨kind, key⟩ := place
  cases kind with
  | apPolicy | apLogConf =>
    simp only [find?, ofObjects, ApObjects.find?, Table.get?_map, Option.map_map]
    rfl
  | apUserSig =>
    simp only [find?, ofObjects, ApObjects.find?, Signature.settled, Table.get?_map, Option.map_map,
      Function.comp_def, Signature.object_judged]
  | _ => rfl

theorem find?_run (events : List Event) {place : Place} (hkind : place.1 ∈ ApObjects.kinds) :
    (empty.run events).find? place = latest place events := by
  rw [run_eq_ofObjects, find?_ofObjects, ApObjects.find?_run events hkind]

end AppProtect

end Gatehouse
