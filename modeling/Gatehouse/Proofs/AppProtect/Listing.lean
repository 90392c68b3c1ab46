import Gatehouse.Proofs.AppProtect.Usability

/-!
The signatures that an event about a signature is answered with.

The consumer renders the list that comes with the answer, so what the list leaves out is dropped.
The list is read off the store after the contests for the tags, which is the store of the objects
that there are then. So it has every signature that can be used, once, by the keys
(`complete_usableSignatures`), whatever statuses the event has changed.

One answer is not read off the store: that to the deletion of a signature that is not there. It has
no signatures, and so it is complete only when none can be used (`listing_complete_iff`).
-/

set_option autoImplicit false

namespace Gatehouse

namespace AppProtect

/-! ## 1. The signatures that can be used -/

/-- The list has every signature that is stored after the events and can be used, each once, in the
order of the keys. -/
structure Complete (events : List Event) (list : List ApUserSig) : Prop where
  mem_iff : ∀ o, o ∈ list ↔ Stored events o ∧ Signature.Usable (Stored events) o
  increasing : (list.map fun o => o.metadata.key).Pairwise (· < ·)

section Run

variable {events : List Event}

/-- A signature is without a status in the store exactly when it can be used. The store is taken as
the one that its objects give (`run_eq_ofObjects`), where the contests have been decided once. -/
theorem mem_usableSignatures_iff {o : ApUserSig} :
    o ∈ (empty.run events).usableSignatures.map (·.object) ↔
      Stored events o ∧ Signature.Usable (Stored events) o := by
  rw [usableSignatures, run_eq_ofObjects, stored_eq, List.mem_map]
  constructor
  · rintro ⟨s, hs, rfl⟩
    obtain ⟨o, ho, husable, rfl⟩ := (Signature.mem_usable_iff key_of_userSigs_run).1 hs
    rw [Signature.object_ofObject]
    exact ⟨ho, husable⟩
  · rintro ⟨ho, husable⟩
    refine ⟨Signature.ofObject o, ?_, Signature.object_ofObject⟩
    exact (Signature.mem_usable_iff key_of_userSigs_run).2 ⟨o, ho, husable, rfl⟩

/-- The table goes by keys, and the objects lie under their own. So the listing needs no sorting,
and no signature is in it twice. -/
theorem pairwise_usableSignatures :
    (((empty.run events).usableSignatures.map (·.object)).map fun o => o.metadata.key).Pairwise
      (· < ·) := by
  have hobjects : (empty.run events).userSigs.values.map (·.object) =
      (ApObjects.empty.run events).userSigs.values := by
    rw [run_eq_ofObjects, ← Table.values_map]
    exact congrArg Table.values (Signature.object_settled _)
  have hall : ((ApObjects.empty.run events).userSigs.values.map fun o => o.metadata.key).Pairwise
      (· < ·) := by
    rw [Table.map_values_eq_keys key_of_userSigs_run, Table.keys, List.pairwise_map]
    exact (ApObjects.empty.run events).userSigs.increasing
  -- choosing among the signatures keeps the order of the table
  have hsub : ((empty.run events).usableSignatures.map (·.object)).Sublist
      (ApObjects.empty.run events).userSigs.values := by
    rw [← hobjects]
    exact List.filter_sublist.map _
  exact hall.sublist (hsub.map _)

theorem complete_usableSignatures :
    Complete events ((empty.run events).usableSignatures.map (·.object)) :=
  ⟨fun _ => mem_usableSignatures_iff, pairwise_usableSignatures⟩

/-- An empty list is complete when there is nothing to be listed. -/
theorem complete_nil_iff :
    Complete events [] ↔ ∀ o, Stored events o → ¬Signature.Usable (Stored events) o := by
  constructor
  · intro h o ho husable
    exact List.not_mem_nil ((h.mem_iff o).2 ⟨ho, husable⟩)
  · intro hnone
    refine ⟨fun o => ?_, List.Pairwise.nil⟩
    exact iff_of_false List.not_mem_nil fun ⟨ho, husable⟩ => hnone o ho husable

end Run

/-! ## 2. Answers -/

/-- The signatures of an answer are those without a status in the store after it. -/
theorem signatures_reconcile (a : AppProtect) (own : List Problem) :
    (a.reconcile own).2.signatures = (a.reconcile own).1.usableSignatures.map (·.object) := rfl

section Events

variable (events : List Event)

/-- The answer to a signature that comes is read off the store after it. -/
theorem complete_applyUserSig (o : ApUserSig) :
    Complete (events ++ [.apply (.apUserSig o)])
      ((empty.run events).applyUserSig o).2.signatures := by
  have hnext : empty.run (events ++ [.apply (.apUserSig o)]) =
      ((empty.run events).applyUserSig o).1 := run_append ..
  rw [applyUserSig, signatures_reconcile, ← applyUserSig, ← hnext]
  exact complete_usableSignatures

/-- A key has a signature when one was applied under it and not deleted since. -/
theorem contains_userSigs_iff {key : String} : (empty.run events).userSigs.contains key = true ↔
    ∃ o, latest (.apUserSig, key) events = some (.apUserSig o) := by
  rw [Table.contains_iff, run_eq_ofObjects, ofObjects, Signature.settled]
  simp only [Table.get?_map, Option.map_eq_some_iff, ← get?_userSigs_run]
  constructor
  · rintro ⟨-, o, ho, -⟩
    exact ⟨o, ho⟩
  · rintro ⟨o, ho⟩
    exact ⟨_, o, ho, rfl⟩

/-- So is the answer to one that goes, if it was there. That condition cannot be dropped. -/
theorem complete_deleteUserSig {key : String}
    (hin : (empty.run events).userSigs.contains key = true) :
    Complete (events ++ [.delete .apUserSig key])
      ((empty.run events).deleteUserSig key).2.signatures := by
  have hnext : empty.run (events ++ [.delete .apUserSig key]) =
      ((empty.run events).deleteUserSig key).1 := run_append ..
  rw [deleteUserSig, if_pos hin] at hnext ⊢
  rw [signatures_reconcile, ← hnext]
  exact complete_usableSignatures

end Events

/-- The answer to a signature that comes has every signature that can be used then, each once, in
the order of the keys, and so has the answer to one that goes. The deletion of a key that has no
signature is answered with none, which is complete exactly when no signature can be used. -/
theorem listing_complete_iff (events : List Event) :
    let a := empty.run events
    (∀ o, Complete (events ++ [.apply (.apUserSig o)]) (a.applyUserSig o).2.signatures) ∧
    ∀ key, let after := events ++ [.delete .apUserSig key]
      let there := ∃ o, latest (.apUserSig, key) events = some (.apUserSig o)
      (there ∨ (a.deleteUserSig key).2.signatures = []) ∧
      (Complete after (a.deleteUserSig key).2.signatures ↔
        there ∨ ∀ o, Stored after o → ¬Signature.Usable (Stored after) o) := by
  intro a
  refine ⟨complete_applyUserSig events, fun key => ?_⟩
  intro after there
  by_cases hthere : there
  · have hcomplete : Complete after (a.deleteUserSig key).2.signatures :=
      complete_deleteUserSig events ((contains_userSigs_iff events).2 hthere)
    exact ⟨.inl hthere, iff_of_true hcomplete (.inl hthere)⟩
  · -- a key without a signature is answered with an empty list
    have hnone : (a.deleteUserSig key).2.signatures = [] := by
      rw [deleteUserSig, if_neg (mt (contains_userSigs_iff events).1 hthere)]
      rfl
    refine ⟨.inr hnone, ?_⟩
    rw [hnone, complete_nil_iff, or_iff_right hthere]

/-- When a key that has no signature is deleted, the signature that is stored can be used still, but
the answer does not have it. -/
theorem listing_misses_signature :
    let events : List Event := [.apply (.apUserSig (plainSignature "old" 10))]
    ¬Complete (events ++ [.delete .apUserSig "shop/new"])
      ((empty.run events).deleteUserSig "shop/new").2.signatures := by
  intro events hcomplete
  have hanswer : ((empty.run events).deleteUserSig "shop/new").2.signatures = [] := by
    decide +kernel
  have hstill :
      (empty.run (events ++ [.delete .apUserSig "shop/new"])).usableSignatures.map (·.object) =
        [plainSignature "old" 10] := by rfl
  have husable := mem_usableSignatures_iff.1 (hstill ▸ List.mem_singleton_self _)
  rw [hanswer] at hcomplete
  exact List.not_mem_nil ((hcomplete.mem_iff _).2 husable)

end AppProtect

end Gatehouse
