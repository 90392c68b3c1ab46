import Gatehouse.Proofs.AppProtect.Usability
import Gatehouse.Proofs.Change

/-!
The copy of a consumer of App Protect policies.

Whether a policy can be used changes in three ways: with the policy itself, with a signature that
comes, and with one that goes. The first is told as a change; the other two are told as the lists of
the policies that are lost and gained. That a consumer who follows both has the policies that can be
used rests on one fact about signatures (`turn_reconcile`): a policy is either in one of the lists,
and then its look-up is what the list says, or in neither, and then its look-up is what it was.
-/

set_option autoImplicit false

namespace Gatehouse

/-! ## 1. Policies that signatures turn -/

namespace StoredPolicy

/-- Other signatures leave the status of a policy as it is, or turn it. A status that says what is
wrong with the policy itself is never turned. -/
theorem status_recheck (usable : List Signature) (p : StoredPolicy) :
    (p.recheck usable).status = p.status ∨
      p.status = none ∧ (p.recheck usable).status = some .missingUserSig ∨
      p.status = some .missingUserSig ∧ (p.recheck usable).status = none := by
  by_cases hmissing : p.status = some .missingUserSig
  · cases hmet : Requirement.allMet usable p.requirements <;> simp [recheck, hmissing, hmet]
  · by_cases hnone : p.status = none
    · cases hmet : Requirement.allMet usable p.requirements <;> simp [recheck, hnone, hmet]
    · simp [recheck, hmissing, hnone]

@[simp] theorem policy_recheck (usable : List Signature) (p : StoredPolicy) :
    (p.recheck usable).policy = p.policy := by
  simp only [recheck]
  split
  · rfl
  · split <;> rfl

end StoredPolicy

namespace AppProtect

section Turned

variable {policies : Table StoredPolicy} {usable : List Signature}

/-- The policies that are turned are those whose status was the one and becomes the other. -/
theorem mem_turned_iff {was becomes : Option Invalid} {p : ApPolicy} :
    p ∈ turned policies usable was becomes ↔ ∃ key entry, policies.get? key = some entry ∧
      entry.policy = p ∧ entry.status = was ∧ (entry.recheck usable).status = becomes := by
  simp only [turned, List.mem_map, List.mem_filter, Table.mem_values_iff, Bool.and_eq_true,
    decide_eq_true_eq]
  constructor
  · rintro ⟨entry, ⟨⟨key, hget⟩, hwas, hbecomes⟩, rfl⟩
    exact ⟨key, entry, hget, rfl, hwas, hbecomes⟩
  · rintro ⟨key, entry, hget, rfl, hwas, hbecomes⟩
    exact ⟨entry, ⟨⟨key, hget⟩, hwas, hbecomes⟩, rfl⟩

variable (hkeys : ∀ key p, policies.get? key = some p → p.policy.metadata.key = key)

include hkeys

/-- No policy is lost or gained twice, and none is both. A table has one entry under a key, and the
two lists ask for different statuses of it. -/
theorem nodup_keys_turned :
    ((turned policies usable none (some .missingUserSig) ++
      turned policies usable (some .missingUserSig) none).map fun p => p.metadata.key).Nodup := by
  have hnodup := Table.nodup_map_values hkeys
  rw [turned, turned, ← List.map_append, List.map_map, List.map_append, List.nodup_append]
  refine ⟨hnodup.sublist (List.filter_sublist.map _), hnodup.sublist (List.filter_sublist.map _),
    fun key hlost key' hgained heq => ?_⟩
  obtain ⟨p, hp, rfl⟩ := List.mem_map.1 hlost
  obtain ⟨q, hq, rfl⟩ := List.mem_map.1 hgained
  rw [List.mem_filter, Bool.and_eq_true, decide_eq_true_eq] at hp hq
  -- one stored policy would have both statuses
  obtain rfl := List.inj_on_of_nodup_map hnodup hp.1 hq.1 heq
  exact nomatch hp.2.1.symm.trans hq.2.1

end Turned

/-- The changes that the lists of lost and gained policies mean. -/
def SignatureReport.policyChanges (r : SignatureReport) : List (Change ApPolicy) :=
  r.lostPolicies.map (.plain .delete) ++ r.gainedPolicies.map (.plain .addOrUpdate)

theorem SignatureReport.map_resource_policyChanges (r : SignatureReport) :
    r.policyChanges.map Change.resource = r.lostPolicies ++ r.gainedPolicies := by
  simp [policyChanges, Function.comp_def]

/-- The key of a policy. -/
def policyKey (p : ApPolicy) : String := p.metadata.key

/-- Policies lie under their own keys, so a change of a policy is about the entry that the consumer
takes it for. -/
def PoliciesKept (a : AppProtect) : Prop :=
  ∀ key p, a.policies.get? key = some p → p.policy.metadata.key = key

section Reconcile

variable {a : AppProtect} {own : List Problem}

theorem get?_policies_reconcile (key : String) :
    (a.reconcile own).1.policies.get? key =
      (a.policies.get? key).map (.recheck (a.reconcile own).1.usableSignatures) :=
  Table.get?_map ..

/-- What becomes of a policy when signatures change: it is lost, or it is gained, or the look-up of
it is what it was. -/
inductive Turn (a : AppProtect) (r : AppProtect × SignatureReport) (key : String) : Prop
  | lost (p : ApPolicy) (hkey : p.metadata.key = key) (hp : p ∈ r.2.lostPolicies)
      (hstored : ∃ entry, a.policies.get? key = some entry ∧ entry.policy = p)
      (hafter : r.1.policy key = .error (.invalid .missingUserSig))
  | gained (p : ApPolicy) (hkey : p.metadata.key = key) (hp : p ∈ r.2.gainedPolicies)
      (hstored : ∃ entry, a.policies.get? key = some entry ∧ entry.policy = p)
      (hafter : r.1.policy key = .ok p)
  | kept (hnone : ∀ p ∈ r.2.lostPolicies ++ r.2.gainedPolicies, p.metadata.key ≠ key)
      (hsame : r.1.policy key = a.policy key)

theorem policy_of_get? {key : String} {entry : StoredPolicy}
    (h : a.policies.get? key = some entry) :
    a.policy key = match entry.status with
      | none => .ok entry.policy
      | some why => .error (.invalid why) := by
  cases hstatus : entry.status <;> simp [policy, usableEntry, h, hstatus]

theorem policy_of_get?_eq_none {key : String} (h : a.policies.get? key = none) :
    a.policy key = .error (.notFound "Policy" key) := by
  rw [policy, usableEntry, h]

/-- The lists of lost and gained policies say what becomes of a policy. The cases are the ways in
which its status can turn. -/
theorem turn_reconcile (hkeys : a.PoliciesKept) (key : String) :
    Turn a (a.reconcile own) key := by
  let usable := (a.reconcile own).1.usableSignatures
  have hlookup : (a.reconcile own).1.policies.get? key =
      (a.policies.get? key).map (.recheck usable) := get?_policies_reconcile key
  cases hget : a.policies.get? key with
  | none =>
    rw [hget, Option.map_none] at hlookup
    refine .kept (fun p hp hkey => ?_)
      ((policy_of_get?_eq_none hlookup).trans (policy_of_get?_eq_none hget).symm)
    have hstored : ∃ key' entry, a.policies.get? key' = some entry ∧ entry.policy = p := by
      rcases List.mem_append.1 hp with hp | hp
      · obtain ⟨key', entry, hentry, hpolicy, -⟩ := mem_turned_iff.1 hp
        exact ⟨key', entry, hentry, hpolicy⟩
      · obtain ⟨key', entry, hentry, hpolicy, -⟩ := mem_turned_iff.1 hp
        exact ⟨key', entry, hentry, hpolicy⟩
    obtain ⟨key', entry, hentry, rfl⟩ := hstored
    rw [← hkeys key' entry hentry, hkey, hget] at hentry
    cases hentry
  | some entry =>
    rw [hget, Option.map_some] at hlookup
    have hbefore := policy_of_get? hget
    have hafter := policy_of_get? hlookup
    rw [StoredPolicy.policy_recheck] at hafter
    have hkey := hkeys key entry hget
    rcases entry.status_recheck usable with hsame | ⟨hwas, hbecomes⟩ | ⟨hwas, hbecomes⟩
    · refine .kept (fun p hp hpkey => ?_) (by rw [hafter, hbefore, hsame])
      -- a policy of the lists is under the key only if its status was turned
      have hturned : ∀ was becomes, p ∈ turned a.policies usable was becomes → was = becomes := by
        intro was becomes hp
        obtain ⟨key', entry', hentry', rfl, hwas, hbecomes⟩ := mem_turned_iff.1 hp
        rw [← hkeys key' entry' hentry', hpkey, hget, Option.some.injEq] at hentry'
        subst hentry'
        rw [← hwas, ← hbecomes, hsame]
      rcases List.mem_append.1 hp with hp | hp
      · cases hturned _ _ hp
      · cases hturned _ _ hp
    · rw [hbecomes] at hafter
      exact .lost entry.policy hkey (mem_turned_iff.2 ⟨key, entry, hget, rfl, hwas, hbecomes⟩)
        ⟨entry, hget, rfl⟩ hafter
    · rw [hbecomes] at hafter
      exact .gained entry.policy hkey (mem_turned_iff.2 ⟨key, entry, hget, rfl, hwas, hbecomes⟩)
        ⟨entry, hget, rfl⟩ hafter

/-- A copy of the policies that can be used. A policy that is stored and cannot be used is not in
it. -/
def Copies (copy : Table ApPolicy) (a : AppProtect) : Prop :=
  ∀ key, copy.get? key = (a.policy key).toOption

theorem nodup_keys_reconcile (hkeys : a.PoliciesKept) :
    (((a.reconcile own).2.lostPolicies ++ (a.reconcile own).2.gainedPolicies).map policyKey).Nodup :=
  nodup_keys_turned hkeys

/-- A copy follows the changes of the policies that signatures turn, whichever of the two lists is
taken first. -/
theorem copies_reconcile (hkeys : a.PoliciesKept) {copy : Table ApPolicy} (h : Copies copy a) :
    Copies (Change.follow policyKey copy (a.reconcile own).2.policyChanges)
      (a.reconcile own).1 := by
  intro key
  generalize hr : a.reconcile own = r
  -- every change is the last one of its key, as no policy is mentioned twice
  have hlast : ∀ c ∈ r.2.policyChanges, Change.IsLast policyKey r.2.policyChanges c := by
    have hturned : ((r.2.lostPolicies ++ r.2.gainedPolicies).map policyKey).Nodup :=
      hr ▸ nodup_keys_reconcile hkeys
    rw [← SignatureReport.map_resource_policyChanges, List.map_map] at hturned
    exact fun c hc => Change.isLast_of_nodup hturned hc
  have hturn : Turn a r key := hr ▸ turn_reconcile hkeys key
  cases hturn with
  | lost p hkey hp _ hafter =>
    have hget : (Change.follow policyKey copy r.2.policyChanges).get? (policyKey p) = none :=
      Change.get?_follow_of_isLast (hlast (.plain .delete p)
        (List.mem_append_left _ (List.mem_map_of_mem hp)))
    rw [hafter, ← hkey]
    exact hget
  | gained p hkey hp _ hafter =>
    have hget : (Change.follow policyKey copy r.2.policyChanges).get? (policyKey p) = some p :=
      Change.get?_follow_of_isLast (hlast (.plain .addOrUpdate p)
        (List.mem_append_right _ (List.mem_map_of_mem hp)))
    rw [hafter, ← hkey]
    exact hget
  | kept hnone hsame =>
    rw [hsame, ← h key]
    -- nothing is told of the key, so the copy keeps what it has
    refine Change.get?_follow_of_forall_ne fun c hc => ?_
    have hmem := List.mem_map_of_mem (f := Change.resource) hc
    rw [SignatureReport.map_resource_policyChanges] at hmem
    exact hnone c.resource hmem

end Reconcile

/-! ## 2. Events -/

/-- The changes of policies that an event is answered with. -/
def policyChanges (a : AppProtect) : Event → List (Change ApPolicy)
  | .apply (.apPolicy p) => (a.applyPolicy p).2.changes
  | .delete .apPolicy key => (a.deletePolicy key).2.changes
  | .apply (.apUserSig o) => (a.applyUserSig o).2.policyChanges
  | .delete .apUserSig key => (a.deleteUserSig key).2.policyChanges
  | _ => []

/-- All changes of policies that the store answers some events with, in their order. -/
def policiesTold (a : AppProtect) : List Event → List (Change ApPolicy)
  | [] => []
  | e :: events => a.policyChanges e ++ (a.step e).policiesTold events

theorem policiesTold_append (a : AppProtect) (events : List Event) (e : Event) :
    a.policiesTold (events ++ [e]) = a.policiesTold events ++ (a.run events).policyChanges e := by
  induction events generalizing a with
  | nil => simp [policiesTold, run]
  | cons e' events ih =>
    rw [List.cons_append, policiesTold, ih, policiesTold, List.append_assoc]
    rfl

section Step

variable {a : AppProtect}

/-- A policy that is applied can be used when nothing is wrong with it and what it asks for is
there. -/
theorem policy_applyPolicy (p : ApPolicy) (key : String) :
    (a.applyPolicy p).1.policy key =
      if p.metadata.key = key then
        match p.spec.fault? a.usableSignatures with
        | none => .ok p
        | some fault => .error (.invalid fault.invalid)
      else a.policy key := by
  rw [fst_applyPolicy, policy, usableEntry, Table.get?_insert]
  by_cases hkey : p.metadata.key = key
  · rw [if_pos hkey, if_pos hkey]
    simp only [StoredPolicy.ofPolicy]
    cases p.spec.fault? a.usableSignatures <;> rfl
  · rw [if_neg hkey, if_neg hkey]
    rfl

/-- One that is deleted is not found any more, and the others are found as before. -/
theorem policy_deletePolicy (gone key : String) :
    (a.deletePolicy gone).1.policy key =
      if gone = key then .error (.notFound "Policy" key) else a.policy key := by
  rw [deletePolicy, policy, usableEntry, Table.get?_erase]
  by_cases hkey : gone = key
  · rw [if_pos hkey, if_pos hkey]
  · rw [if_neg hkey, if_neg hkey]
    rfl

/-- A copy follows one change that says what becomes of its policy, when the others stay. Both
events about policies are of this form. -/
theorem copies_single {next : AppProtect} {copy : Table ApPolicy} (h : Copies copy a)
    {c : Change ApPolicy}
    (hown : (next.policy (policyKey c.resource)).toOption =
      if c.isDelete then none else some c.resource)
    (hothers : ∀ key, policyKey c.resource ≠ key → next.policy key = a.policy key) :
    Copies (Change.follow policyKey copy [c]) next := by
  intro key
  show (Change.followOne policyKey copy c).get? key = _
  rw [Change.get?_followOne]
  by_cases hkey : policyKey c.resource = key
  · rw [if_pos hkey, ← hkey, hown]
  · rw [if_neg hkey, hothers key hkey, h key]

/-- A policy that is applied is told to be put or to be gone. It is told in any case, so the copy is
right about it without anything being known of what was stored before. -/
theorem copies_applyPolicy (p : ApPolicy) {copy : Table ApPolicy} (h : Copies copy a) :
    Copies (Change.follow policyKey copy (a.applyPolicy p).2.changes) (a.applyPolicy p).1 := by
  -- the event is about one key, and the other look-ups are as before
  have hothers : ∀ key, policyKey p ≠ key → (a.applyPolicy p).1.policy key = a.policy key :=
    fun key hkey => (policy_applyPolicy p key).trans (if_neg hkey)
  have hown := (policy_applyPolicy (a := a) p (policyKey p)).trans (if_pos rfl)
  cases hfault : p.spec.fault? a.usableSignatures with
  | none =>
    have hchanges : (a.applyPolicy p).2.changes = [.plain .addOrUpdate p] := by
      simp only [applyPolicy, hfault, Report.put]
    rw [hfault] at hown
    rw [hchanges]
    exact copies_single h (by rw [Change.resource_plain, hown]; rfl) hothers
  | some fault =>
    have hchanges : (a.applyPolicy p).2.changes =
        [⟨.delete, p, some (fault.message p.metadata.shownName)⟩] := by
      simp only [applyPolicy, hfault, Report.refused]
    rw [hfault] at hown
    rw [hchanges]
    exact copies_single h (by rw [hown]; rfl) hothers

/-- One that is deleted is told to be gone, if it was stored; otherwise there is nothing to
follow. -/
theorem copies_deletePolicy (hkeys : a.PoliciesKept) (gone : String) {copy : Table ApPolicy}
    (h : Copies copy a) :
    Copies (Change.follow policyKey copy (a.deletePolicy gone).2.changes)
      (a.deletePolicy gone).1 := by
  cases hget : a.policies.get? gone with
  | none =>
    -- what is not there is not removed
    have hsame : a.deletePolicy gone = (a, .empty) := by
      simp [deletePolicy, hget, Report.removed, Report.empty, Table.erase_of_get?_eq_none hget]
    rw [hsame]
    exact h
  | some entry =>
    have hkey : policyKey entry.policy = gone := hkeys gone entry hget
    have hchanges : (a.deletePolicy gone).2.changes = [.plain .delete entry.policy] := by
      simp [deletePolicy, hget, Report.removed]
    rw [hchanges]
    refine copies_single h ?_ fun key hne => ?_
    · rw [policy_deletePolicy, Change.resource_plain, if_pos hkey.symm]
      rfl
    · rw [Change.resource_plain, hkey] at hne
      rw [policy_deletePolicy, if_neg hne]

/-- A copy follows what an event is answered with. There is a case for each sort of object; log
configurations concern no policy, and a signature concerns those that it turns. -/
theorem copies_step (hkeys : a.PoliciesKept) (e : Event) {copy : Table ApPolicy}
    (h : Copies copy a) :
    Copies (Change.follow policyKey copy (a.policyChanges e)) (a.step e) := by
  rcases e with o | ⟨kind, gone⟩
  · cases o with
    | apPolicy p => exact copies_applyPolicy p h
    | apUserSig o =>
      -- the contests begin from the table with the new signature
      let next := { a with userSigs := a.userSigs.insert o.metadata.key (.ofObject o) }
      exact copies_reconcile (a := next) hkeys h
    | apLogConf l =>
      simp only [policyChanges, step, fst_applyLogConf]
      exact h
    | _ => exact h
  · cases kind with
    | apPolicy => exact copies_deletePolicy hkeys gone h
    | apUserSig =>
      let next := { a with userSigs := a.userSigs.erase gone }
      simp only [policyChanges, step, deleteUserSig]
      split
      · exact copies_reconcile (a := next) hkeys h
      · exact h
    | _ => exact h

end Step

section Run

variable {events : List Event}

theorem policiesKept_run : (empty.run events).PoliciesKept := by
  intro key entry hentry
  rw [run_eq_ofObjects, ofObjects, Table.get?_map, Option.map_eq_some_iff] at hentry
  obtain ⟨p, hp, rfl⟩ := hentry
  exact congrArg Prod.snd (place_of_latest (get?_policies_run.1 hp))

/-- Whoever has followed all changes of a run has the policies that can be used. The induction is on
the events. -/
theorem copies_run :
    Copies (Change.follow policyKey Table.empty (empty.policiesTold events)) (empty.run events) := by
  induction events using List.reverseRecOn with
  | nil => exact fun key => rfl
  | append_singleton events e ih =>
    rw [policiesTold_append, Change.follow_append, run_append]
    exact copies_step policiesKept_run e ih

end Run

end AppProtect

end Gatehouse
