import Gatehouse.Proofs.Configuration.Settled
import Gatehouse.Proofs.Plan.Drafts
import Gatehouse.Proofs.Change.IndexLoop

/-!
Nothing is read out of range.

What is decided after an event is decided by loops that keep indices: of resources for hosts, of
minions for paths, of transport servers for listeners, and of the last changes when changes are
squashed. With every access checked each of these loops gives what the definitions of this library
say, so none of the accesses fails. Nothing is asked of the objects for that: they may have repeated
hosts, no rules or empty names, so it holds with any admission (`indices_in_range`).

Two more places could go wrong. The number of listeners that are not held over TCP is a difference.
And the checks of ingresses read the first rule, which they do only when it is the only one.
-/

set_option autoImplicit false

namespace Gatehouse

namespace Validation

/-! ## 1. The only rule -/

/-- The first rule, which may be read when it is the only one. With another number of rules there is
no result. -/
def onlyRule? : List IngressRule → Option IngressRule
  | [rule] => some rule
  | _ => none

/-- What is wrong with a master, with the first rule read out of the list. -/
def masterErrorsByRead (path : Path) (i : Ingress) : Option (List FieldError) :=
  if i.rules.length = 1 then do
    let rule ← onlyRule? i.rules
    return if 0 < rule.paths.length then
      [.tooMany (pathsPath ((path.child "rules").index 0)) rule.paths.length 0] else []
  else some [.tooMany (path.child "rules") i.rules.length 1]

/-- What is wrong with a minion, with the first rule read out of the list. -/
def minionErrorsByRead (path : Path) (i : Ingress) : Option (List FieldError) :=
  let certificates :=
    if 0 < i.tls.length then [FieldError.tooMany (path.child "tls") i.tls.length 0] else []
  if i.rules.length = 1 then do
    let rule ← onlyRule? i.rules
    return certificates ++ if rule.paths.length = 0 then
      [.required (pathsPath ((path.child "rules").index 0)) "must include at least one path"] else []
  else some (certificates ++ [.tooMany (path.child "rules") i.rules.length 1])

/-- The rule is read only where there is one, so the reading never fails. -/
theorem masterErrorsByRead_eq (path : Path) (i : Ingress) :
    masterErrorsByRead path i = some (masterErrors path i) := by
  unfold masterErrorsByRead masterErrors
  match hrules : i.rules with
  | [] => rfl
  | [rule] => cases hpaths : rule.paths <;> simp [onlyRule?, hpaths]
  | _ :: _ :: _ => simp

/-- The same for minions. -/
theorem minionErrorsByRead_eq (path : Path) (i : Ingress) :
    minionErrorsByRead path i = some (minionErrors path i) := by
  have hcertificates : (if 0 < i.tls.length then
      [FieldError.tooMany (path.child "tls") i.tls.length 0] else []) =
        if i.tls.isEmpty then [] else [.tooMany (path.child "tls") i.tls.length 0] := by
    cases i.tls <;> simp
  unfold minionErrorsByRead minionErrors
  rw [hcertificates]
  match hrules : i.rules with
  | [] => rfl
  | [rule] => cases hpaths : rule.paths <;> simp [onlyRule?, hpaths]
  | _ :: _ :: _ => simp

end Validation

namespace Configuration

/-! ## 2. Counts -/

/-- The holders over TCP are some of all holders, so the difference is not below zero. -/
theorem tcp_le_size (c : Configuration) : c.transportCounts.tcp ≤ c.listeners.size := by
  have hle := List.length_filter_le
    (fun r : TransportServerResource => r.server.spec.listener.protocol == "TCP") c.listeners.values
  rwa [Table.values, List.length_map] at hle

/-! ## 3. All indices -/

/-- No access by index fails and no number falls below zero in what a configuration decides. The
loops over drafts stay in range, and reading their drafts by the indices that are left gives the
holders of the hosts and of the listeners, and the minions of any master. Listeners that are held
over TCP are at most as many as all that are held. The indices that are remembered when changes are
squashed are those of changes, and taking changes by them gives the squashed list. And the checks of
ingresses read the first rule only when it is the only one. -/
structure IndicesInRange (c : Configuration) : Prop where
  hosts : hostDrafting.StaysInRange (hostActs c.admission c.passthrough c.store)
  hosts_read : ∃ d, hostDrafting.run (hostActs c.admission c.passthrough c.store) = some d ∧
    ReadsAll d.holders (d.drafts.mapIdx (Resource.marked d.holders)) c.hosts
  minions : ∀ host, minionDrafting.StaysInRange (minionActs c.store host)
  minions_read : ∀ master, ∃ d, minionDrafting.run (minionActs c.store master.firstHost) = some d ∧
    (masterResource c.store master).minions = d.drafts.map (·.minion) ∧
    (masterResource c.store master).childWarnings = toldByKey d.drafts
  listeners : listenerDrafting.StaysInRange (listenerActs c.store)
  listeners_read : ∃ d, listenerDrafting.run (listenerActs c.store) = some d ∧
    ReadsAll d.holders d.drafts c.listeners
  counts : c.transportCounts.tcp ≤ c.listeners.size
  remembered : ∀ changes key i, (Change.lastIndices Resource.key changes).get? key = some i →
    i < changes.length
  squashed : ∀ changes,
    Change.squashByIndex Resource.key changes = some (Change.squash Resource.key changes)
  masters_checked : ∀ path i,
    Validation.masterErrorsByRead path i = some (Validation.masterErrors path i)
  minions_checked : ∀ path i,
    Validation.minionErrorsByRead path i = some (Validation.minionErrors path i)

/-- After any events and with any admission, nothing is read out of range. The loops are written
with accesses that can fail, and are shown to succeed and to give what the plans say; so the plans
may be reasoned about without any index. -/
theorem indices_in_range (f : Features) (a : Admission) (events : List Event) :
    IndicesInRange ((fresh f a).run events) := by
  have hsettled : ((fresh f a).run events).Settled := settled_run
  -- Nothing is used of the run but that it is settled: each loop is run once more over its store.
  generalize (fresh f a).run events = c at hsettled
  obtain ⟨d, hhosts, hresources, hserved⟩ := hostPlan_eq_run c.admission c.passthrough c.store
  obtain ⟨e, hlisteners, hservers, hbound⟩ := listenerPlan_eq_run c.store
  exact {
    hosts := Drafting.staysInRange_of_run hhosts
    hosts_read := ⟨d, hhosts, hresources ▸ hsettled.hosts_eq ▸ hserved⟩
    minions := fun host => by
      obtain ⟨m, hminions, -⟩ := minions_eq_run c.store host
      exact Drafting.staysInRange_of_run hminions
    minions_read := fun master => minions_eq_run c.store master.firstHost
    listeners := Drafting.staysInRange_of_run hlisteners
    listeners_read := ⟨e, hlisteners, hservers ▸ hsettled.listeners_eq ▸ hbound⟩
    counts := c.tcp_le_size
    remembered := fun _ _ _ => Change.lt_length_of_get?_lastIndices
    squashed := Change.squashByIndex_eq Resource.key
    masters_checked := Validation.masterErrorsByRead_eq
    minions_checked := Validation.minionErrorsByRead_eq }

end Configuration

end Gatehouse
