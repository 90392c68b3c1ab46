import Gatehouse.Proofs.Configuration.Copy
import Gatehouse.Proofs.Plan.Core
import Mathlib.Data.Set.Basic

/-!
Nothing is told without a reason.

A change has a reason when its resource was served before and is not now, or the other way round, or
is served before and after but has other hosts and listeners or would be rendered differently
(`Warranted`). A put resource came to a slot that had nothing equivalent before; when it was served
before and would be rendered as before, then that slot is new to it, because an unchanged resource
is found unchanged at every slot that it had (`warranted_of_leads`).

Two kinds of event have no answer at all. An event that leaves the store as it is has a settled
configuration decide what it has decided already (`rebuild_of_settled`): that is so for an object
that is there as it is applied, and for the deletion of one that is not there. And an event that
leaves the core of the store as it is changes no slot up to what is rendered, so that there is
nothing to tell (`changes_of_core_eq`): that is so for an object of which only such things have
changed as do not matter to anything that is built.
-/

set_option autoImplicit false

namespace Gatehouse.Configuration

/-! ## 1. Reasons -/

/-- The hosts and the listeners that the resource with the key has. -/
def slotsOf (c : Configuration) (key : String) : Set Slot :=
  {slot | ∃ r, c.holders slot = some r ∧ r.key = key}

/-- The change from one configuration to another has a reason. The cases are whether the resource
was served before and whether it is now; a change about one that never was has none. -/
def Warranted (c next : Configuration) (change : ResourceChange) : Prop :=
  match c.served.get? change.resource.key, next.served.get? change.resource.key with
  | some _, none => change.isDelete = true
  | none, some _ => change.isDelete = false
  | some q, some r => change.isDelete = false ∧
      (c.slotsOf change.resource.key ≠ next.slotsOf change.resource.key ∨ q.equivalent r = false)
  | none, none => False

theorem exists_get?_served_iff {c : Configuration} (h : Holding c.holders) {key : String} :
    (∃ r, c.served.get? key = some r) ↔ Served c.holders key := by
  simp only [get?_served_iff h]
  constructor
  · rintro ⟨r, ⟨slot, hr⟩, hkey⟩
    exact ⟨slot, r, hr, hkey⟩
  · rintro ⟨slot, r, hr, hkey⟩
    exact ⟨r, ⟨slot, hr⟩, hkey⟩

/-- A resource that has come to a slot has another set of slots than before, or would be rendered
differently. Had it neither, it would have been found equivalent at that slot. -/
theorem slotsOf_ne_or_of_gained {c next : Configuration} (hc : Holding c.holders) {slot : Slot}
    {q r : Resource} (hgained : Gained c.holders next.holders slot r)
    (hq : c.served.get? r.key = some q) :
    c.slotsOf r.key ≠ next.slotsOf r.key ∨ q.equivalent r = false := by
  obtain ⟨⟨other, hother⟩, hkey⟩ := (get?_served_iff hc).1 hq
  by_cases hsame : c.slotsOf r.key = next.slotsOf r.key
  · -- then it had the slot before, and was not equivalent
    right
    have hmem : slot ∈ next.slotsOf r.key := ⟨r, hgained.1, rfl⟩
    rw [← hsame] at hmem
    obtain ⟨q', hq', hkey'⟩ := hmem
    have hqq' : q = q' := hc.unique other q slot q' hother hq' (hkey.trans hkey'.symm)
    exact hqq' ▸ hgained.2 q' hq'
  · exact .inl hsame

/-- What leads from one configuration to another has reasons. A removal needs that the key was
served and is served no longer, a put that a slot has something new. -/
theorem warranted_of_leads {c next : Configuration} (hc : Holding c.holders)
    (hnext : Holding next.holders) {changes : List ResourceChange}
    (h : Leads c.holders next.holders changes) {change : ResourceChange} (hmem : change ∈ changes) :
    Warranted c next change := by
  have hbefore : (∃ q, c.served.get? change.resource.key = some q) ↔
      Served c.holders change.resource.key := exists_get?_served_iff hc
  have hafter : (∃ r, next.served.get? change.resource.key = some r) ↔
      Served next.holders change.resource.key := exists_get?_served_iff hnext
  cases hop : change.isDelete with
  | true =>
    obtain ⟨hwas, hgone⟩ := h.delete change hmem hop
    obtain ⟨q, hq⟩ := hbefore.2 hwas
    have hnone : next.served.get? change.resource.key = none :=
      Option.eq_none_iff_forall_ne_some.2 fun r hr => hgone (hafter.1 ⟨r, hr⟩)
    simp only [Warranted, hq, hnone, hop]
  | false =>
    obtain ⟨slot, hgained⟩ := h.put change hmem hop
    have hr : next.served.get? change.resource.key = some change.resource :=
      (get?_served_iff hnext).2 ⟨⟨slot, hgained.1⟩, rfl⟩
    cases hq : c.served.get? change.resource.key with
    | none => simp only [Warranted, hq, hr, hop]
    | some q =>
      -- A put of what was served already: the resource differs, or the slots that it holds do.
      have hdiffers := slotsOf_ne_or_of_gained hc hgained hq
      simp only [Warranted, hq, hr, hop, hdiffers, and_self]

/-! ## 2. Events that leave the store as it is -/

theorem news_self (t : Table Problem) : Problem.news t t = [] := by
  rw [Problem.news, List.map_eq_nil_iff, List.filter_eq_nil_iff]
  rintro ⟨key, q⟩ hq
  have hreads : q.readsAs q = true := by simp [Problem.readsAs]
  simp [Table.mem_entries_iff.1 hq, hreads]

/-- Deciding the hosts anew when they are settled leaves the configuration and has no news. -/
theorem rebuildHosts_of_settled {c : Configuration} (h : c.Settled) :
    c.rebuildHosts = (c, .empty) := by
  refine Prod.ext (settled_iff.1 h).1 ?_
  simp only [rebuildHosts, ← h.hosts_eq, ← h.hostProblems_eq, holderChanges_self, news_self]
  rfl

/-- The same for the listeners. -/
theorem rebuildListeners_of_settled {c : Configuration} (h : c.Settled) :
    c.rebuildListeners = (c, .empty) := by
  refine Prod.ext (settled_iff.1 h).2 ?_
  simp only [rebuildListeners, ← h.listeners_eq, ← h.listenerProblems_eq, holderChanges_self,
    news_self]
  rfl

/-- To decide anew what is settled changes nothing and tells nothing. -/
theorem rebuild_of_settled {c : Configuration} (h : c.Settled) (kind : Kind) :
    rebuild kind c = (c, .empty) := by
  have hboth : c.rebuildBoth = (c, .empty) := by
    simp only [rebuildBoth, rebuildListeners_of_settled h, rebuildHosts_of_settled h]
    split <;> rfl
  cases kind
  case ingress | virtualServer | virtualServerRoute => exact rebuildHosts_of_settled h
  case transportServer => exact hboth
  case globalConfiguration => exact rebuildListeners_of_settled h
  all_goals rfl

/-- What is taken on has only decided anew what it can have touched. The four kinds that are served
share this form, and nothing below it tells them apart. -/
theorem step_of_admits {c : Configuration} {o : Object} (h : c.admission.admits o = true) :
    c.step (.apply o) = rebuild o.kind (c.withStore (c.store.after c.admission (.apply o))) := by
  cases o with
  | ingress i =>
    have herrors : (c.admission.ingressErrors i).isEmpty = true := (Bool.and_eq_true_iff.1 h).2
    simp only [step, applyIngress, herrors, Bool.not_true, Bool.and_false, Bool.false_eq_true,
      if_false, Store.after, Admission.admits]
    rfl
  | virtualServer vs =>
    have herrors : (c.admission.virtualServerErrors vs).isEmpty = true :=
      (Bool.and_eq_true_iff.1 h).2
    simp only [step, applyVirtualServer, herrors, Bool.not_true, Bool.and_false,
      Bool.false_eq_true, if_false, Store.after, Admission.admits]
    rfl
  | virtualServerRoute vsr =>
    have herrors : (c.admission.virtualServerRouteErrors vsr).isEmpty = true :=
      (Bool.and_eq_true_iff.1 h).2
    simp only [step, applyVirtualServerRoute, herrors, Bool.not_true, Bool.and_false,
      Bool.false_eq_true, if_false, Store.after, Admission.admits]
    rfl
  | transportServer ts =>
    have herrors : (c.admission.transportServerErrors ts).isEmpty = true :=
      (Bool.and_eq_true_iff.1 h).2
    simp only [step, applyTransportServer, herrors, Bool.not_true, Bool.and_false,
      Bool.false_eq_true, if_false, Store.after, Admission.admits]
    rfl
  | globalConfiguration g => rfl
  | policy p => rfl
  | _ => cases h

/-- An event that leaves at its place what is there leaves the store as it is. -/
theorem after_eq_self {s : Store} {a : Admission} {e : Event}
    (h : s.find? e.place = e.object?.filter a.admits) : s.after a e = s := by
  refine Store.ext_find? fun place => ?_
  rw [Store.find?_after]
  split
  · rename_i hplace
    rw [← h, hplace]
  · rfl

/-- An object that is there as it is applied has no answer. It is let in again, and the store is the
same. -/
theorem step_of_stored {c : Configuration} (hc : c.Settled) {o : Object}
    (hadmits : c.admission.admits o = true)
    (ho : c.store.find? (placeOf o.kind o.metadata.key) = some o) :
    c.step (.apply o) = (c, .empty) := by
  have hstore : c.store.after c.admission (.apply o) = c.store :=
    after_eq_self (ho.trans (Option.filter_some_pos hadmits).symm)
  rw [step_of_admits hadmits, hstore]
  exact rebuild_of_settled hc o.kind

/-- The deletion of an object that is not there has no answer. The store is left as it is, and a
settled configuration that is decided anew on the same store is the same. -/
theorem step_of_absent {c : Configuration} (hc : c.Settled) {kind : Kind} {key : String}
    (h : c.store.find? (placeOf kind key) = none) : c.step (.delete kind key) = (c, .empty) := by
  have hstore : c.store.after c.admission (.delete kind key) = c.store := after_eq_self h
  -- of a kind with a table, the table does not have the key
  have habsent : ∀ {α : Type} {t : Table α} {wrap : α → Object},
      (t.get? key).map wrap = none → t.contains key = false := fun hget => by
    rw [Table.contains, Option.map_eq_none_iff.1 hget]
    rfl
  cases kind with
  | ingress => simp only [step, deleteIngress, letGo, habsent h, Bool.false_eq_true, if_false]
  | virtualServer =>
    simp only [step, deleteVirtualServer, letGo, habsent h, Bool.false_eq_true, if_false]
  | virtualServerRoute =>
    simp only [step, deleteVirtualServerRoute, letGo, habsent h, Bool.false_eq_true, if_false]
  | transportServer =>
    simp only [step, deleteTransportServer, letGo, habsent h, Bool.false_eq_true, if_false]
  | globalConfiguration =>
    show (c.withStore (c.store.after c.admission (.delete .globalConfiguration key))).rebuildListeners
      = _
    rw [hstore]
    exact rebuildListeners_of_settled hc
  | policy =>
    show (c.withStore (c.store.after c.admission (.delete .policy key)), Report.empty) = _
    rw [hstore]
    rfl
  | _ => rfl

/-! ## 3. Events that leave the core of the store as it is -/

/-- The core of a store has the cores of its objects, at the same places. So stores with the same
cores have objects at the same places. -/
theorem find?_core (s : Store) (place : Place) :
    s.core.find? place = (s.find? place).map Object.core := by
  obtain ⟨kind, key⟩ := place
  -- a table of one kind
  have htable : ∀ {α : Type} (t : Table α) (f : α → α) (wrap : α → Object),
      (∀ o, wrap (f o) = (wrap o).core) →
      ((t.map f).get? key).map wrap = ((t.get? key).map wrap).map Object.core := by
    intro α t f wrap hwrap
    rw [Table.get?_map, Option.map_map, Option.map_map]
    congr 1
    exact funext hwrap
  cases kind with
  | ingress => exact htable s.ingresses _ _ fun _ => rfl
  | virtualServer => exact htable s.virtualServers _ _ fun _ => rfl
  | virtualServerRoute => exact htable s.virtualServerRoutes _ _ fun _ => rfl
  | transportServer => exact htable s.transportServers _ _ fun _ => rfl
  | policy => exact htable s.policies _ _ fun _ => rfl
  | globalConfiguration =>
    show (if key = "" then _ else none) = (if key = "" then _ else none : Option Object).map _
    split
    · simp only [Store.core, Option.map_map]
      rfl
    · rfl
  | _ => rfl

/-- The checks of the kinds look at the core of an object. So an object with the core of another one
is let in as that one is. -/
theorem admits_core (className : String) (f : Features) (o : Object) :
    (Admission.checked className f).admits o.core = (Admission.checked className f).admits o := by
  cases o <;> rfl

/-- An object that has the core of the one that is there leaves the core of the store as it is. -/
theorem core_after {s : Store} {a : Admission} {o o' : Object}
    (ho : s.find? (placeOf o'.kind o'.metadata.key) = some o) (hadmits : a.admits o' = true)
    (hcore : o'.core = o.core) : (s.after a (.apply o')).core = s.core := by
  refine Store.ext_find? fun place => ?_
  rw [find?_core, find?_core, Store.find?_after]
  split
  · rename_i hplace
    have hs : s.find? place = some o := hplace ▸ ho
    rw [hs, Event.object?, Option.filter_some_pos hadmits, Option.map_some, Option.map_some, hcore]
  · rfl

/-- An event that leaves the core of the store as it is has no changes. Both plans have the same
core, so every slot has what is rendered as before. -/
theorem changes_of_core_eq {c : Configuration} {e : Event} (hc : c.Settled) (hs : c.store.Sound)
    (hnext : (c.step e).1.store.Sound) (ha : c.admission.ReadsCores)
    (hcore : (c.step e).1.store.core = c.store.core) : (c.step e).2.changes = [] := by
  refine (leads_step hc hs hnext).eq_nil_of_rendering_eq fun slot => ?_
  have hslot : (c.holders slot).map Resource.core =
      ((c.step e).1.holders slot).map Resource.core := by
    rw [holders_of_settled hc, holders_of_settled (settled_step hc e), admission_step,
      passthrough_step, ← holders_core ha, ← holders_core ha, hcore]
  have hrendering := congrArg (Option.map Resource.rendering) hslot
  simp only [Option.map_map, Function.comp_def, Resource.rendering_core] at hrendering
  exact hrendering

/-! ## 4. Runs -/

/-- After any events, every change that the next one is answered with has a reason. An object that
is there as it is applied, and the deletion of an object that is not there, leave everything as it
is and are answered with nothing. An object that is there with the same core, that is with the same
specification, generation, creation time and identifier and, for an ingress, the same annotations,
changes nothing that is served. -/
theorem no_spurious_change (className : String) (f : Features) (events : List Event) :
    let c := (fresh f (.checked className f)).run events
    (∀ e, ∀ change ∈ (c.step e).2.changes, Warranted c (c.step e).1 change) ∧
    (∀ o, c.store.find? (placeOf o.kind o.metadata.key) = some o →
      c.step (.apply o) = (c, .empty)) ∧
    (∀ kind key, c.store.find? (placeOf kind key) = none →
      c.step (.delete kind key) = (c, .empty)) ∧
    ∀ o o', c.store.find? (placeOf o'.kind o'.metadata.key) = some o → o'.core = o.core →
      (c.step (.apply o')).2.changes = [] := by
  intro c
  have hc : c.Settled := settled_run
  have hs : c.store.Sound := sound_run
  have hadmission : c.admission = .checked className f := admission_run
  have hlast : ∀ e, (fresh f (.checked className f)).run (events ++ [e]) = (c.step e).1 :=
    run_append (fresh f (.checked className f)) events
  have hnext : ∀ e, (c.step e).1.store.Sound := fun e => hlast e ▸ sound_run
  have hadmits : ∀ place o, c.store.find? place = some o → c.admission.admits o = true :=
    fun place o ho => hadmission ▸ (of_find?_run place o ho).2.2
  refine ⟨fun e change hchange => ?_, fun o ho => step_of_stored hc (hadmits _ o ho) ho,
    fun kind key => step_of_absent hc, fun o o' ho hcore => ?_⟩
  · have hholding : Holding (c.step e).1.holders := hlast e ▸ holding_run
    exact warranted_of_leads holding_run hholding (leads_step hc hs (hnext e)) hchange
  · -- what is applied is let in, because the one that is there was
    have hadmits' : c.admission.admits o' = true := by
      have hold := hadmits _ o ho
      rw [hadmission] at hold ⊢
      rw [← admits_core, hcore, admits_core]
      exact hold
    refine changes_of_core_eq hc hs (hnext _) ?_ ?_
    · rw [hadmission]
      exact Admission.readsCores_checked className f
    · rw [store_step]
      exact core_after ho hadmits' hcore

end Gatehouse.Configuration
