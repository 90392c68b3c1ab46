import Gatehouse.Configuration
import Gatehouse.Proofs.Change
import Gatehouse.Proofs.Store
import Mathlib.Data.List.Induction

/-!
Runs of a configuration, and what the store has after one.

An event is about a *place*: a kind and a key, or for the global configuration its kind alone. What
the store has at a place after a run is what the last event about the place left there, if admission
lets it in (`find?_run`). Nothing else of the run is remembered, neither the order of the events of
different places nor earlier versions, and that is all that is needed to see which objects a store
can have (`admitted_run`) and when two runs end with the same store (`store_run_congr`).
-/

set_option autoImplicit false

namespace Gatehouse

/-! ## 1. Events -/

/-- What a configuration is told about an object. The kinds that it does not keep can be in an event
as well. -/
inductive Event
  | apply (o : Object)
  | delete (kind : Kind) (key : String)

/-- Where an object belongs. -/
abbrev Place := Kind × String

/-- Where an object of the kind and the key belongs. There is one global configuration at most, so
its key does not matter. -/
def placeOf (kind : Kind) (key : String) : Place :=
  if kind = .globalConfiguration then (kind, "") else (kind, key)

namespace Event

/-- The kind of the object that the event is about. -/
def kind : Event → Kind
  | .apply o => o.kind
  | .delete kind _ => kind

/-- The place that the event is about. -/
def place : Event → Place
  | .apply o => placeOf o.kind o.metadata.key
  | .delete kind key => placeOf kind key

/-- The object that there is after the event, before admission is asked. -/
def object? : Event → Option Object
  | .apply o => some o
  | .delete .. => none

/-- The kind of an event is in its place, also where the key is not. -/
theorem fst_place (e : Event) : e.place.1 = e.kind := by
  rcases e with o | ⟨k, key⟩ <;> simp only [Event.kind, Event.place, placeOf] <;> split <;> rfl

end Event

/-- The object that there is at a place after the events: the one that was applied there last,
unless it was deleted since. -/
def latest (place : Place) (events : List Event) : Option Object :=
  events.foldl (fun o e => if e.place = place then e.object? else o) none

theorem latest_append (place : Place) (events : List Event) (e : Event) :
    latest place (events ++ [e]) =
      if e.place = place then e.object? else latest place events := by
  simp [latest]

/-- What was applied last at a place belongs there. The kind and the key can be read off the object
again. -/
theorem place_of_latest {place : Place} {events : List Event} {o : Object}
    (h : latest place events = some o) : placeOf o.kind o.metadata.key = place := by
  induction events using List.reverseRecOn with
  | nil => simp [latest] at h
  | append_singleton events e ih =>
    rw [latest_append] at h
    by_cases hplace : e.place = place
    · rw [if_pos hplace] at h
      cases e with
      | apply o' =>
        obtain rfl := Option.some.inj h
        exact hplace
      | delete kind key => simp [Event.object?] at h
    · rw [if_neg hplace] at h
      exact ih h

/-- What was applied last was applied. With this, what holds of all objects of a run holds of those
that are stored. -/
theorem mem_of_latest {place : Place} {events : List Event} {o : Object}
    (h : latest place events = some o) : .apply o ∈ events := by
  induction events using List.reverseRecOn with
  | nil => simp [latest] at h
  | append_singleton events e ih =>
    rw [latest_append] at h
    split at h
    · cases e with
      | apply o' =>
        obtain rfl := Option.some.inj h
        exact List.mem_append_right _ (List.mem_singleton_self _)
      | delete kind key => simp [Event.object?] at h
    · exact List.mem_append_left _ (ih h)

/-! ## 2. What an event does to the store -/

/-- The object is taken on when it is applied: it is selected, and the check of its kind finds
nothing. -/
def Admission.admits (a : Admission) : Object → Bool
  | .ingress i => a.selectsIngress i && (a.ingressErrors i).isEmpty
  | .virtualServer vs =>
    a.selectsClassName vs.spec.ingressClassName && (a.virtualServerErrors vs).isEmpty
  | .virtualServerRoute vsr =>
    a.selectsClassName vsr.spec.ingressClassName && (a.virtualServerRouteErrors vsr).isEmpty
  | .transportServer ts =>
    a.selectsClassName ts.spec.ingressClassName && (a.transportServerErrors ts).isEmpty
  | .globalConfiguration g => (a.globalConfigurationErrors g).isEmpty
  | .policy p => a.selectsClassName p.spec.ingressClassName
  | _ => false

namespace Store

/-- The object that the store has at a place. With it the tables of the store are looked up alike,
so an event needs one lemma and not one for each kind. -/
def find? (s : Store) : Place → Option Object
  | (.ingress, key) => (s.ingresses.get? key).map .ingress
  | (.virtualServer, key) => (s.virtualServers.get? key).map .virtualServer
  | (.virtualServerRoute, key) => (s.virtualServerRoutes.get? key).map .virtualServerRoute
  | (.transportServer, key) => (s.transportServers.get? key).map .transportServer
  | (.globalConfiguration, key) =>
    if key = "" then s.globalConfiguration.map .globalConfiguration else none
  | (.policy, key) => (s.policies.get? key).map .policy
  | _ => none

open Gatehouse.Configuration (settleIn) in
/-- The store after an event. -/
def after (s : Store) (a : Admission) : Event → Store
  | .apply (.ingress i) =>
    let accepted := a.admits (.ingress i)
    { s with ingresses := settleIn s.ingresses i.metadata.key i accepted }
  | .apply (.virtualServer vs) =>
    let accepted := a.admits (.virtualServer vs)
    { s with virtualServers := settleIn s.virtualServers vs.metadata.key vs accepted }
  | .apply (.virtualServerRoute vsr) =>
    let accepted := a.admits (.virtualServerRoute vsr)
    { s with virtualServerRoutes := settleIn s.virtualServerRoutes vsr.metadata.key vsr accepted }
  | .apply (.transportServer ts) =>
    let accepted := a.admits (.transportServer ts)
    { s with transportServers := settleIn s.transportServers ts.metadata.key ts accepted }
  | .apply (.globalConfiguration g) =>
    { s with globalConfiguration := if a.admits (.globalConfiguration g) then some g else none }
  | .apply (.policy p) =>
    let accepted := a.admits (.policy p)
    { s with policies := settleIn s.policies p.metadata.key p accepted }
  | .delete .ingress key => { s with ingresses := s.ingresses.erase key }
  | .delete .virtualServer key => { s with virtualServers := s.virtualServers.erase key }
  | .delete .virtualServerRoute key =>
    { s with virtualServerRoutes := s.virtualServerRoutes.erase key }
  | .delete .transportServer key => { s with transportServers := s.transportServers.erase key }
  | .delete .globalConfiguration _ => { s with globalConfiguration := none }
  | .delete .policy key => { s with policies := s.policies.erase key }
  | _ => s

/-- A table of one kind after an object of it is applied. -/
theorem map_get?_settleIn {α : Type} (a : Admission) (wrap : α → Object) (t : Table α)
    (key key' : String) (o : α) :
    ((Configuration.settleIn t key o (a.admits (wrap o))).get? key').map wrap =
      if key = key' then (some (wrap o)).filter a.admits else (t.get? key').map wrap := by
  unfold Configuration.settleIn
  cases h : a.admits (wrap o)
  · rw [if_neg Bool.false_ne_true, Table.get?_erase, Option.filter_some, h,
      apply_ite (Option.map wrap)]
    rfl
  · rw [if_pos rfl, Table.get?_insert, Option.filter_some, h, apply_ite (Option.map wrap)]
    rfl

/-- A table of one kind after an object of it is put, whether or not it is let in. -/
theorem map_get?_insert {α : Type} (wrap : α → Object) (t : Table α) (key key' : String) (o : α) :
    ((t.insert key o).get? key').map wrap =
      if key = key' then some (wrap o) else (t.get? key').map wrap := by
  rw [Table.get?_insert, apply_ite (Option.map wrap)]
  rfl

theorem map_get?_erase {α : Type} (wrap : α → Object) (t : Table α) (key key' : String) :
    ((t.erase key).get? key').map wrap = if key = key' then none else (t.get? key').map wrap := by
  rw [Table.get?_erase, apply_ite (Option.map wrap)]
  rfl

theorem find?_after_of_kind_ne (s : Store) (a : Admission) {e : Event} {place : Place}
    (h : e.kind ≠ place.1) : (s.after a e).find? place = s.find? place := by
  obtain ⟨kind, key⟩ := place
  rcases e with o | ⟨k, key'⟩
  · cases o <;> cases kind <;> first | rfl | exact absurd rfl h
  · cases k <;> cases kind <;> first | rfl | exact absurd rfl h

/-- What an event leaves at the place that it is about, if admission lets it in; everything else
stays. So an object that is not let in counts as deleted. -/
theorem find?_after (s : Store) (a : Admission) (e : Event) (place : Place) :
    (s.after a e).find? place =
      if e.place = place then e.object?.filter a.admits else s.find? place := by
  by_cases hkind : e.kind = place.1
  · obtain ⟨kind, key⟩ := place
    obtain rfl : e.kind = kind := hkind
    -- within a kind, the key tells the places apart
    have hplace : e.place = (e.kind, key) ↔ e.place.2 = key := by
      simp [Prod.ext_iff, e.fst_place]
    rw [if_congr hplace rfl rfl]
    rcases e with o | ⟨k, key'⟩
    · cases o with
      | ingress o => exact map_get?_settleIn a .ingress ..
      | virtualServer o => exact map_get?_settleIn a .virtualServer ..
      | virtualServerRoute o => exact map_get?_settleIn a .virtualServerRoute ..
      | transportServer o => exact map_get?_settleIn a .transportServer ..
      | policy o => exact map_get?_settleIn a .policy ..
      | globalConfiguration g =>
        show (if key = "" then Option.map _ (if _ then some g else none) else none) =
          if "" = key then _ else if key = "" then _ else none
        by_cases hkey : key = ""
        · rw [if_pos hkey, if_pos hkey.symm, Event.object?, Option.filter_some,
            apply_ite (Option.map Object.globalConfiguration)]
          rfl
        · rw [if_neg hkey, if_neg (Ne.symm hkey), if_neg hkey]
      | _ => exact (ite_self none).symm
    · cases k with
      | ingress => exact map_get?_erase .ingress ..
      | virtualServer => exact map_get?_erase .virtualServer ..
      | virtualServerRoute => exact map_get?_erase .virtualServerRoute ..
      | transportServer => exact map_get?_erase .transportServer ..
      | policy => exact map_get?_erase .policy ..
      | globalConfiguration =>
        show (if key = "" then none else none) =
          if "" = key then none else if key = "" then _ else none
        by_cases hkey : key = ""
        · rw [if_pos hkey, if_pos hkey.symm]
        · rw [if_neg hkey, if_neg (Ne.symm hkey), if_neg hkey]
      | _ => exact (ite_self none).symm
  · have hplace : e.place ≠ place := fun h => hkind (h ▸ e.fst_place.symm)
    rw [find?_after_of_kind_ne s a hkind, if_neg hplace]

/-- Stores with the same objects at every place are the same. Stores are compared by this, and never
table by table. -/
theorem ext_find? {s t : Store} (h : ∀ place, s.find? place = t.find? place) : s = t := by
  -- Each table is seen through a constructor of its own, and constructors are injective.
  have htable : ∀ {α : Type} {wrap : α → Object} {as bs : Table α}, Function.Injective wrap →
      (∀ key, (as.get? key).map wrap = (bs.get? key).map wrap) → as = bs := fun hwrap heq =>
    Table.ext_get? fun key => Option.map_injective hwrap (heq key)
  obtain ⟨i, vs, vsr, ts, p, g⟩ := s
  obtain ⟨i', vs', vsr', ts', p', g'⟩ := t
  have hi : i = i' := htable (fun _ _ => Object.ingress.inj) fun key => h (.ingress, key)
  have hvs : vs = vs' :=
    htable (fun _ _ => Object.virtualServer.inj) fun key => h (.virtualServer, key)
  have hvsr : vsr = vsr' :=
    htable (fun _ _ => Object.virtualServerRoute.inj) fun key => h (.virtualServerRoute, key)
  have hts : ts = ts' :=
    htable (fun _ _ => Object.transportServer.inj) fun key => h (.transportServer, key)
  have hp : p = p' := htable (fun _ _ => Object.policy.inj) fun key => h (.policy, key)
  have hg : g = g' := Option.map_injective (fun _ _ => Object.globalConfiguration.inj)
    (h (.globalConfiguration, ""))
  rw [hi, hvs, hvsr, hts, hp, hg]

end Store

/-! ## 3. Steps -/

namespace Configuration

/-- The configuration after an event, and its answer. Kinds that it does not keep pass it by. -/
def step (c : Configuration) : Event → Configuration × Report Resource
  | .apply (.ingress i) => c.applyIngress i
  | .apply (.virtualServer vs) => c.applyVirtualServer vs
  | .apply (.virtualServerRoute vsr) => c.applyVirtualServerRoute vsr
  | .apply (.transportServer ts) => c.applyTransportServer ts
  | .apply (.globalConfiguration g) =>
    let (next, report, _) := c.applyGlobalConfiguration g
    (next, report)
  | .apply (.policy p) => (c.applyPolicy p, .empty)
  | .delete .ingress key => c.deleteIngress key
  | .delete .virtualServer key => c.deleteVirtualServer key
  | .delete .virtualServerRoute key => c.deleteVirtualServerRoute key
  | .delete .transportServer key => c.deleteTransportServer key
  | .delete .globalConfiguration _ => c.deleteGlobalConfiguration
  | .delete .policy key => (c.deletePolicy key, .empty)
  | _ => (c, .empty)

/-- What is decided anew for an object of a kind. Policies have nothing decided anew, and other
kinds are not kept. -/
def rebuild : Kind → Configuration → Configuration × Report Resource
  | .ingress | .virtualServer | .virtualServerRoute => rebuildHosts
  | .transportServer => rebuildBoth
  | .globalConfiguration => rebuildListeners
  | _ => fun c => (c, .empty)

/-- Putting an error on changes leaves them as they are otherwise. -/
theorem map_bare_blame (key error : String) (changes : List ResourceChange) :
    (blame key error changes).map Change.bare = changes.map Change.bare := by
  induction changes with
  | nil => rfl
  | cons c cs ih =>
    unfold blame
    split
    · rfl
    · rw [List.map_cons, ih, List.map_cons]

/-- So does rejecting an object. -/
theorem map_bare_reject (o : Object) (error message : String) (r : Report Resource) :
    (reject o error message r).changes.map Change.bare = r.changes.map Change.bare := by
  simp only [reject]
  split
  · exact map_bare_blame _ _ _
  · rfl

/-- Letting go of an object that is there has something decided anew; otherwise nothing happens. In
the second case the store without it is the store. -/
theorem letGo_spec {α : Type} (c : Configuration) (t : Table α) (key : String) (without : Store)
    (f : Configuration → Configuration × Report Resource)
    (habsent : t.get? key = none → without = c.store) :
    ((c.letGo (t.contains key) without f).1 = (f (c.withStore without)).1 ∧
      (c.letGo (t.contains key) without f).2.changes.map Change.bare =
        (f (c.withStore without)).2.changes.map Change.bare) ∨
    (c.letGo (t.contains key) without f = (c, .empty) ∧ without = c.store) := by
  unfold letGo
  -- the object is there, or letting it go changes nothing
  by_cases hin : t.contains key
  · rw [if_pos hin]
    exact .inl ⟨rfl, rfl⟩
  · rw [if_neg hin]
    exact .inr ⟨rfl, habsent (by simpa [Table.contains] using hin)⟩

/-- An event edits the store and has something decided anew, up to errors that are put on changes;
or it is the deletion of an object that is not there. This says all that a step can do, and the
modules that follow do not open it again. -/
theorem step_spec (c : Configuration) (e : Event) :
    ((c.step e).1 = (rebuild e.kind (c.withStore (c.store.after c.admission e))).1 ∧
      (c.step e).2.changes.map Change.bare =
        (rebuild e.kind (c.withStore (c.store.after c.admission e))).2.changes.map Change.bare) ∨
    (c.step e = (c, .empty) ∧ c.store.after c.admission e = c.store) := by
  -- An application rebuilds always; a deletion of what is not stored does nothing.
  rcases e with o | ⟨kind, key⟩
  · left
    cases o with
    | ingress i =>
      simp only [step, applyIngress]
      split
      · exact ⟨rfl, map_bare_reject ..⟩
      · exact ⟨rfl, rfl⟩
    | virtualServer vs =>
      simp only [step, applyVirtualServer]
      split
      · exact ⟨rfl, map_bare_reject ..⟩
      · exact ⟨rfl, rfl⟩
    | virtualServerRoute vsr =>
      simp only [step, applyVirtualServerRoute]
      split <;> exact ⟨rfl, rfl⟩
    | transportServer ts =>
      simp only [step, applyTransportServer]
      split
      · exact ⟨rfl, map_bare_reject ..⟩
      · exact ⟨rfl, rfl⟩
    | _ => exact ⟨rfl, rfl⟩
  · cases kind with
    | ingress => exact letGo_spec c _ _ _ _ fun h => by rw [Table.erase_of_get?_eq_none h]
    | virtualServer => exact letGo_spec c _ _ _ _ fun h => by rw [Table.erase_of_get?_eq_none h]
    | virtualServerRoute =>
      exact letGo_spec c _ _ _ _ fun h => by rw [Table.erase_of_get?_eq_none h]
    | transportServer => exact letGo_spec c _ _ _ _ fun h => by rw [Table.erase_of_get?_eq_none h]
    | _ => exact .inl ⟨rfl, rfl⟩

/-- What is decided anew does not touch the objects or the rules, so a run can be followed in its
store alone. -/
theorem rebuild_keeps (kind : Kind) (c : Configuration) :
    (rebuild kind c).1.store = c.store ∧ (rebuild kind c).1.admission = c.admission ∧
      (rebuild kind c).1.passthrough = c.passthrough := by
  have hboth : c.rebuildBoth.1.store = c.store ∧ c.rebuildBoth.1.admission = c.admission ∧
      c.rebuildBoth.1.passthrough = c.passthrough := by
    simp only [rebuildBoth]
    split <;> exact ⟨rfl, rfl, rfl⟩
  cases kind <;> first | exact hboth | exact ⟨rfl, rfl, rfl⟩

theorem store_step (c : Configuration) (e : Event) :
    (c.step e).1.store = c.store.after c.admission e := by
  rcases step_spec c e with ⟨h, -⟩ | ⟨h, hstore⟩
  · rw [h, (rebuild_keeps _ _).1]
    rfl
  · rw [h, hstore]

theorem admission_step (c : Configuration) (e : Event) : (c.step e).1.admission = c.admission := by
  rcases step_spec c e with ⟨h, -⟩ | ⟨h, -⟩
  · rw [h, (rebuild_keeps _ _).2.1]
    rfl
  · rw [h]

theorem passthrough_step (c : Configuration) (e : Event) :
    (c.step e).1.passthrough = c.passthrough := by
  rcases step_spec c e with ⟨h, -⟩ | ⟨h, -⟩
  · rw [h, (rebuild_keeps _ _).2.2]
    rfl
  · rw [h]

/-! ## 4. Runs -/

/-- The configuration after some events. What is answered on the way is left to `told`. -/
def run (c : Configuration) (events : List Event) : Configuration :=
  events.foldl (fun c e => (c.step e).1) c

/-- All changes that the configuration answers some events with, in their order. -/
def told (c : Configuration) : List Event → List ResourceChange
  | [] => []
  | e :: events => (c.step e).2.changes ++ (c.step e).1.told events

/-- Runs are followed from the left, so the last event of a run is a step of what the others came
to. -/
theorem run_append (c : Configuration) (events : List Event) (e : Event) :
    c.run (events ++ [e]) = ((c.run events).step e).1 := by
  simp [run]

/-- So what is told last is what that step answers. -/
theorem told_append (c : Configuration) (events : List Event) (e : Event) :
    c.told (events ++ [e]) = c.told events ++ ((c.run events).step e).2.changes := by
  induction events generalizing c with
  | nil => simp [told, run]
  | cons e' events ih =>
    rw [List.cons_append, told, ih, told, List.append_assoc]
    rfl

section Run

variable {f : Features} {a : Admission} {events : List Event}

theorem admission_run : ((fresh f a).run events).admission = a := by
  induction events using List.reverseRecOn with
  | nil => rfl
  | append_singleton events e ih => rw [run_append, admission_step, ih]

theorem passthrough_run : ((fresh f a).run events).passthrough = f.tlsPassthroughEnabled := by
  induction events using List.reverseRecOn with
  | nil => rfl
  | append_singleton events e ih => rw [run_append, passthrough_step, ih]

/-- The store has what was applied last, where that was let in. The induction is on the events, by
what one event leaves. -/
theorem find?_run (place : Place) :
    ((fresh f a).run events).store.find? place = (latest place events).filter a.admits := by
  induction events using List.reverseRecOn with
  | nil =>
    obtain ⟨kind, key⟩ := place
    cases kind <;> first | rfl | exact ite_self none
  | append_singleton events e ih =>
    -- both sides change at the place of the last event only
    rw [run_append, store_step, Store.find?_after, admission_run, latest_append, ih,
      apply_ite (Option.filter a.admits)]

/-- Runs that leave the same objects leave the same store, in whatever order and however often they
were applied. -/
theorem store_run_congr {g : Features} {others : List Event}
    (h : ∀ place, latest place events = latest place others) :
    ((fresh f a).run events).store = ((fresh g a).run others).store :=
  Store.ext_find? fun place => by rw [find?_run, find?_run, h place]

/-- What is at a place was applied there last, belongs there, and was let in. -/
theorem of_find?_run (place : Place) (o : Object)
    (h : ((fresh f a).run events).store.find? place = some o) :
    latest place events = some o ∧ placeOf o.kind o.metadata.key = place ∧ a.admits o = true := by
  rw [find?_run, Option.filter_eq_some_iff] at h
  exact ⟨h.1, place_of_latest h.1, h.2⟩

/-- Every object of the store lies under its own key and was let in. From here on a run is forgotten
wherever only its store matters. -/
theorem admitted_run : ((fresh f a).run events).store.Admitted a where
  ingress key i hi := by
    -- What is found after a run was applied under its own place and admitted then; so for each
    -- kind.
    obtain ⟨-, hplace, hadmits⟩ :=
      of_find?_run (.ingress, key) (.ingress i) (congrArg (Option.map Object.ingress) hi)
    exact ⟨congrArg Prod.snd hplace, by simpa [Admission.admits] using hadmits⟩
  virtualServer key vs hvs := by
    obtain ⟨-, hplace, hadmits⟩ :=
      of_find?_run (.virtualServer, key) (.virtualServer vs)
        (congrArg (Option.map Object.virtualServer) hvs)
    exact ⟨congrArg Prod.snd hplace, by simpa [Admission.admits] using hadmits⟩
  virtualServerRoute key vsr hvsr := by
    obtain ⟨-, hplace, hadmits⟩ :=
      of_find?_run (.virtualServerRoute, key) (.virtualServerRoute vsr)
        (congrArg (Option.map Object.virtualServerRoute) hvsr)
    exact ⟨congrArg Prod.snd hplace, by simpa [Admission.admits] using hadmits⟩
  transportServer key ts hts := by
    obtain ⟨-, hplace, hadmits⟩ :=
      of_find?_run (.transportServer, key) (.transportServer ts)
        (congrArg (Option.map Object.transportServer) hts)
    exact ⟨congrArg Prod.snd hplace, by simpa [Admission.admits] using hadmits⟩
  policy key p hp := by
    obtain ⟨-, hplace, hadmits⟩ :=
      of_find?_run (.policy, key) (.policy p) (congrArg (Option.map Object.policy) hp)
    exact ⟨congrArg Prod.snd hplace, hadmits⟩
  globalConfiguration g hg := by
    obtain ⟨-, -, hadmits⟩ :=
      of_find?_run (.globalConfiguration, "") (.globalConfiguration g)
        (congrArg (Option.map Object.globalConfiguration) hg)
    simpa [Admission.admits] using hadmits

end Run

end Configuration

end Gatehouse
