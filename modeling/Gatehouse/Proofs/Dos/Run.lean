import Gatehouse.Dos
import Gatehouse.Proofs.Configuration.Run

/-!
Runs of a DoS store.

An event edits the store, and then every protected resource that names the object of the event is
evaluated again, which stores it once more. That this leaves the store as the edit has made it
(`fst_cascade`) is due to what is `Kept`: an entry is what its object is stored as, and it lies under
the key of the object, so to store it again is to put what is there already. The store after any
events is then that of the objects that were applied last (`find?_run`).
-/

set_option autoImplicit false

namespace Gatehouse.Dos

/-! ## 1. Evaluating what is stored -/

/-- Every entry is what its object is stored as, and protected resources lie under their own keys.
The keys of the others need not be known, as only protected resources are stored again. -/
structure Kept (d : Dos) : Prop where
  policy : ∀ key entry, d.policies.get? key = some entry → entry = .ofPolicy entry.object
  logConf : ∀ key entry, d.logConfs.get? key = some entry → entry = .ofLogConf entry.object
  protectedResource : ∀ key entry, d.protectedResources.get? key = some entry →
    entry = .ofProtected entry.object
  protected_key : ∀ key entry, d.protectedResources.get? key = some entry →
    entry.object.metadata.key = key

section Evaluation

variable {d : Dos}

/-- A stored protected resource is evaluated without a trace. What is put is the entry that is
there. -/
theorem evaluate_of_stored (hkept : d.Kept) {key : String} {entry : DosEntry DosProtected}
    (h : d.protectedResources.get? key = some entry) :
    d.evaluate entry.object = (d, d.judge entry) := by
  have hput : d.protectedResources.insert entry.object.metadata.key (.ofProtected entry.object) =
      d.protectedResources := by
    rw [← hkept.protectedResource key entry h, hkept.protected_key key entry h]
    exact Table.insert_of_get? h
  rw [evaluate, hput, ← hkept.protectedResource key entry h]

/-- Those that name an object are the stored ones with its key as their reference. -/
theorem mem_referring_iff {part : DosPart} {key : String} {p : DosProtected} :
    p ∈ d.referring part key ↔
      (∃ key' entry, d.protectedResources.get? key' = some entry ∧ entry.object = p) ∧
        part.key? p = some key := by
  simp only [referring, List.mem_filter, List.mem_map, Table.mem_values_iff, beq_iff_eq]
  refine and_congr_left fun _ => ?_
  constructor
  · rintro ⟨entry, ⟨key', hget⟩, rfl⟩
    exact ⟨key', entry, hget, rfl⟩
  · rintro ⟨key', entry, hget, rfl⟩
    exact ⟨entry, ⟨key', hget⟩, rfl⟩

/-- Evaluating stored protected resources leaves the store as it is, and each of them is judged by
it. -/
theorem evaluateAll_of_stored (hkept : d.Kept) {ps : List DosProtected}
    (h : ∀ p ∈ ps, ∃ key entry, d.protectedResources.get? key = some entry ∧ entry.object = p) :
    (d.evaluateAll ps).1 = d ∧ (d.evaluateAll ps).2.changes =
      ps.flatMap fun p => (d.judge (.ofProtected p)).changes := by
  induction ps with
  | nil => exact ⟨rfl, rfl⟩
  | cons p ps ih =>
    obtain ⟨key, entry, hget, rfl⟩ := h p List.mem_cons_self
    obtain ⟨hstore, hchanges⟩ := ih fun q hq => h q (List.mem_cons_of_mem _ hq)
    rw [evaluateAll, evaluate_of_stored hkept hget]
    refine ⟨hstore, ?_⟩
    show (d.judge entry).changes ++ (d.evaluateAll ps).2.changes = _
    rw [hchanges, List.flatMap_cons, ← hkept.protectedResource key entry hget]

/-- A cascade leaves the store as it is. Of a cascade there is only its report to be looked at,
then. -/
theorem fst_cascade (hkept : d.Kept) (part : DosPart) (key : String) (own : Report DosResource) :
    (d.cascade part key own).1 = d :=
  (evaluateAll_of_stored hkept fun _ hp => (mem_referring_iff.1 hp).1).1

/-- A cascade reports how the protected resources that name the object are judged. -/
theorem changes_cascade (hkept : d.Kept) (part : DosPart) (key : String)
    (own : Report DosResource) :
    (d.cascade part key own).2.changes = own.changes ++
      (d.referring part key).flatMap fun p => (d.judge (.ofProtected p)).changes :=
  congrArg (own.changes ++ ·)
    (evaluateAll_of_stored hkept fun _ hp => (mem_referring_iff.1 hp).1).2

end Evaluation

/-! ## 2. Steps -/

/-- The kinds of the objects. -/
def kinds : List Kind := [.dosPolicy, .dosLogConf, .dosProtected]

/-- The store after an event, and its answer. Kinds that it does not keep pass it by. -/
def step (d : Dos) : Event → Dos × Report DosResource
  | .apply (.dosPolicy p) => d.applyPolicy p
  | .apply (.dosLogConf l) => d.applyLogConf l
  | .apply (.dosProtected p) => d.applyProtected p
  | .delete .dosPolicy key => d.deletePolicy key
  | .delete .dosLogConf key => d.deleteLogConf key
  | .delete .dosProtected key => d.deleteProtected key
  | _ => (d, .empty)

/-- The store when an event has been received and nothing has been evaluated for it. -/
def after (d : Dos) : Event → Dos
  | .apply (.dosPolicy p) => { d with policies := d.policies.insert p.metadata.key (.ofPolicy p) }
  | .apply (.dosLogConf l) => { d with logConfs := d.logConfs.insert l.metadata.key (.ofLogConf l) }
  | .apply (.dosProtected p) =>
    { d with protectedResources := d.protectedResources.insert p.metadata.key (.ofProtected p) }
  | .delete .dosPolicy key => { d with policies := d.policies.erase key }
  | .delete .dosLogConf key => { d with logConfs := d.logConfs.erase key }
  | .delete .dosProtected key => { d with protectedResources := d.protectedResources.erase key }
  | _ => d

/-- What holds of an entry that is put, and of all that are there, holds of all afterwards. -/
theorem forall_get?_insert {α : Type} {P : String → α → Prop} {t : Table α} {key : String}
    {value : α} (hvalue : P key value) (h : ∀ key' v, t.get? key' = some v → P key' v) :
    ∀ key' v, (t.insert key value).get? key' = some v → P key' v := by
  intro key' v hv
  rw [Table.get?_insert] at hv
  split_ifs at hv with hkey
  · cases hv
    exact hkey ▸ hvalue
  · exact h key' v hv

theorem forall_get?_erase {α : Type} {P : String → α → Prop} {t : Table α} {key : String}
    (h : ∀ key' v, t.get? key' = some v → P key' v) :
    ∀ key' v, (t.erase key).get? key' = some v → P key' v := by
  intro key' v hv
  rw [Table.get?_erase] at hv
  split_ifs at hv
  exact h key' v hv

/-- An event keeps this: what it puts is what the object is stored as, under the key of the
object. -/
theorem kept_after {d : Dos} (hkept : d.Kept) (e : Event) : (d.after e).Kept := by
  rcases e with o | ⟨kind, key⟩
  · cases o with
    | dosPolicy p => exact { hkept with policy := forall_get?_insert rfl hkept.policy }
    | dosLogConf l => exact { hkept with logConf := forall_get?_insert rfl hkept.logConf }
    | dosProtected p =>
      exact { hkept with
        protectedResource := forall_get?_insert rfl hkept.protectedResource
        protected_key := forall_get?_insert rfl hkept.protected_key }
    | _ => exact hkept
  · cases kind with
    | dosPolicy => exact { hkept with policy := forall_get?_erase hkept.policy }
    | dosLogConf => exact { hkept with logConf := forall_get?_erase hkept.logConf }
    | dosProtected =>
      exact { hkept with
        protectedResource := forall_get?_erase hkept.protectedResource
        protected_key := forall_get?_erase hkept.protected_key }
    | _ => exact hkept

/-- The evaluations that an event leads to leave the store as the event has made it. So the store
can be followed without them. -/
theorem fst_step {d : Dos} (hkept : d.Kept) (e : Event) : (d.step e).1 = d.after e := by
  have hafter := kept_after hkept e
  rcases e with o | ⟨kind, key⟩
  · cases o with
    | dosPolicy p => exact fst_cascade hafter ..
    | dosLogConf l => exact fst_cascade hafter ..
    | _ => rfl
  · cases kind with
    | dosPolicy => exact fst_cascade hafter ..
    | dosLogConf => exact fst_cascade hafter ..
    | _ => rfl

/-! ## 3. Runs -/

/-- The object at a place. -/
def find? (d : Dos) : Place → Option Object
  | (.dosPolicy, key) => (d.policies.get? key).map (.dosPolicy ∘ DosEntry.object)
  | (.dosLogConf, key) => (d.logConfs.get? key).map (.dosLogConf ∘ DosEntry.object)
  | (.dosProtected, key) => (d.protectedResources.get? key).map (.dosProtected ∘ DosEntry.object)
  | _ => none

/-- An event decides about its own place, and leaves what there is at the others. -/
theorem find?_after (d : Dos) (e : Event) {place : Place} (hkind : place.1 ∈ kinds) :
    (d.after e).find? place = if e.place = place then e.object? else d.find? place := by
  obtain ⟨kind, key⟩ := place
  by_cases hsame : e.kind = kind
  · subst hsame
    -- within a kind, the key tells the places apart
    have hplace : e.place = (e.kind, key) ↔ e.place.2 = key := by
      simp [Prod.ext_iff, e.fst_place]
    rw [if_congr hplace rfl rfl]
    rcases e with o | ⟨k, key'⟩
    · cases o with
      | dosPolicy p => exact Store.map_get?_insert (.dosPolicy ∘ DosEntry.object) ..
      | dosLogConf l => exact Store.map_get?_insert (.dosLogConf ∘ DosEntry.object) ..
      | dosProtected p => exact Store.map_get?_insert (.dosProtected ∘ DosEntry.object) ..
      | _ => simp [kinds, Event.kind, Object.kind] at hkind
    · cases k with
      | dosPolicy => exact Store.map_get?_erase (.dosPolicy ∘ DosEntry.object) ..
      | dosLogConf => exact Store.map_get?_erase (.dosLogConf ∘ DosEntry.object) ..
      | dosProtected => exact Store.map_get?_erase (.dosProtected ∘ DosEntry.object) ..
      | _ => simp [kinds, Event.kind] at hkind
  · have hne : e.place ≠ (kind, key) := fun h => hsame (e.fst_place.symm.trans (congrArg Prod.fst h))
    rw [if_neg hne]
    rcases e with o | ⟨k, key'⟩
    · cases o <;> cases kind <;> first | rfl | exact absurd rfl hsame
    · cases k <;> cases kind <;> first | rfl | exact absurd rfl hsame

/-- The store after some events. -/
def run (d : Dos) (events : List Event) : Dos := events.foldl (fun d e => (d.step e).1) d

/-- All changes that the store answers some events with, in their order. -/
def told (d : Dos) : List Event → List (Change DosResource)
  | [] => []
  | e :: events => (d.step e).2.changes ++ (d.step e).1.told events

/-- The last event of a run is a step of the store that the others have made. -/
theorem run_append (d : Dos) (events : List Event) (e : Event) :
    d.run (events ++ [e]) = ((d.run events).step e).1 := by
  simp [run]

/-- And its answer is what is told last. -/
theorem told_append (d : Dos) (events : List Event) (e : Event) :
    d.told (events ++ [e]) = d.told events ++ ((d.run events).step e).2.changes := by
  induction events generalizing d with
  | nil => simp [told, run]
  | cons e' events ih =>
    rw [List.cons_append, told, ih, told, List.append_assoc]
    rfl

section Run

variable {isEnabled : Bool} {events : List Event}

theorem kept_fresh : (fresh isEnabled).Kept := by
  constructor <;> intro key entry h <;> simp [fresh] at h

/-- It is kept through any events, beginning with a store that has no entries. -/
theorem kept_run : ((fresh isEnabled).run events).Kept := by
  induction events using List.reverseRecOn with
  | nil => exact kept_fresh
  | append_singleton events e ih =>
    rw [run_append, fst_step ih]
    exact kept_after ih e

theorem isEnabled_after (d : Dos) (e : Event) : (d.after e).isEnabled = d.isEnabled := by
  rcases e with o | ⟨kind, key⟩
  · cases o <;> rfl
  · cases kind <;> rfl

theorem isEnabled_run : ((fresh isEnabled).run events).isEnabled = isEnabled := by
  induction events using List.reverseRecOn with
  | nil => rfl
  | append_singleton events e ih => rw [run_append, fst_step kept_run, isEnabled_after, ih]

/-- At a place there is what was applied there last. Unlike the store of a configuration, this one
keeps objects that are not valid. -/
theorem find?_run {place : Place} (hkind : place.1 ∈ kinds) :
    ((fresh isEnabled).run events).find? place = latest place events := by
  induction events using List.reverseRecOn with
  | nil =>
    obtain ⟨kind, key⟩ := place
    cases kind <;> rfl
  | append_singleton events e ih =>
    rw [run_append, fst_step kept_run, find?_after _ _ hkind, latest_append, ih]

end Run

end Gatehouse.Dos
