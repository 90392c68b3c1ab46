import Gatehouse.Plan.Holders
import Gatehouse.Proofs.Plan.Listeners

/-!
Holders: the assignment of slots to resources that the plans of a store come to.

`Holding` collects what the rest of the theory uses of it. A resource has the slots that it says it
serves, no more and no fewer, and its key tells which resource it is. So an assignment can be read
from either side, by asking a slot for its resource or a resource for its slots, and the resources
that are served can be kept under their keys. `Store.holding` says that the plans of a sound store
make such an assignment.
-/

set_option autoImplicit false

namespace Gatehouse

/-! ## 1. Assignments -/

/-- An assignment of slots to resources. -/
abbrev Holders := Slot → Option Resource

/-- The assignment that two tables make. The tables are about different slots, so nothing is
assigned twice. -/
def holdersOf (hosts : Table Resource) (listeners : Table TransportServerResource) : Holders
  | .host h => hosts.get? h
  | .listener n => (asResources listeners).get? n

/-- What a resource has and what it says it serves are the same, and its key tells which it is. It
is a property of the assignment, whatever plans or events it comes from. -/
structure Holding (holders : Holders) : Prop where
  /-- A resource says that it serves the slots that it has. -/
  serves : ∀ slot r, holders slot = some r → r.serves slot = true
  /-- A resource that has a slot has all that it says it serves. -/
  holds : ∀ slot r, holders slot = some r →
    ∀ other, r.serves other = true → holders other = some r
  /-- Resources that have slots and share a key are the same. -/
  unique : ∀ slot r other q, holders slot = some r → holders other = some q → r.key = q.key → r = q

/-- The resource under the key has a slot. It is said of the key and not of a version, since that is
what a removal takes away. -/
def Served (holders : Holders) (key : String) : Prop :=
  ∃ slot r, holders slot = some r ∧ r.key = key

/-- A resource that has not changed has lost nothing: what it had before it has still. This is why
nothing need be told of an equivalent resource. -/
theorem Holding.kept {earlier now : Holders} (he : Holding earlier) (hn : Holding now)
    {slot : Slot} {q r : Resource} (hq : earlier slot = some q) (hr : now slot = some r)
    (hsame : q.equivalent r = true) {other : Slot} (hother : earlier other = some q) :
    now other = some r := by
  have hserves := Resource.serves_congr hsame (he.serves slot q hq) (hn.serves slot r hr) other
  exact hn.holds slot r hr other (hserves ▸ he.serves other q hother)

/-! ## 2. The assignment of a store -/

/-- A listener has a transport server, as a resource, or nothing. -/
theorem holdersOf_listener_iff {hosts : Table Resource}
    {listeners : Table TransportServerResource} {n : String} {r : Resource} :
    holdersOf hosts listeners (.listener n) = some r ↔
      ∃ t, listeners.get? n = some t ∧ r = .transportServer t := by
  show (listeners.map Resource.transportServer).get? n = some r ↔ _
  rw [Table.get?_map, Option.map_eq_some_iff]
  simp only [eq_comm]

/-- The assignment that a store comes to. -/
def Store.holders (a : Admission) (passthrough : Bool) (s : Store) : Holders :=
  holdersOf (hostPlan a passthrough s).hosts (listenerPlan s).listeners

/-- The plans of a sound store make such an assignment. For one side it is known from its plan, and
no resource is in both. -/
theorem Store.holding {a : Admission} {passthrough : Bool} {s : Store} (hs : s.Sound) :
    Holding (s.holders a passthrough) where
  serves slot r hr := by
    rcases slot with h | n
    · exact serves_of_hosts hr
    · obtain ⟨t, ht, rfl⟩ := holdersOf_listener_iff.1 hr
      exact (serves_iff_of_listeners hs ht).2 rfl
  holds slot r hr other hserves := by
    rcases slot with h | n
    · obtain ⟨g, rfl, hg⟩ := hosts_of_serves hr hserves
      exact hg
    · obtain ⟨t, ht, rfl⟩ := holdersOf_listener_iff.1 hr
      rw [(serves_iff_of_listeners hs ht).1 hserves]
      exact hr
  unique slot r other q hr hq hkey := by
    -- Two hosts, or two listeners, are held by resources of their own plan; a host and a listener
    -- never under one key.
    rcases slot with h | n <;> rcases other with g | m
    · exact eq_of_key_eq hs (mem_resources_of_hosts hr) (mem_resources_of_hosts hq) hkey
    · obtain ⟨u, hu, rfl⟩ := holdersOf_listener_iff.1 hq
      exact absurd hkey
        (key_ne_of_servers hs (mem_resources_of_hosts hr) (mem_servers_of_listeners hu))
    · obtain ⟨t, ht, rfl⟩ := holdersOf_listener_iff.1 hr
      exact absurd hkey.symm
        (key_ne_of_servers hs (mem_resources_of_hosts hq) (mem_servers_of_listeners ht))
    · obtain ⟨t, ht, rfl⟩ := holdersOf_listener_iff.1 hr
      obtain ⟨u, hu, rfl⟩ := holdersOf_listener_iff.1 hq
      rw [server_eq_of_key_eq hs (mem_servers_of_listeners ht) (mem_servers_of_listeners hu) hkey]

/-! ## 3. What is served -/

section Served

variable {hosts : Table Resource} {listeners : Table TransportServerResource}

/-- What has a slot, in the order of the two tables. A resource is listed as often as it has
slots. -/
theorem mem_listed_iff {r : Resource} :
    r ∈ (hosts.values.filter ResourceFilter.all.accepts) ++ (asResources listeners).values ↔
      ∃ slot, holdersOf hosts listeners slot = some r := by
  have hall : ResourceFilter.all.accepts r = true := by cases r <;> rfl
  simp only [List.mem_append, List.mem_filter, hall, and_true, Table.mem_values_iff,
    Slot.exists_iff]
  rfl

/-- Without a filter, what is served is that list under its keys. -/
theorem servedBy_all : servedBy hosts listeners .all =
    Table.ofList (((hosts.values.filter ResourceFilter.all.accepts) ++
      (asResources listeners).values).map fun r => (r.key, r)) := rfl

/-- What is under a key has a slot, and has that key. -/
theorem of_get?_servedBy {key : String} {r : Resource}
    (h : (servedBy hosts listeners .all).get? key = some r) :
    (∃ slot, holdersOf hosts listeners slot = some r) ∧ r.key = key := by
  rw [servedBy_all] at h
  obtain ⟨q, hq, heq⟩ := List.mem_map.1 (Table.mem_of_get?_ofList h)
  obtain ⟨rfl, rfl⟩ := Prod.mk.inj heq
  exact ⟨mem_listed_iff.1 hq, rfl⟩

/-- A resource with the key is served exactly when one has a slot. This much needs nothing of the
assignment. -/
theorem exists_mem_servedBy_iff {key : String} :
    (∃ r ∈ (servedBy hosts listeners .all).values, r.key = key) ↔
      Served (holdersOf hosts listeners) key := by
  constructor
  · rintro ⟨r, hr, rfl⟩
    obtain ⟨other, hget⟩ := Table.mem_values_iff.1 hr
    obtain ⟨⟨slot, hslot⟩, -⟩ := of_get?_servedBy hget
    exact ⟨slot, r, hslot, rfl⟩
  · rintro ⟨slot, r, hr, rfl⟩
    have hlisted : (r.key, r) ∈ ((hosts.values.filter ResourceFilter.all.accepts) ++
        (asResources listeners).values).map fun r => (r.key, r) :=
      List.mem_map.2 ⟨r, mem_listed_iff.2 ⟨slot, hr⟩, rfl⟩
    -- of several with the key, one is kept
    obtain ⟨q, hq⟩ := Table.exists_get?_ofList hlisted
    rw [← servedBy_all] at hq
    exact ⟨q, Table.mem_values_iff.2 ⟨_, hq⟩, (of_get?_servedBy hq).2⟩

/-- What is served is what has a slot, under its key. Without `Holding` a key could have several
resources, of which the table would keep one. -/
theorem get?_servedBy_iff (hold : Holding (holdersOf hosts listeners)) {key : String}
    {r : Resource} :
    (servedBy hosts listeners .all).get? key = some r ↔
      (∃ slot, holdersOf hosts listeners slot = some r) ∧ r.key = key := by
  refine ⟨of_get?_servedBy, ?_⟩
  rintro ⟨⟨slot, hr⟩, rfl⟩
  rw [servedBy_all]
  refine Table.get?_ofList_of_mem
    (List.mem_map.2 ⟨r, mem_listed_iff.2 ⟨slot, hr⟩, rfl⟩) fun q hq => ?_
  obtain ⟨q', hq', heq⟩ := List.mem_map.1 hq
  obtain ⟨hkey, rfl⟩ := Prod.mk.inj heq
  obtain ⟨other, hother⟩ := mem_listed_iff.1 hq'
  exact hold.unique other q' slot r hother hr hkey

end Served

end Gatehouse
