import Gatehouse.Proofs.Configuration.Copy
import Gatehouse.Proofs.Plan.Ownership
import Gatehouse.Proofs.Plan.Problems

/-!
The objects that a served resource is made of.

A resource has a main object and takes up others with it: a master its minions, a virtual server the
virtual server routes that it delegates to. None of them is made up or left over from before. After
any events they are all in the store (`find?_of_mem_parts`), so each of them was applied last under
its key and was let in by its own check (`takenOn_of_mem_parts`), whatever was served in between and
whatever the checks are.
-/

set_option autoImplicit false

namespace Gatehouse

/-- The objects that a resource is made of, the main one first. What is shown of all parts is shown
of main objects, minions and virtual server routes at once. -/
def Resource.parts : Resource → List Object
  | .ingress r => .ingress r.ingress :: r.minions.map fun m => .ingress m.ingress
  | .virtualServer r => .virtualServer r.server :: r.routes.map .virtualServerRoute
  | .transportServer r => [.transportServer r.server]

theorem Resource.object_mem_parts (r : Resource) : r.object ∈ r.parts := by
  cases r <;> exact List.mem_cons_self

/-! ## 1. Parts and the store -/

/-- The objects that a resource of the plan of the hosts is made of are in the store. So nothing
that was deleted can be a part of what is served. -/
theorem find?_of_mem_parts_of_hostPlan {a : Admission} {passthrough : Bool} {s : Store}
    {r : Resource} {o : Object} (hr : r ∈ (hostPlan a passthrough s).resources)
    (ho : o ∈ r.parts) : ∃ place, s.find? place = some o := by
  -- The plan builds each resource from stored objects: the main one, the minions and the routes.
  cases r with
  | ingress r =>
    obtain ⟨key, _, hi, -, rfl, -, hminions⟩ := exists_ingress hr
    rcases List.mem_cons.1 ho with rfl | ho
    · exact ⟨(.ingress, key), congrArg (Option.map Object.ingress) hi⟩
    · obtain ⟨m, hm, rfl⟩ := List.mem_map.1 ho
      rw [hminions] at hm
      obtain ⟨-, hminion, -⟩ := mem_minions_ingressResource_iff.1 ⟨m, hm, rfl⟩
      obtain ⟨⟨key', hkey'⟩, -⟩ := mem_minions_iff.1 hminion
      exact ⟨(.ingress, key'), congrArg (Option.map Object.ingress) hkey'⟩
  | virtualServer r =>
    obtain ⟨key, _, hvs, rfl, hroutes⟩ := exists_virtualServer hr
    rcases List.mem_cons.1 ho with rfl | ho
    · exact ⟨(.virtualServer, key), congrArg (Option.map Object.virtualServer) hvs⟩
    · obtain ⟨vsr, hvsr, rfl⟩ := List.mem_map.1 ho
      rw [hroutes] at hvsr
      obtain ⟨⟨key', hkey'⟩, -⟩ := of_mem_routes hvsr
      exact ⟨(.virtualServerRoute, key'), congrArg (Option.map Object.virtualServerRoute) hkey'⟩
  | transportServer t =>
    obtain ⟨key, ht, -⟩ := of_transportServer_mem_resources hr
    rw [List.mem_singleton.1 ho]
    exact ⟨(.transportServer, key), congrArg (Option.map Object.transportServer) ht⟩

namespace Configuration

section Settled

variable {c : Configuration} {slot : Slot} {r : Resource} {o : Object}

/-- The objects that served resources are made of are in the store. -/
theorem find?_of_mem_parts (hc : c.Settled) (hr : c.holders slot = some r) (ho : o ∈ r.parts) :
    ∃ place, c.store.find? place = some o := by
  rw [holders_of_settled hc] at hr
  rcases slot with h | n
  · exact find?_of_mem_parts_of_hostPlan (mem_resources_of_hosts hr) ho
  · obtain ⟨t, ht, rfl⟩ := holdersOf_listener_iff.1 hr
    obtain ⟨⟨key, hkey⟩, -⟩ := stored_of_mem_servers (mem_servers_of_listeners ht)
    rw [List.mem_singleton.1 ho]
    exact ⟨(.transportServer, key), congrArg (Option.map Object.transportServer) hkey⟩

/-- What is served has a host, unless it is a transport server. -/
theorem exists_host_of_mem_resources (hc : c.Settled) (hr : r ∈ c.resources)
    (hnot : ∀ t, r ≠ .transportServer t) :
    ∃ h, (hostPlan c.admission c.passthrough c.store).hosts.get? h = some r := by
  obtain ⟨slot, hslot⟩ := exists_holder_of_mem_resources hr
  rw [holders_of_settled hc] at hslot
  rcases slot with h | n
  · exact ⟨h, hslot⟩
  · obtain ⟨t, -, rfl⟩ := holdersOf_listener_iff.1 hslot
    exact absurd rfl (hnot t)

end Settled

/-! ## 2. Parts and events -/

/-- The object is the one that was applied last under its kind and key, it was not deleted since,
and it was let in. -/
structure TakenOn (a : Admission) (events : List Event) (o : Object) : Prop where
  applied : latest (placeOf o.kind o.metadata.key) events = some o
  admitted : a.admits o = true

section Run

variable {f : Features} {a : Admission} {events : List Event} {r : Resource} {o : Object}

/-- What is taken on is what the store has in its place. -/
theorem takenOn_iff : TakenOn a events o ↔
    ((fresh f a).run events).store.find? (placeOf o.kind o.metadata.key) = some o := by
  rw [find?_run, Option.filter_eq_some_iff]
  exact ⟨fun h => ⟨h.applied, h.admitted⟩, fun h => ⟨h.1, h.2⟩⟩

/-- It lies there wherever it is found, because objects lie in their own places. -/
theorem takenOn_of_find? {place : Place}
    (h : ((fresh f a).run events).store.find? place = some o) : TakenOn a events o := by
  obtain ⟨hlatest, rfl, hadmits⟩ := of_find?_run place o h
  exact ⟨hlatest, hadmits⟩

/-- After any events, what served resources are made of is taken on. The checks are not looked into
for this. -/
theorem takenOn_of_mem_parts (hr : r ∈ ((fresh f a).run events).resources) (ho : o ∈ r.parts) :
    TakenOn a events o := by
  obtain ⟨slot, hslot⟩ := exists_holder_of_mem_resources hr
  obtain ⟨place, hplace⟩ := find?_of_mem_parts settled_run hslot ho
  exact takenOn_of_find? hplace

end Run

end Configuration

end Gatehouse
