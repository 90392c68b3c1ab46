import Gatehouse.Plan.Hosts
import Gatehouse.Proofs.Contest
import Gatehouse.Proofs.Store
import Mathlib.Data.List.Nodup

/-!
The plan of the hosts: the table of hosts and the resources tell the same.

A resource of the plan has a number, and `hosts_get?_iff` says that a host has the resource whose
number holds it in the contest. The two directions between the table and the resources are
`serves_of_hosts` (a resource that has a host says so) and `hosts_of_serves` (what a resource that
is in the table says it serves, it has). Numbers do not show outside: the keys of the resources
differ (`nodup_keys_resources`), so a resource of the plan can be named by its key.
-/

set_option autoImplicit false

namespace Gatehouse

/-! ## 1. The claimants -/

/-- Who claims a host: an ingress that is not a minion, a virtual server, and with passthrough a
transport server on the built-in listener. The routes and minions that are merged into the first two
claim nothing themselves. -/
inductive Claimant (a : Admission) (passthrough : Bool) (s : Store) : Resource → Prop
  | ingress (key : String) (i : Ingress) (h : s.ingresses.get? key = some i)
      (hmain : i.isMinion = false) : Claimant a passthrough s (.ingress (ingressResource s i))
  | virtualServer (key : String) (vs : VirtualServer) (h : s.virtualServers.get? key = some vs) :
      Claimant a passthrough s (.virtualServer (virtualServerResource a s vs))
  | transportServer (key : String) (ts : TransportServer)
      (h : s.transportServers.get? key = some ts) (hpass : ts.spec.listener.isPassthrough = true)
      (hon : passthrough = true) : Claimant a passthrough s (.transportServer ⟨ts, 0, []⟩)

/-- The claimants of a plan are these and no others. They are described by the objects that they are
built from, so that the store can be asked about them. -/
theorem mem_hostClaimants_iff {a : Admission} {passthrough : Bool} {s : Store} {r : Resource} :
    r ∈ hostClaimants a passthrough s ↔ Claimant a passthrough s r := by
  simp only [hostClaimants, List.mem_append, List.mem_map, Store.mainIngresses,
    Store.passthroughServers]
  constructor
  · rintro ((⟨i, hi, rfl⟩ | ⟨vs, hvs, rfl⟩) | hr)
    · obtain ⟨hmem, hmain⟩ := List.mem_filter.1 hi
      obtain ⟨key, hkey⟩ := Table.mem_values_iff.1 hmem
      exact .ingress key i hkey (by simpa using hmain)
    · obtain ⟨key, hkey⟩ := Table.mem_values_iff.1 hvs
      exact .virtualServer key vs hkey
    · -- TransportServers with TLS passthrough stand in the contest for hosts only if it is on.
      by_cases hon : passthrough
      · rw [if_pos hon] at hr
        obtain ⟨ts, hts, rfl⟩ := List.mem_map.1 hr
        obtain ⟨hmem, hpass⟩ := List.mem_filter.1 hts
        obtain ⟨key, hkey⟩ := Table.mem_values_iff.1 hmem
        exact .transportServer key ts hkey hpass hon
      · simp [if_neg hon] at hr
  · rintro (⟨key, i, h, hmain⟩ | ⟨key, vs, h⟩ | ⟨key, ts, h, hpass, hon⟩)
    · exact .inl (.inl ⟨i, List.mem_filter.2 ⟨Table.mem_values_iff.2 ⟨key, h⟩, by simp [hmain]⟩,
        rfl⟩)
    · exact .inl (.inr ⟨vs, Table.mem_values_iff.2 ⟨key, h⟩, rfl⟩)
    · right
      rw [if_pos hon]
      exact List.mem_map.2 ⟨ts, List.mem_filter.2 ⟨Table.mem_values_iff.2 ⟨key, h⟩, hpass⟩, rfl⟩

@[simp] theorem ingressResource_ingress (s : Store) (i : Ingress) :
    (ingressResource s i).ingress = i := by
  unfold ingressResource
  split <;> rfl

@[simp] theorem ingressResource_isMaster (s : Store) (i : Ingress) :
    (ingressResource s i).isMaster = i.isMaster := by
  unfold ingressResource
  by_cases h : i.isMaster <;> simp [h, masterResource, Resource.plainIngress]

/-- Keys of resources of different kinds differ in what stands before the first slash, so lists of
different kinds can be put together. -/
theorem nodup_keys_append {xs ys : List Resource} (hxs : (xs.map Resource.key).Nodup)
    (hys : (ys.map Resource.key).Nodup) (hne : ∀ r ∈ xs, ∀ q ∈ ys, r.kind ≠ q.kind) :
    ((xs ++ ys).map Resource.key).Nodup := by
  rw [List.map_append]
  refine List.nodup_append.2 ⟨hxs, hys, fun k hk l hl heq => ?_⟩
  obtain ⟨r, hr, rfl⟩ := List.mem_map.1 hk
  obtain ⟨q, hq, rfl⟩ := List.mem_map.1 hl
  exact hne r hr q hq (Kind.joinKey_inj heq).1

/-- The claimants of different kinds have different keys, and so have those of one kind. It needs a
sound store, in which every object lies under its own key. -/
theorem nodup_keys_hostClaimants {a : Admission} {passthrough : Bool} {s : Store} (hs : s.Sound) :
    ((hostClaimants a passthrough s).map Resource.key).Nodup := by
  -- one list for each kind
  have hingress : ((s.mainIngresses.map fun i =>
      Resource.ingress (ingressResource s i)).map Resource.key).Nodup := by
    have hkeys : (s.mainIngresses.map fun i => i.metadata.key).Nodup :=
      (Table.nodup_map_values hs.ingress_key).sublist (List.filter_sublist.map _)
    simpa [Resource.key, Resource.kind, Resource.metadata, Function.comp_def] using
      nodup_joinKey .ingress hkeys
  have hserver : ((s.virtualServers.values.map fun vs =>
      Resource.virtualServer (virtualServerResource a s vs)).map Resource.key).Nodup := by
    simpa [Resource.key, Resource.kind, Resource.metadata, virtualServerResource,
      Function.comp_def] using
        nodup_joinKey .virtualServer (Table.nodup_map_values hs.virtualServer_key)
  have hstream : ((s.passthroughServers.map fun ts =>
      Resource.transportServer ⟨ts, 0, []⟩).map Resource.key).Nodup := by
    have hkeys : (s.passthroughServers.map fun ts => ts.metadata.key).Nodup :=
      (Table.nodup_map_values hs.transportServer_key).sublist (List.filter_sublist.map _)
    simpa [Resource.key, Resource.kind, Resource.metadata, Function.comp_def] using
      nodup_joinKey .transportServer hkeys
  have hfirst := nodup_keys_append hingress hserver fun r hr q hq => by
    obtain ⟨i, -, rfl⟩ := List.mem_map.1 hr
    obtain ⟨vs, -, rfl⟩ := List.mem_map.1 hq
    simp [Resource.kind]
  by_cases hon : passthrough
  · rw [hostClaimants, if_pos hon]
    refine nodup_keys_append hfirst hstream fun r hr q hq => ?_
    obtain ⟨ts, -, rfl⟩ := List.mem_map.1 hq
    rcases List.mem_append.1 hr with hr | hr <;>
      obtain ⟨o, -, rfl⟩ := List.mem_map.1 hr <;> simp [Resource.kind]
  · rw [hostClaimants, if_neg hon, List.append_nil]
    exact hfirst

/-! ## 2. The outcome of the contest -/

namespace Resource

@[simp] theorem kind_decided (st : Standing) (n : Nat) (r : Resource) :
    (r.decided st n).kind = r.kind := by cases r <;> rfl

@[simp] theorem metadata_decided (st : Standing) (n : Nat) (r : Resource) :
    (r.decided st n).metadata = r.metadata := by cases r <;> rfl

@[simp] theorem key_decided (st : Standing) (n : Nat) (r : Resource) :
    (r.decided st n).key = r.key := by simp [key]

@[simp] theorem object_decided (st : Standing) (n : Nat) (r : Resource) :
    (r.decided st n).object = r.object := by cases r <;> rfl

@[simp] theorem hosts_decided (st : Standing) (n : Nat) (r : Resource) :
    (r.decided st n).hosts = r.hosts := by cases r <;> rfl

/-- A decided claimant serves nothing but a host that it asked for; an ingress serves those of them
that it holds. The other kinds have no marks and say that they serve their host in any case. -/
theorem serves_decided_iff {a : Admission} {passthrough : Bool} {s : Store} {st : Standing}
    {n : Nat} {r : Resource} (hr : Claimant a passthrough s r) {slot : Slot} :
    (r.decided st n).serves slot = true ↔
      ∃ h, slot = .host h ∧ h ∈ r.hosts ∧ ((∃ i, r = .ingress i) → st.isHolder n h = true) := by
  rcases hr with ⟨key, i, hi, hmain⟩ | ⟨key, vs, hvs⟩ | ⟨key, ts, hts, hpass, hon⟩
  · rcases slot with h | l
    · -- an ingress marks those of its hosts that it holds
      have hvalid : (Table.ofList (i.hosts.map fun h => (h, st.isHolder n h))).get? h = some true ↔
          h ∈ i.hosts ∧ st.isHolder n h = true := by
        rw [Table.get?_ofList_map_iff, eq_comm (a := true)]
      simp [decided, serves, hosts, hvalid]
    · simp [decided, serves]
  · rcases slot with h | l
    · -- the others serve what they ask for, whether they hold it or not
      simp [decided, serves, hosts, virtualServerResource, @eq_comm _ _ h]
    · simp [decided, serves]
  · rcases slot with h | l
    · simp [decided, serves, hosts, hpass, @eq_comm _ _ h]
    · simp [decided, serves, hpass]

end Resource

/-! ## 3. The plan -/

section HostPlan

variable {a : Admission} {passthrough : Bool} {s : Store}

theorem getElem?_resources (i : Nat) :
    (hostPlan a passthrough s).resources[i]? = ((hostClaimants a passthrough s)[i]?).map
      (Resource.decided (hostContest (hostClaimants a passthrough s)) i) := by
  simp [hostPlan, List.getElem?_map, List.getElem?_zipIdx, Function.comp_def]

/-- A host has the resource whose number holds it. What is known of contests is brought to the table
of hosts by this. -/
theorem hosts_get?_iff {h : String} {r : Resource} :
    (hostPlan a passthrough s).hosts.get? h = some r ↔
      ∃ i, (hostContest (hostClaimants a passthrough s)).isHolder i h = true ∧
        (hostPlan a passthrough s).resources[i]? = some r :=
  Standing.get?_holding_iff

/-- Deciding the claimants does not change their keys. -/
theorem map_key_resources :
    (hostPlan a passthrough s).resources.map Resource.key =
      (hostClaimants a passthrough s).map Resource.key := by
  refine List.ext_getElem? fun i => ?_
  rw [List.getElem?_map, List.getElem?_map, getElem?_resources, Option.map_map]
  -- deciding does not change the key
  congr 1
  exact funext fun r => Resource.key_decided _ i r

/-- So the keys of the resources differ, as those of the claimants do. -/
theorem nodup_keys_resources (hs : s.Sound) :
    ((hostPlan a passthrough s).resources.map Resource.key).Nodup := by
  rw [map_key_resources]
  exact nodup_keys_hostClaimants hs

/-- Every claimant is a resource of the plan, decided. -/
theorem exists_resource {x : Resource} (hx : Claimant a passthrough s x) :
    ∃ r ∈ (hostPlan a passthrough s).resources, r.key = x.key ∧ r.object = x.object := by
  obtain ⟨i, hi⟩ := List.mem_iff_getElem?.1 (mem_hostClaimants_iff.2 hx)
  have hr : (hostPlan a passthrough s).resources[i]? =
      some (x.decided (hostContest (hostClaimants a passthrough s)) i) := by
    rw [getElem?_resources, hi, Option.map_some]
  exact ⟨_, List.mem_of_getElem? hr, Resource.key_decided _ _ x, Resource.object_decided _ _ x⟩

theorem mem_resources_of_hosts {h : String} {r : Resource}
    (hr : (hostPlan a passthrough s).hosts.get? h = some r) :
    r ∈ (hostPlan a passthrough s).resources := by
  obtain ⟨i, -, hi⟩ := hosts_get?_iff.1 hr
  exact List.mem_of_getElem? hi

/-- A resource of the plan is a decided claimant. The number is part of the statement, as the marks
and warnings depend on it. -/
theorem exists_claimant {i : Nat} {r : Resource}
    (hr : (hostPlan a passthrough s).resources[i]? = some r) :
    ∃ x, Claimant a passthrough s x ∧ (hostClaimants a passthrough s)[i]? = some x ∧
      r = x.decided (hostContest (hostClaimants a passthrough s)) i := by
  rw [getElem?_resources, Option.map_eq_some_iff] at hr
  obtain ⟨x, hx, rfl⟩ := hr
  exact ⟨x, mem_hostClaimants_iff.1 (List.mem_of_getElem? hx), hx, rfl⟩

/-- An ingress of the plan is as it was before the hosts were decided, up to warnings and marks. -/
theorem exists_ingressResource {r : IngressResource}
    (hr : Resource.ingress r ∈ (hostPlan a passthrough s).resources) :
    ∃ key i, s.ingresses.get? key = some i ∧ i.isMinion = false ∧
      r = { ingressResource s i with warnings := r.warnings, validHosts := r.validHosts } := by
  obtain ⟨n, hn⟩ := List.mem_iff_getElem?.1 hr
  obtain ⟨x, hx, -, hdecided⟩ := exists_claimant hn
  rcases hx with ⟨key, i, hi, hmain⟩ | ⟨key, vs, hvs⟩ | ⟨key, ts, hts, hpass, hon⟩
  · obtain rfl := Resource.ingress.inj hdecided
    exact ⟨key, i, hi, hmain, rfl⟩
  · cases hdecided
  · cases hdecided

/-- A virtual server of the plan is as it was before the hosts were decided, up to warnings. -/
theorem exists_virtualServerResource {r : VirtualServerResource}
    (hr : Resource.virtualServer r ∈ (hostPlan a passthrough s).resources) :
    ∃ key vs, s.virtualServers.get? key = some vs ∧
      r = { virtualServerResource a s vs with warnings := r.warnings } := by
  obtain ⟨n, hn⟩ := List.mem_iff_getElem?.1 hr
  obtain ⟨x, hx, -, hdecided⟩ := exists_claimant hn
  rcases hx with ⟨key, i, hi, hmain⟩ | ⟨key, vs, hvs⟩ | ⟨key, ts, hts, hpass, hon⟩
  · cases hdecided
  · obtain rfl := Resource.virtualServer.inj hdecided
    exact ⟨key, vs, hvs, rfl⟩
  · cases hdecided

/-- A resource that has a host says that it serves it: an ingress by the mark, the others because
they ask for it. -/
theorem serves_of_hosts {h : String} {r : Resource}
    (hr : (hostPlan a passthrough s).hosts.get? h = some r) : r.serves (.host h) = true := by
  obtain ⟨i, hi, hri⟩ := hosts_get?_iff.1 hr
  obtain ⟨x, hx, hxi, rfl⟩ := exists_claimant hri
  obtain ⟨y, hy, hwants⟩ := wants_of_isHolder hi
  obtain rfl := Option.some.inj (hxi.symm.trans hy)
  exact (Resource.serves_decided_iff hx).2 ⟨h, rfl, hwants, fun _ => hi⟩

/-- What a resource that has a host says that it serves, is a host that it has. A virtual server or
a transport server asks for one host only, which is then the one it has. -/
theorem hosts_of_serves {h : String} {r : Resource}
    (hr : (hostPlan a passthrough s).hosts.get? h = some r) {slot : Slot}
    (hserves : r.serves slot = true) :
    ∃ g, slot = .host g ∧ (hostPlan a passthrough s).hosts.get? g = some r := by
  obtain ⟨i, hi, hri⟩ := hosts_get?_iff.1 hr
  obtain ⟨x, hx, hxi, rfl⟩ := exists_claimant hri
  obtain ⟨g, rfl, hg, hholds⟩ := (Resource.serves_decided_iff hx).1 hserves
  refine ⟨g, rfl, hosts_get?_iff.2 ⟨i, ?_, hri⟩⟩
  obtain ⟨y, hy, hwants⟩ := wants_of_isHolder hi
  obtain rfl := Option.some.inj (hxi.symm.trans hy)
  -- an ingress marks what it holds; the others ask for one host, which is the one they have
  rcases hx with ⟨key, j, hj, hmain⟩ | ⟨key, vs, hvs⟩ | ⟨key, ts, hts, hpass, hon⟩
  · exact hholds ⟨_, rfl⟩
  · rw [Resource.hosts, List.mem_singleton] at hg hwants
    rw [hg, ← hwants]
    exact hi
  · rw [Resource.hosts, List.mem_singleton] at hg hwants
    rw [hg, ← hwants]
    exact hi

/-- A resource of the plan serves nothing but hosts that it asks for. -/
theorem mem_hosts_of_serves {r : Resource} (hr : r ∈ (hostPlan a passthrough s).resources)
    {slot : Slot} (hserves : r.serves slot = true) : ∃ h, slot = .host h ∧ h ∈ r.hosts := by
  obtain ⟨i, hi⟩ := List.mem_iff_getElem?.1 hr
  obtain ⟨x, hx, -, rfl⟩ := exists_claimant hi
  obtain ⟨h, hslot, hmem, -⟩ := (Resource.serves_decided_iff hx).1 hserves
  exact ⟨h, hslot, (Resource.hosts_decided _ i x).symm ▸ hmem⟩

/-- Resources of the plan with one key are the same. What is stated of keys elsewhere is about
resources by this. -/
theorem eq_of_key_eq (hs : s.Sound) {r q : Resource}
    (hr : r ∈ (hostPlan a passthrough s).resources) (hq : q ∈ (hostPlan a passthrough s).resources)
    (hkey : r.key = q.key) : r = q :=
  List.inj_on_of_nodup_map (nodup_keys_resources hs) hr hq hkey

end HostPlan

end Gatehouse
