import Gatehouse.Proofs.Plan.Listeners

/-!
The problems of a plan: one verdict for each object.

A plan judges every resource, every minion and every virtual server route, and every transport
server on a listener. The tables of problems are made from these verdicts, and because the objects
have different keys, no verdict hides another one (`hostProblems_get?_of_mem`,
`listenerProblems_get?_of_mem`). So whether an object has a problem can be read off its own verdict,
and what remains is to compare the verdict with what is served: a resource of the plan is good
exactly when it has a host (`isServed_iff`), a minion exactly when a master that has a host takes it
(`hasMaster_iff`), and a virtual server route exactly when a virtual server that has a host
delegates to it (`routeProblem?_eq_none_iff`).
-/

set_option autoImplicit false

namespace Gatehouse

/-! ## 1. Hosts -/

/-- Problems that are under the keys of what they are about are the verdicts that say something. A
table of problems is then one of verdicts, in which the silent ones have their places as well. -/
theorem map_key_filterMap {α : Type} {keyOf : α → String} {problem? : α → Option Problem}
    (h : ∀ x q, problem? x = some q → q.key = keyOf x) (xs : List α) :
    (xs.filterMap problem?).map (fun q => (q.key, q)) =
      (xs.map fun x => (keyOf x, problem? x)).filterMap fun e => e.2.map fun q => (e.1, q) := by
  rw [List.map_filterMap, List.filterMap_map]
  refine List.filterMap_congr fun x _ => ?_
  cases hx : problem? x with
  | none => simp [hx]
  | some q => simp [hx, h x q hx]

namespace HostPlan

/-- What the plan has to say about the objects, under their keys. Each object is judged once, and
the judgement may be that nothing is wrong. -/
def verdicts (p : HostPlan) (s : Store) : List (String × Option Problem) :=
  p.resources.map (fun r => (r.key, p.resourceProblem? r)) ++
  s.minions.map (fun i => (joinKey Kind.ingress.name i.metadata.key, p.minionProblem? i)) ++
  s.virtualServerRoutes.values.map fun vsr =>
    (joinKey Kind.virtualServerRoute.name vsr.metadata.key, p.routeProblem? vsr)

/-- The problem of a resource is under the key of the resource. -/
theorem key_of_resourceProblem? {p : HostPlan} {r : Resource} {q : Problem}
    (h : p.resourceProblem? r = some q) : q.key = r.key := by
  unfold resourceProblem? at h
  split at h
  · cases h
  · rw [← Option.some.inj h]
    exact r.key_object

/-- That of a minion is under the key of its ingress. -/
theorem key_of_minionProblem? {p : HostPlan} {i : Ingress} {q : Problem}
    (h : p.minionProblem? i = some q) : q.key = joinKey Kind.ingress.name i.metadata.key := by
  unfold minionProblem? at h
  split at h
  · cases h
  · rw [← Option.some.inj h]
    rfl

/-- And that of a virtual server route under its own. -/
theorem key_of_routeProblem? {p : HostPlan} {vsr : VirtualServerRoute} {q : Problem}
    (h : p.routeProblem? vsr = some q) :
    q.key = joinKey Kind.virtualServerRoute.name vsr.metadata.key := by
  unfold routeProblem? at h
  split at h
  · split at h
    · cases h
    · rw [← Option.some.inj h]
      rfl
  · rw [← Option.some.inj h]
    rfl

/-- What a verdict says is a warning under the key of the object, and no word about a listener. The
letter is how the problems of the two plans are told apart. -/
theorem of_mem_verdicts {p : HostPlan} {s : Store} {key : String} {q : Problem}
    (h : (key, some q) ∈ p.verdicts s) :
    q.key = key ∧ q.isError = false ∧ q.message.toList.head? ≠ some 'L' := by
  simp only [verdicts, List.mem_append, List.mem_map, Prod.mk.injEq] at h
  -- None of the three texts begins as those about listeners do.
  rcases h with (⟨r, -, rfl, hq⟩ | ⟨i, -, rfl, hq⟩) | ⟨vsr, -, rfl, hq⟩
  · refine ⟨key_of_resourceProblem? hq, ?_⟩
    rw [resourceProblem?] at hq
    split at hq
    · cases hq
    · obtain rfl := Option.some.inj hq
      cases r <;> exact ⟨rfl, by simp [Problem.warning, unservedMessage]⟩
  · refine ⟨key_of_minionProblem? hq, ?_⟩
    rw [minionProblem?] at hq
    split at hq
    · cases hq
    · obtain rfl := Option.some.inj hq
      exact ⟨rfl, by simp [Problem.warning]⟩
  · refine ⟨key_of_routeProblem? hq, ?_⟩
    rw [routeProblem?] at hq
    split at hq
    · split at hq
      · cases hq
      · obtain rfl := Option.some.inj hq
        exact ⟨rfl, by simp [Problem.warning]⟩
    · obtain rfl := Option.some.inj hq
      exact ⟨rfl, by simp [Problem.warning]⟩

/-- The table of problems is made of the verdicts that say something. -/
theorem problems_eq_ofList_verdicts (p : HostPlan) (s : Store) :
    p.problems s =
      Table.ofList ((p.verdicts s).filterMap fun e => e.2.map fun q => (e.1, q)) := by
  rw [problems, verdicts, List.map_append, List.map_append, List.filterMap_append,
    List.filterMap_append, map_key_filterMap fun _ _ => key_of_resourceProblem?,
    map_key_filterMap fun _ _ => key_of_minionProblem?,
    map_key_filterMap fun _ _ => key_of_routeProblem?]

end HostPlan

section HostPlan

variable {a : Admission} {passthrough : Bool} {s : Store}

theorem mem_minions_iff {i : Ingress} :
    i ∈ s.minions ↔ (∃ key, s.ingresses.get? key = some i) ∧ i.isMinion = true := by
  rw [Store.minions, List.mem_filter, Table.mem_values_iff]

/-- No resource is about a minion. So the problem of a minion is the only one under its key. -/
theorem key_ne_of_minions (hs : s.Sound) {r : Resource}
    (hr : r ∈ (hostPlan a passthrough s).resources) {i : Ingress} (hi : i ∈ s.minions) :
    r.key ≠ joinKey Kind.ingress.name i.metadata.key := by
  intro heq
  obtain ⟨n, hn⟩ := List.mem_iff_getElem?.1 hr
  obtain ⟨x, hx, -, rfl⟩ := exists_claimant hn
  rw [Resource.key_decided] at heq
  obtain ⟨hkind, hkey⟩ := Kind.joinKey_inj heq
  rcases hx with ⟨key, j, hj, hmain⟩ | ⟨key, vs, hvs⟩ | ⟨key, ts, hts, hpass, hon⟩
  · -- both would be the same ingress
    obtain ⟨⟨key', hkey'⟩, hminion⟩ := mem_minions_iff.1 hi
    have hsame : j = i := Table.eq_of_key_eq hs.ingress_key hj hkey' (by
      simpa [Resource.metadata] using hkey)
    rw [hsame, hminion] at hmain
    cases hmain
  · cases hkind
  · cases hkind

/-- No key is judged twice: the kinds differ in the first part of the key, and an ingress is a
minion or not. -/
theorem nodup_keys_verdicts (hs : s.Sound) :
    (((hostPlan a passthrough s).verdicts s).map Prod.fst).Nodup := by
  have hminions : (s.minions.map fun i => joinKey Kind.ingress.name i.metadata.key).Nodup :=
    nodup_joinKey .ingress
      ((Table.nodup_map_values hs.ingress_key).sublist (List.filter_sublist.map _))
  have hroutes : (s.virtualServerRoutes.values.map fun vsr =>
      joinKey Kind.virtualServerRoute.name vsr.metadata.key).Nodup :=
    nodup_joinKey .virtualServerRoute (Table.nodup_map_values hs.virtualServerRoute_key)
  have hkeys : ((hostPlan a passthrough s).verdicts s).map Prod.fst =
      ((hostPlan a passthrough s).resources.map Resource.key ++
        s.minions.map fun i => joinKey Kind.ingress.name i.metadata.key) ++
      s.virtualServerRoutes.values.map fun vsr =>
        joinKey Kind.virtualServerRoute.name vsr.metadata.key := by
    simp [HostPlan.verdicts, Function.comp_def]
  rw [hkeys]
  refine List.nodup_append.2 ⟨List.nodup_append.2 ⟨nodup_keys_resources hs, hminions, ?_⟩,
    hroutes, ?_⟩
  · intro k hk l hl
    -- minions are ingresses, but never main ones
    obtain ⟨r, hr, rfl⟩ := List.mem_map.1 hk
    obtain ⟨i, hi, rfl⟩ := List.mem_map.1 hl
    exact key_ne_of_minions hs hr hi
  · intro k hk l hl heq
    -- no resource and no minion is of the kind of virtual server routes
    obtain ⟨vsr, -, rfl⟩ := List.mem_map.1 hl
    rcases List.mem_append.1 hk with hk | hk
    · obtain ⟨r, -, rfl⟩ := List.mem_map.1 hk
      have hkind := (Kind.joinKey_inj heq).1
      cases r <;> cases hkind
    · obtain ⟨i, -, rfl⟩ := List.mem_map.1 hk
      exact absurd (Kind.joinKey_inj heq).1 (by decide)

/-- Under the key of an object there is the problem that the verdict about it tells, or nothing.
This uses that no key is judged twice. -/
theorem hostProblems_get?_of_mem (hs : s.Sound) {key : String} {q? : Option Problem}
    (h : (key, q?) ∈ (hostPlan a passthrough s).verdicts s) :
    ((hostPlan a passthrough s).problems s).get? key = q? := by
  rw [HostPlan.problems_eq_ofList_verdicts]
  exact Table.get?_ofList_filterMap (nodup_keys_verdicts hs) h

/-- Every problem is the verdict about some object. -/
theorem mem_verdicts_of_hostProblems {key : String} {q : Problem}
    (h : ((hostPlan a passthrough s).problems s).get? key = some q) :
    (key, some q) ∈ (hostPlan a passthrough s).verdicts s := by
  rw [HostPlan.problems_eq_ofList_verdicts] at h
  exact Table.mem_of_get?_ofList_filterMap h

/-- The plan compares the key of who has a host. Since keys differ, that is as good as comparing the
resources. -/
theorem isServedBy_iff (hs : s.Sound) {r : Resource}
    (hr : r ∈ (hostPlan a passthrough s).resources) {host : String} :
    (hostPlan a passthrough s).isServedBy host r.key = true ↔
      (hostPlan a passthrough s).hosts.get? host = some r := by
  unfold HostPlan.isServedBy
  cases hget : (hostPlan a passthrough s).hosts.get? host with
  | none => simp
  | some q =>
    have hq : q ∈ (hostPlan a passthrough s).resources := mem_resources_of_hosts hget
    rw [Option.any_some, beq_iff_eq, Option.some.injEq]
    exact ⟨eq_of_key_eq hs hq hr, congrArg Resource.key⟩

/-- Who asks for one host only can have no other one. So it is served exactly when it has a host at
all. -/
theorem isServedBy_iff_of_one_host (hs : s.Sound) {r : Resource}
    (hr : r ∈ (hostPlan a passthrough s).resources) {host : String} (hone : r.hosts = [host]) :
    (hostPlan a passthrough s).isServedBy host r.key = true ↔
      ∃ h, (hostPlan a passthrough s).hosts.get? h = some r := by
  rw [isServedBy_iff hs hr]
  constructor
  · intro hget
    exact ⟨host, hget⟩
  · rintro ⟨h, hget⟩
    obtain ⟨g, heq, hmem⟩ := mem_hosts_of_serves hr (serves_of_hosts hget)
    rw [hone, List.mem_singleton] at hmem
    rw [← hmem, ← Slot.host.inj heq]
    exact hget

/-- An ingress has a host exactly when one of its hosts is marked. The plan judges an ingress by its
marks, which have been written before. -/
theorem any_validHosts_iff {i : IngressResource}
    (hr : Resource.ingress i ∈ (hostPlan a passthrough s).resources) :
    i.validHosts.values.any id = true ↔
      ∃ h, (hostPlan a passthrough s).hosts.get? h = some (.ingress i) := by
  rw [List.any_eq_true]
  constructor
  · rintro ⟨b, hb, htrue⟩
    obtain ⟨h, hvalid⟩ := Table.mem_values_iff.1 hb
    have hserves : (Resource.ingress i).serves (.host h) = true := by
      simpa [Resource.serves, hvalid] using htrue
    obtain ⟨n, hn⟩ := List.mem_iff_getElem?.1 hr
    obtain ⟨x, hx, -, hdecided⟩ := exists_claimant hn
    rw [hdecided] at hserves
    -- a mark means that the contest went to this ingress
    obtain ⟨g, heq, -, hholds⟩ := (Resource.serves_decided_iff hx).1 hserves
    obtain rfl := Slot.host.inj heq
    refine ⟨h, hosts_get?_iff.2 ⟨n, hholds ?_, hn⟩⟩
    cases x with
    | ingress j => exact ⟨j, rfl⟩
    | virtualServer v => cases hdecided
    | transportServer t => cases hdecided
  · rintro ⟨h, hget⟩
    have hserves := serves_of_hosts hget
    refine ⟨true, Table.mem_values_iff.2 ⟨h, ?_⟩, rfl⟩
    simpa [Resource.serves] using hserves

/-- A resource of the plan has a host exactly when the plan counts it as served. The plan asks each
kind in another way, and the three ways come to the same. -/
theorem isServed_iff (hs : s.Sound) {r : Resource}
    (hr : r ∈ (hostPlan a passthrough s).resources) :
    (hostPlan a passthrough s).isServed r = true ↔
      ∃ h, (hostPlan a passthrough s).hosts.get? h = some r := by
  cases r with
  | ingress i => exact any_validHosts_iff hr
  | virtualServer v => exact isServedBy_iff_of_one_host hs hr rfl
  | transportServer t => exact isServedBy_iff_of_one_host hs hr rfl

/-! ## 2. Minions -/

/-- A resource of an ingress is built from an ingress of the store that is not a minion. -/
theorem exists_ingress {r : IngressResource}
    (hr : Resource.ingress r ∈ (hostPlan a passthrough s).resources) :
    ∃ key i, s.ingresses.get? key = some i ∧ i.isMinion = false ∧ r.ingress = i ∧
      r.isMaster = i.isMaster ∧ r.minions = (ingressResource s i).minions := by
  obtain ⟨key, i, hi, hmain, heq⟩ := exists_ingressResource hr
  refine ⟨key, i, hi, hmain, ?_, ?_, ?_⟩
  · rw [heq]
    exact ingressResource_ingress s i
  · rw [heq]
    exact ingressResource_isMaster s i
  · rw [heq]

/-- The minions of a master are those with a rule for its host. An ingress that is no master has
none, whatever its host. -/
theorem mem_minions_ingressResource_iff {i j : Ingress} :
    (∃ m ∈ (ingressResource s j).minions, m.ingress = i) ↔
      j.isMaster = true ∧ i ∈ s.minions ∧ i.rules ≠ [] ∧ i.firstHost = j.firstHost := by
  have hmap : (masterResource s j).minions.map (·.ingress) = s.minionsFor j.firstHost := by
    rw [masterResource, List.map_map]
    exact List.zipIdx_map_fst 0 _
  have hmem : (∃ m ∈ (masterResource s j).minions, m.ingress = i) ↔
      i ∈ s.minionsFor j.firstHost := by
    rw [← hmap, List.mem_map]
  unfold ingressResource
  by_cases hmaster : j.isMaster
  · rw [if_pos hmaster, hmem, Store.minionsFor, List.mem_filter]
    simp [hmaster]
  · rw [if_neg hmaster]
    simp [hmaster, Resource.plainIngress]

theorem hosts_of_one_rule {i : Ingress} (h : ∃ rule, i.rules = [rule]) :
    i.hosts = [i.firstHost] := by
  obtain ⟨rule, hrule⟩ := h
  simp [Ingress.hosts, Ingress.firstHost, hrule]

/-- A master asks for its first host only, which is where its minions are looked for. -/
theorem firstHost_of_hosts (hs : s.Sound) {h : String} {r : IngressResource}
    (hget : (hostPlan a passthrough s).hosts.get? h = some (.ingress r))
    (hmaster : r.isMaster = true) : r.ingress.firstHost = h := by
  have hr := mem_resources_of_hosts hget
  obtain ⟨key, j, hj, -, rfl, hmaster', -⟩ := exists_ingress hr
  have hhosts : (Resource.ingress r).hosts = [r.ingress.firstHost] :=
    hosts_of_one_rule (hs.one_rule key _ hj (.inl (hmaster' ▸ hmaster)))
  obtain ⟨g, heq, hmem⟩ := mem_hosts_of_serves hr (serves_of_hosts hget)
  rw [hhosts, List.mem_singleton] at hmem
  rw [Slot.host.inj heq, hmem]

/-- A host has a master when the resource that has it is an ingress that is one. A master that lost
its host is none as far as its minions are concerned. -/
theorem hasMaster_eq_true_iff {p : HostPlan} {host : String} :
    p.hasMaster host = true ↔
      ∃ r, p.hosts.get? host = some (.ingress r) ∧ r.isMaster = true := by
  unfold HostPlan.hasMaster
  split
  · rename_i r hget
    simp [hget]
  · rename_i hnot
    constructor
    · intro h
      cases h
    · rintro ⟨r, hget, -⟩
      exact absurd hget (hnot r)

/-- A minion has a master on its host exactly when it is a minion of a master that has a host. A
master has no host but the one that it shares with its minions. -/
theorem hasMaster_iff (hs : s.Sound) {i : Ingress} (hi : i ∈ s.minions) :
    (hostPlan a passthrough s).hasMaster i.firstHost = true ↔
      ∃ h r, (hostPlan a passthrough s).hosts.get? h = some (.ingress r) ∧ r.isMaster = true ∧
        ∃ m ∈ r.minions, m.ingress = i := by
  rw [hasMaster_eq_true_iff]
  constructor
  · rintro ⟨r, hget, hmaster⟩
    obtain ⟨key, j, hj, -, hrj, hmaster', hminions⟩ := exists_ingress (mem_resources_of_hosts hget)
    refine ⟨i.firstHost, r, hget, hmaster, ?_⟩
    obtain ⟨⟨key', hkey'⟩, hminion⟩ := mem_minions_iff.1 hi
    obtain ⟨rule, hrule⟩ := hs.one_rule key' i hkey' (.inr hminion)
    rw [hminions]
    -- the host of the minion is the first host of the master
    refine mem_minions_ingressResource_iff.2 ⟨hmaster' ▸ hmaster, hi, by simp [hrule], ?_⟩
    rw [← firstHost_of_hosts hs hget hmaster, hrj]
  · rintro ⟨h, r, hget, hmaster, hmem⟩
    obtain ⟨key, j, hj, -, hrj, hmaster', hminions⟩ := exists_ingress (mem_resources_of_hosts hget)
    rw [hminions] at hmem
    obtain ⟨-, -, -, hhost⟩ := mem_minions_ingressResource_iff.1 hmem
    rw [hhost, ← hrj, firstHost_of_hosts hs hget hmaster]
    exact ⟨r, hget, hmaster⟩

end HostPlan

/-! ## 3. Virtual server routes -/

section Routes

variable {a : Admission} {passthrough : Bool} {s : Store}

/-- A resource of a virtual server is built from one of the store and has the routes it had when it
was built. -/
theorem exists_virtualServer {r : VirtualServerResource}
    (hr : Resource.virtualServer r ∈ (hostPlan a passthrough s).resources) :
    ∃ key vs, s.virtualServers.get? key = some vs ∧ r.server = vs ∧
      r.routes = (virtualServerResource a s vs).routes := by
  obtain ⟨key, vs, hvs, heq⟩ := exists_virtualServerResource hr
  refine ⟨key, vs, hvs, ?_, ?_⟩
  · rw [heq]
    rfl
  · rw [heq]

/-- A route leaves its path to what is stored under its reference and fits the path. If one of the
two fails, the virtual server is told and serves without it. -/
theorem route?_delegate_eq_some_iff {vs : VirtualServer} {route : Route}
    {vsr : VirtualServerRoute} : (delegate a s vs route).route? = some vsr ↔
      s.virtualServerRoutes.get? (qualify vs.metadata.spaceOrEmpty route.route) = some vsr ∧
        a.delegatedErrors vsr vs.spec.host route.path = [] := by
  simp only [delegate]
  split
  · rename_i hnone
    simp [hnone, Delegate.route?]
  · rename_i found hget
    rw [hget, Option.some.injEq]
    split
    · rename_i hfits
      rw [Delegate.route?, Option.some.injEq]
      exact ⟨fun h => ⟨h, h ▸ hfits⟩, And.left⟩
    · rename_i hunfit
      exact ⟨nofun, fun ⟨h, hfits⟩ => absurd (h ▸ hfits) hunfit⟩

/-- A virtual server has what is stored under the references of its routes and fits the path. -/
theorem mem_routes_iff {vs : VirtualServer} {vsr : VirtualServerRoute} :
    vsr ∈ (virtualServerResource a s vs).routes ↔ ∃ route ∈ vs.spec.routes, route.route ≠ "" ∧
      s.virtualServerRoutes.get? (qualify vs.metadata.spaceOrEmpty route.route) = some vsr ∧
      a.delegatedErrors vsr vs.spec.host route.path = [] := by
  rw [virtualServerResource, delegates, List.filterMap_map, List.mem_filterMap]
  simp only [List.mem_filter, Function.comp_apply, route?_delegate_eq_some_iff, Bool.not_eq_true',
    String.isEmpty_eq_false_iff, and_assoc]

/-- It has each as often as there are routes that leave their paths to it. Nothing keeps two routes
from naming the same virtual server route. -/
theorem countP_routes (vs : VirtualServer) (p : VirtualServerRoute → Bool) :
    (virtualServerResource a s vs).routes.countP p = vs.spec.routes.countP fun route =>
      !route.route.isEmpty && (delegate a s vs route).route?.any p := by
  rw [virtualServerResource, delegates, List.filterMap_map, List.countP_filterMap,
    List.countP_filter]
  refine List.countP_congr fun route _ => ?_
  cases hroute : (delegate a s vs route).route? <;> simp [hroute, and_comm]

/-- A virtual server delegates to virtual server routes of the store that fit it. -/
theorem of_mem_routes {vs : VirtualServer} {vsr : VirtualServerRoute}
    (h : vsr ∈ (virtualServerResource a s vs).routes) :
    (∃ key, s.virtualServerRoutes.get? key = some vsr) ∧
      ∃ path, a.delegatedErrors vsr vs.spec.host path = [] := by
  obtain ⟨route, -, -, hget, hfits⟩ := mem_routes_iff.1 h
  exact ⟨⟨_, hget⟩, route.path, hfits⟩

/-- A virtual server route has no problem exactly when a virtual server that has a host delegates to
it. The plan looks at who has the host that the route names; that a virtual server with another host
cannot delegate to it is what the admission has to keep. -/
theorem routeProblem?_eq_none_iff (ha : a.KeepsHosts) (hs : s.Sound) {key : String}
    {vsr : VirtualServerRoute} (hvsr : s.virtualServerRoutes.get? key = some vsr) :
    (hostPlan a passthrough s).routeProblem? vsr = none ↔
      ∃ h r, (hostPlan a passthrough s).hosts.get? h = some (.virtualServer r) ∧
        vsr ∈ r.routes := by
  constructor
  · intro hnone
    unfold HostPlan.routeProblem? at hnone
    split at hnone
    · rename_i r hget
      split at hnone
      · rename_i htakes
        obtain ⟨q, hq, hsame⟩ := List.any_eq_true.1 htakes
        rw [Bool.and_eq_true, beq_iff_eq, beq_iff_eq] at hsame
        obtain ⟨key', vs, -, -, hroutes⟩ := exists_virtualServer (mem_resources_of_hosts hget)
        obtain ⟨⟨key'', hkey''⟩, -⟩ := of_mem_routes (hroutes ▸ hq)
        -- the store has one virtual server route of that name
        have hqvsr : q = vsr := Table.eq_of_key_eq hs.virtualServerRoute_key hkey'' hvsr (by
          simp [Meta.key, Meta.spaceOrEmpty, hsame])
        exact ⟨vsr.spec.host, r, hget, hqvsr ▸ hq⟩
      · cases hnone
    · cases hnone
  · rintro ⟨h, r, hget, hmem⟩
    have hr := mem_resources_of_hosts hget
    obtain ⟨key', vs, -, hserver, hroutes⟩ := exists_virtualServer hr
    obtain ⟨-, path, hfits⟩ := of_mem_routes (hroutes ▸ hmem)
    -- what a virtual server delegates to has its host
    have hhost : vsr.spec.host = vs.spec.host := ha vsr vs.spec.host path hfits
    obtain ⟨g, heq, hg⟩ := mem_hosts_of_serves hr (serves_of_hosts hget)
    rw [Resource.hosts, List.mem_singleton, hserver] at hg
    have htakes : HostPlan.takes r vsr = true := List.any_eq_true.2 ⟨vsr, hmem, by simp⟩
    have hown : (hostPlan a passthrough s).hosts.get? vsr.spec.host =
        some (.virtualServer r) := by
      rw [hhost, ← hg, ← Slot.host.inj heq]
      exact hget
    unfold HostPlan.routeProblem?
    simp [hown, htakes]

end Routes

/-! ## 4. Listeners -/

section Listeners

variable {s : Store}

/-- The problem of a transport server is under its key, and is that it is rejected. -/
theorem of_listenerProblem? {p : ListenerPlan} {r : TransportServerResource} {q : Problem}
    (h : p.problem? r = some q) : q.key = r.key ∧ q.reason = .rejected := by
  simp only [ListenerPlan.problem?] at h
  split at h
  · rw [← Option.some.inj h]
    exact ⟨rfl, rfl⟩
  · split at h
    · cases h
    · rw [← Option.some.inj h]
      exact ⟨rfl, rfl⟩

/-- It is a warning, and a word about a listener. -/
theorem warning_of_listenerProblem? {p : ListenerPlan} {r : TransportServerResource} {q : Problem}
    (h : p.problem? r = some q) : q.isError = false ∧ q.message.toList.head? = some 'L' := by
  simp only [ListenerPlan.problem?] at h
  split at h
  · obtain rfl := Option.some.inj h
    exact ⟨rfl, by simp [Problem.warning]⟩
  · split at h
    · cases h
    · obtain rfl := Option.some.inj h
      exact ⟨rfl, by simp [Problem.warning]⟩

/-- The table of problems of listeners is made of verdicts in the same way. -/
theorem listenerProblems_eq_ofList (p : ListenerPlan) :
    p.problems = Table.ofList ((p.servers.map fun r => (r.key, p.problem? r)).filterMap
      fun e => e.2.map fun q => (e.1, q)) := by
  rw [ListenerPlan.problems, map_key_filterMap fun _ _ h => (of_listenerProblem? h).1]

/-- Under the key of a transport server there is the problem that the verdict about it tells, or
nothing. -/
theorem listenerProblems_get?_of_mem (hs : s.Sound) {r : TransportServerResource}
    (hr : r ∈ (listenerPlan s).servers) :
    (listenerPlan s).problems.get? r.key = (listenerPlan s).problem? r := by
  rw [listenerProblems_eq_ofList]
  refine Table.get?_ofList_filterMap ?_ (List.mem_map.2 ⟨r, hr, rfl⟩)
  rw [List.map_map]
  exact nodup_keys_servers hs

/-- Every problem of a listener is the verdict about some transport server. -/
theorem exists_server_of_listenerProblems {key : String} {q : Problem}
    (h : (listenerPlan s).problems.get? key = some q) :
    ∃ r ∈ (listenerPlan s).servers, r.key = key ∧ (listenerPlan s).problem? r = some q := by
  rw [listenerProblems_eq_ofList] at h
  obtain ⟨r, hr, heq⟩ := List.mem_map.1 (Table.mem_of_get?_ofList_filterMap h)
  obtain ⟨hkey, hproblem⟩ := Prod.mk.inj heq
  exact ⟨r, hr, hkey, hproblem⟩

/-- No object is judged with the hosts and with the listeners, so the two tables of problems have no
key in common. -/
theorem key_ne_of_verdicts (hs : s.Sound) {a : Admission} {passthrough : Bool}
    {r : TransportServerResource} (hr : r ∈ (listenerPlan s).servers) {key : String}
    {q? : Option Problem} (h : (key, q?) ∈ (hostPlan a passthrough s).verdicts s) :
    key ≠ r.key := by
  rcases List.mem_append.1 h with h | h
  · rcases List.mem_append.1 h with h | h
    · obtain ⟨x, hx, heq⟩ := List.mem_map.1 h
      rw [← (Prod.mk.inj heq).1]
      exact key_ne_of_servers hs hx hr
    · obtain ⟨i, -, heq⟩ := List.mem_map.1 h
      rw [← (Prod.mk.inj heq).1]
      exact fun hkey => nomatch (Kind.joinKey_inj hkey).1
  · obtain ⟨vsr, -, heq⟩ := List.mem_map.1 h
    rw [← (Prod.mk.inj heq).1]
    exact fun hkey => nomatch (Kind.joinKey_inj hkey).1

/-- A transport server of the plan has no problem exactly when it is bound to a listener. It asks
for one only, so there is nothing between the two. -/
theorem listenerProblem?_eq_none_iff (hs : s.Sound) {r : TransportServerResource}
    (hr : r ∈ (listenerPlan s).servers) :
    (listenerPlan s).problem? r = none ↔ ∃ n, (listenerPlan s).listeners.get? n = some r := by
  constructor
  · intro hnone
    simp only [ListenerPlan.problem?] at hnone
    split at hnone
    · cases hnone
    · rename_i holder hget
      split at hnone
      · rename_i hsame
        have hkey : r.key = holder.key := Resource.key_eq_of_equivalent
          (a := .transportServer r) (b := .transportServer holder) hsame
        -- an equivalent holder is the transport server itself
        rw [server_eq_of_key_eq hs hr (mem_servers_of_listeners hget) hkey]
        exact ⟨_, hget⟩
      · cases hnone
  · rintro ⟨n, hget⟩
    have hsame : r.equivalent r = true := Resource.equivalent_refl (.transportServer r)
    simp [ListenerPlan.problem?, name_of_listeners hget, hget, hsame]

end Listeners

end Gatehouse
