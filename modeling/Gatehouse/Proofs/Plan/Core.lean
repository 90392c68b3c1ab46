import Gatehouse.Proofs.Plan.Holders

/-!
What of the objects matters to the plans.

The *core* of an object is its specification together with what identifies and dates it: namespace,
name, generation, identifier and creation time, and for an ingress the annotations. Labels, the
resource version, the status and whatever else an object carries are left out of it. Everything that
is built from objects has a core as well, that of the objects in it.

Building respects cores: the plan of the core of a store is the core of its plan (`hostPlan_core`,
`listenerPlan_core`). For the lists of claimants this is read off their definitions. For the
contests it is a matter of `contest_map_agrees`, since ranks and the wanted slots are part of the
core. So stores with the same core come to the same plans up to what does not matter
(`holders_core`).
-/

set_option autoImplicit false

namespace Gatehouse

/-! ## 1. Cores of objects -/

/-- What identifies and dates an object. -/
def Meta.core (m : Meta) : Meta :=
  { Meta.blank with
    space := m.space
    name := m.name
    generation := m.generation
    uid := m.uid
    created := m.created }

/-- What of a custom object matters. -/
def Custom.core {σ : Type} (o : Custom σ) : Custom σ := ⟨o.metadata.core, o.spec⟩

/-- What of an ingress matters; part of what it asks for is in its annotations. Its status is left
out. -/
def Ingress.core (i : Ingress) : Ingress :=
  ⟨{ i.metadata.core with annotations := i.metadata.annotations }, i.spec, none⟩

/-- What of an object matters. Objects of the kinds that no store has are left as they are. -/
def Object.core : Object → Object
  | .ingress o => .ingress o.core
  | .virtualServer o => .virtualServer o.core
  | .virtualServerRoute o => .virtualServerRoute o.core
  | .transportServer o => .transportServer o.core
  | .globalConfiguration o => .globalConfiguration o.core
  | .policy o => .policy o.core
  | o => o

/-- What of the objects of a store matters. -/
def Store.core (s : Store) : Store where
  ingresses := s.ingresses.map Ingress.core
  virtualServers := s.virtualServers.map Custom.core
  virtualServerRoutes := s.virtualServerRoutes.map Custom.core
  transportServers := s.transportServers.map Custom.core
  policies := s.policies.map Custom.core
  globalConfiguration := s.globalConfiguration.map Custom.core

/-- Whether a virtual server route takes a path depends on its core. It is asked of the admission,
because the plan of hosts leaves that check to it. -/
def Admission.ReadsCores (a : Admission) : Prop :=
  ∀ vsr : VirtualServerRoute, a.delegatedErrors vsr.core = a.delegatedErrors vsr

/-- The built-in checks read the specification only, which is part of the core. -/
theorem Admission.readsCores_checked (className : String) (f : Features) :
    (checked className f).ReadsCores := fun _ => rfl

/-! ## 2. Cores of resources -/

/-- The minion with the core of its ingress. -/
def Minion.core (m : Minion) : Minion := { m with ingress := m.ingress.core }

/-- The resource with the cores of its ingress and of its minions. -/
def IngressResource.core (r : IngressResource) : IngressResource :=
  { r with ingress := r.ingress.core, minions := r.minions.map Minion.core }

/-- The resource with the cores of its virtual server and of its virtual server routes. -/
def VirtualServerResource.core (r : VirtualServerResource) : VirtualServerResource :=
  { r with server := r.server.core, routes := r.routes.map Custom.core }

/-- The resource with the core of its transport server. -/
def TransportServerResource.core (r : TransportServerResource) : TransportServerResource :=
  { r with server := r.server.core }

namespace Resource

/-- The resource with the cores of its objects. -/
def core : Resource → Resource
  | .ingress r => .ingress r.core
  | .virtualServer r => .virtualServer r.core
  | .transportServer r => .transportServer r.core

/-- The creation time and the identifier are in the core, so the rank of a resource is that of its
core. -/
theorem rank_core (r : Resource) : r.core.metadata.rank = r.metadata.rank := by cases r <;> rfl

theorem hosts_core (r : Resource) : r.core.hosts = r.hosts := by cases r <;> rfl

/-- What is compared of a resource is part of its core. -/
theorem rendering_core (r : Resource) : r.core.rendering = r.rendering := by
  cases r with
  | ingress r =>
    simp only [core, rendering, IngressResource.core, List.map_map]
    rfl
  | virtualServer r =>
    simp only [core, rendering, VirtualServerResource.core, List.map_map]
    rfl
  | transportServer r => rfl

/-- What the contest decides is written beside the objects and does not touch them. -/
theorem decided_core (st : Standing) (n : Nat) (r : Resource) :
    r.core.decided st n = (r.decided st n).core := by cases r <;> rfl

/-- Standings that agree decide alike: what is written into a resource are the slots that its number
holds and those that it has lost. -/
theorem decided_congr {st st' : Standing} (h : st.Agrees st') (n : Nat) (r : Resource) :
    r.decided st n = r.decided st' n := by
  have hheld : st.isHolder n = st'.isHolder n := funext (h.isHolder_eq n)
  cases r <;> simp only [decided, h.lost_eq, hheld]

end Resource

/-! ## 3. Hosts -/

section Minions

/-- The contest for paths is about ranks and paths, which are in the core. -/
theorem agrees_pathContest_core (minions : List Ingress) :
    (pathContest (minions.map Ingress.core)).Agrees (pathContest minions) :=
  contest_map_agrees (fun _ => rfl) fun _ => rfl

/-- Standings that agree give a minion the same marks. -/
theorem minionOf_congr {st st' : Standing} (h : st.Agrees st') (n : Nat) (i : Ingress) :
    minionOf st n i = minionOf st' n i := by
  simp only [minionOf, h.lost_eq]

/-- And they tell the minions the same. -/
theorem minionWarnings_congr {st st' : Standing} (h : st.Agrees st') (minions : List Ingress) :
    minionWarnings st minions = minionWarnings st' minions := by
  simp only [minionWarnings, h.lost_eq]

/-- Minions with the paths that they have. -/
def decidedMinions (minions : List Ingress) : List Minion :=
  minions.zipIdx.map fun x => minionOf (pathContest minions) x.2 x.1

/-- Minions are decided on their cores. The marks and the ingress are the two parts of a minion, and
each goes over by itself. -/
theorem decidedMinions_core (minions : List Ingress) :
    decidedMinions (minions.map Ingress.core) = (decidedMinions minions).map Minion.core := by
  rw [decidedMinions, decidedMinions, List.zipIdx_map, List.map_map, List.map_map]
  refine List.map_congr_left fun x _ => ?_
  exact minionOf_congr (agrees_pathContest_core minions) x.2 x.1.core

/-- Minions are told about their cores. -/
theorem minionWarnings_core (minions : List Ingress) :
    minionWarnings (pathContest (minions.map Ingress.core)) (minions.map Ingress.core) =
      minionWarnings (pathContest minions) minions := by
  rw [minionWarnings_congr (agrees_pathContest_core minions), minionWarnings, List.zipIdx_map,
    List.filterMap_map]
  rfl

end Minions

section Hosts

variable {a : Admission} {passthrough : Bool} (s : Store)

/-- Which ingresses are not minions is said by their annotations. -/
theorem mainIngresses_core : s.core.mainIngresses = s.mainIngresses.map Ingress.core := by
  rw [Store.mainIngresses, Store.core, Table.values_map, List.filter_map]
  rfl

/-- So is which ones are, and the host of a minion is in its specification. -/
theorem minionsFor_core (host : String) :
    s.core.minionsFor host = (s.minionsFor host).map Ingress.core := by
  have hminions : s.core.minions = s.minions.map Ingress.core := by
    rw [Store.minions, Store.core, Table.values_map, List.filter_map]
    rfl
  rw [Store.minionsFor, hminions, List.filter_map]
  rfl

theorem passthroughServers_core :
    s.core.passthroughServers = s.passthroughServers.map Custom.core := by
  rw [Store.passthroughServers, Store.core, Table.values_map, List.filter_map]
  rfl

/-- The minions that an ingress is merged with: none unless it is a master. -/
def Store.mergedWith (s : Store) (i : Ingress) : List Ingress :=
  if i.isMaster then s.minionsFor i.firstHost else []

/-- So the core of a master is merged with the cores of its minions. -/
theorem mergedWith_core (i : Ingress) :
    s.core.mergedWith i.core = (s.mergedWith i).map Ingress.core := by
  have hmaster : i.core.isMaster = i.isMaster := rfl
  have hhost : i.core.firstHost = i.firstHost := rfl
  rw [Store.mergedWith, Store.mergedWith, hmaster, hhost, minionsFor_core,
    apply_ite (List.map Ingress.core)]
  rfl

/-- Before the hosts are decided, an ingress and the minions that it is merged with make its
resource. -/
theorem ingressResource_eq (i : Ingress) :
    ingressResource s i =
      { ingress := i
        isMaster := i.isMaster
        minions := decidedMinions (s.mergedWith i)
        validHosts := Table.empty
        warnings := []
        childWarnings := minionWarnings (pathContest (s.mergedWith i)) (s.mergedWith i) } := by
  rw [ingressResource, Store.mergedWith]
  cases hmaster : i.isMaster <;> rfl

/-- The resource of an ingress has the core that is built from the cores. -/
theorem ingressResource_core (i : Ingress) :
    ingressResource s.core i.core = (ingressResource s i).core := by
  rw [ingressResource_eq, ingressResource_eq, mergedWith_core, decidedMinions_core,
    minionWarnings_core]
  rfl

/-- A reference finds the core of what it finds, and the warning about one that finds nothing does
not change. Here it is used that the check of a route reads its core. -/
theorem delegate_core (ha : a.ReadsCores) (vs : VirtualServer) (r : Route) :
    (delegate a s.core vs.core r).route? = (delegate a s vs r).route?.map Custom.core ∧
      (delegate a s.core vs.core r).warning? = (delegate a s vs r).warning? := by
  have hget : ∀ key, s.core.virtualServerRoutes.get? key =
      (s.virtualServerRoutes.get? key).map Custom.core := Table.get?_map _ _
  have hspace : vs.core.metadata.spaceOrEmpty = vs.metadata.spaceOrEmpty := rfl
  have hhost : vs.core.spec.host = vs.spec.host := rfl
  simp only [delegate, hget, hspace, hhost]
  cases s.virtualServerRoutes.get? (qualify vs.metadata.spaceOrEmpty r.route) with
  | none => exact ⟨rfl, rfl⟩
  | some vsr =>
    simp only [Option.map_some, ha vsr]
    cases a.delegatedErrors vsr vs.spec.host r.path <;> exact ⟨rfl, rfl⟩

/-- The same for all routes of a virtual server, so for its resource. A reference leads to an object
with the same core, and whether that fits is decided on its core. -/
theorem virtualServerResource_core (ha : a.ReadsCores) (vs : VirtualServer) :
    virtualServerResource a s.core vs.core = (virtualServerResource a s vs).core := by
  have hroutes : ((delegates a s.core vs.core).filterMap (·.route?)) =
      ((delegates a s vs).filterMap (·.route?)).map Custom.core := by
    rw [delegates, delegates, List.filterMap_map, List.filterMap_map, List.map_filterMap]
    exact List.filterMap_congr fun r _ => (delegate_core s ha vs r).1
  have hwarnings : ((delegates a s.core vs.core).filterMap (·.warning?)) =
      (delegates a s vs).filterMap (·.warning?) := by
    rw [delegates, delegates, List.filterMap_map, List.filterMap_map]
    exact List.filterMap_congr fun r _ => (delegate_core s ha vs r).2
  rw [virtualServerResource, hroutes, hwarnings]
  rfl

/-- The claimants of hosts are built from the core as they are from the store, in the same order. -/
theorem hostClaimants_core (ha : a.ReadsCores) :
    hostClaimants a passthrough s.core = (hostClaimants a passthrough s).map Resource.core := by
  have hservers : s.core.virtualServers.values = s.virtualServers.values.map Custom.core :=
    Table.values_map _ _
  simp only [hostClaimants, mainIngresses_core, hservers, passthroughServers_core, List.map_append,
    List.map_map, Function.comp_def, ingressResource_core, virtualServerResource_core s ha]
  cases passthrough
  · rfl
  · simp only [if_true, List.map_map]
    rfl

/-- The plan with the cores of its resources. -/
def HostPlan.core (p : HostPlan) : HostPlan :=
  ⟨p.resources.map Resource.core, p.hosts.map Resource.core⟩

/-- The hosts are decided on the cores of the objects. The two contests have different claims, but
the outlines of these are the same. -/
theorem hostPlan_core (ha : a.ReadsCores) :
    hostPlan a passthrough s.core = (hostPlan a passthrough s).core := by
  -- Contestants without status and version have the ranks and hosts they had, so the contest ends
  -- alike.
  have hagrees : (hostContest ((hostClaimants a passthrough s).map Resource.core)).Agrees
      (hostContest (hostClaimants a passthrough s)) :=
    contest_map_agrees Resource.rank_core Resource.hosts_core
  have hresources : (hostPlan a passthrough s.core).resources =
      (hostPlan a passthrough s).resources.map Resource.core := by
    refine List.ext_getElem? fun i => ?_
    rw [getElem?_resources, List.getElem?_map, getElem?_resources, hostClaimants_core s ha,
      List.getElem?_map, Option.map_map, Option.map_map]
    congr 1
    funext r
    rw [Function.comp_apply, Function.comp_apply, Resource.decided_congr hagrees,
      Resource.decided_core]
  have hhosts : (hostPlan a passthrough s.core).hosts =
      (hostPlan a passthrough s).hosts.map Resource.core := by
    show ((hostContest (hostClaimants a passthrough s.core)).holders.filterMap fun c =>
      (hostPlan a passthrough s.core).resources[c.claimant]?) = _
    rw [hresources, hostClaimants_core s ha]
    exact hagrees.holding_map Resource.core _
  rw [HostPlan.core, ← hresources, ← hhosts]

end Hosts

/-! ## 4. Listeners -/

section Listeners

variable (s : Store)

theorem listeningServers_core : s.core.listeningServers = s.listeningServers.map Custom.core := by
  rw [Store.listeningServers, Store.core, Table.values_map, List.filter_map]
  rfl

/-- The declared listeners are in the specification of the global configuration. -/
theorem declaredListener?_core (asked : ListenerRef) :
    s.core.declaredListener? asked = s.declaredListener? asked := by
  rw [Store.declaredListener?, Store.core, Option.bind_map]
  rfl

/-- So a transport server finds the same port. -/
theorem listeningResource_core (ts : TransportServer) :
    listeningResource s.core ts.core = (listeningResource s ts).core := by
  rw [listeningResource, declaredListener?_core]
  rfl

/-- And it claims the same listener, or none. -/
theorem claimedListener_core (r : TransportServerResource) :
    claimedListener s.core r.core = claimedListener s r := by
  rw [claimedListener, declaredListener?_core]
  rfl

/-- The plan with the cores of its transport servers. -/
def ListenerPlan.core (p : ListenerPlan) : ListenerPlan :=
  ⟨p.servers.map TransportServerResource.core, p.listeners.map TransportServerResource.core⟩

/-- The listeners are decided on the cores of the objects. As for the hosts, the problems need no
case of their own: they are read off the plan. -/
theorem listenerPlan_core : listenerPlan s.core = (listenerPlan s).core := by
  have hclaimants : s.core.listeningServers.map (listeningResource s.core) =
      (s.listeningServers.map (listeningResource s)).map TransportServerResource.core := by
    rw [listeningServers_core, List.map_map, List.map_map]
    exact List.map_congr_left fun ts _ => listeningResource_core s ts
  -- As for the hosts: the same servers claim the same listeners.
  have hagrees : (listenerContest s.core).Agrees (listenerContest s) := by
    rw [listenerContest, hclaimants]
    exact contest_map_agrees (fun _ => rfl) (claimedListener_core s)
  have hservers : (listenerPlan s.core).servers =
      (listenerPlan s).servers.map TransportServerResource.core := by
    refine List.ext_getElem? fun i => ?_
    rw [getElem?_servers, List.getElem?_map, getElem?_servers, listeningServers_core,
      List.getElem?_map, Option.map_map, Option.map_map]
    congr 1
    funext ts
    rw [Function.comp_apply, Function.comp_apply, hagrees.lost_eq, listeningResource_core]
    rfl
  have hlisteners : (listenerPlan s.core).listeners =
      (listenerPlan s).listeners.map TransportServerResource.core := by
    show ((listenerContest s.core).holders.filterMap fun c =>
      (listenerPlan s.core).servers[c.claimant]?) = _
    rw [hservers]
    exact hagrees.holding_map TransportServerResource.core _
  rw [ListenerPlan.core, ← hservers, ← hlisteners]

end Listeners

/-! ## 5. Holders -/

/-- What has a slot is decided on the cores of the objects. Hosts and listeners are the two kinds of
slot, and there is one plan for each. -/
theorem holders_core {a : Admission} (ha : a.ReadsCores) (passthrough : Bool) (s : Store)
    (slot : Slot) :
    s.core.holders a passthrough slot = (s.holders a passthrough slot).map Resource.core := by
  cases slot with
  | host h =>
    show (hostPlan a passthrough s.core).hosts.get? h = _
    rw [hostPlan_core s ha]
    exact Table.get?_map _ _ h
  | listener n =>
    show ((listenerPlan s.core).listeners.map Resource.transportServer).get? n =
      (((listenerPlan s).listeners.map Resource.transportServer).get? n).map Resource.core
    rw [listenerPlan_core s, ListenerPlan.core, Table.get?_map, Table.get?_map, Table.get?_map,
      Option.map_map, Option.map_map]
    rfl

end Gatehouse
