import Gatehouse.Plan.Delegation
import Gatehouse.Plan.Minions
import Gatehouse.Problem

/-!
Hosts: who serves which host. Ingresses other than minions, virtual servers and, when passthrough is
on, transport servers on the built-in listener contest the hosts that they name. A resource that
holds none of its hosts is not served; its owner is told so, and so are the owners of minions
without a master and of virtual server routes that no virtual server takes.
-/

set_option autoImplicit false

namespace Gatehouse

/-! ## 1. The contest -/

namespace Resource

/-- An ingress on its own, before hosts are decided. -/
def plainIngress (i : Ingress) : IngressResource :=
  ⟨i, false, [], Table.empty, [], Table.empty⟩

/-- The hosts that a resource asks for. -/
def hosts : Resource → List String
  | .ingress r => r.ingress.hosts
  | .virtualServer r => [r.server.spec.host]
  | .transportServer r => [r.server.spec.host]

end Resource

/-- The ingress resource of an ingress that is not a minion, before hosts are decided. -/
def ingressResource (s : Store) (i : Ingress) : IngressResource :=
  if i.isMaster then masterResource s i else Resource.plainIngress i

/-- The claimants for hosts: ingresses, virtual servers and transport servers, each kind in the
order of its keys. -/
def hostClaimants (a : Admission) (passthrough : Bool) (s : Store) : List Resource :=
  s.mainIngresses.map (fun i => .ingress (ingressResource s i)) ++
  s.virtualServers.values.map (fun vs => .virtualServer (virtualServerResource a s vs)) ++
  if passthrough then s.passthroughServers.map fun ts => .transportServer ⟨ts, 0, []⟩ else []

/-- The contest of resources for their hosts. -/
def hostContest (claimants : List Resource) : Standing :=
  contest (·.metadata) (·.hosts) claimants

/-- What a resource is told about a host that it lost. -/
def hostTaken (host : String) : String := "host " ++ host ++ " is taken by another resource"

/-- A claimant with the outcome of the contest: warnings about the hosts that it lost and, for an
ingress, which of its hosts it holds. -/
def Resource.decided (standing : Standing) (number : Nat) : Resource → Resource
  | .ingress r =>
    .ingress { r with
      warnings := r.warnings ++ (standing.lost number).map hostTaken
      validHosts := Table.ofList (r.ingress.hosts.map fun h => (h, standing.isHolder number h)) }
  | .virtualServer r =>
    .virtualServer { r with warnings := r.warnings ++ (standing.lost number).map hostTaken }
  | .transportServer r =>
    .transportServer { r with warnings := r.warnings ++ (standing.lost number).map hostTaken }

/-- The hosts and the resources of a store. -/
structure HostPlan where
  resources : List Resource
  hosts : Table Resource

/-- Decides who serves which host. -/
def hostPlan (a : Admission) (passthrough : Bool) (s : Store) : HostPlan :=
  let claimants := hostClaimants a passthrough s
  let standing := hostContest claimants
  let resources := claimants.zipIdx.map fun x => x.1.decided standing x.2
  ⟨resources, standing.holders.filterMap fun c => resources[c.claimant]?⟩

/-! ## 2. The problems that stand -/

namespace HostPlan

/-- A resource of that key holds the host. -/
def isServedBy (p : HostPlan) (host key : String) : Bool :=
  (p.hosts.get? host).any fun r => r.key == key

/-- A resource holds at least one of its hosts. -/
def isServed (p : HostPlan) (r : Resource) : Bool :=
  match r with
  | .ingress i => i.validHosts.values.any id
  | .virtualServer v => p.isServedBy v.server.spec.host r.key
  | .transportServer t => p.isServedBy t.server.spec.host r.key

/-- What the owner of a resource is told that holds no host. -/
def unservedMessage : Resource → String
  | .ingress _ => "All hosts are taken by other resources"
  | .virtualServer _ | .transportServer _ => "Host is taken by another resource"

/-- The problem of a resource that holds no host. -/
def resourceProblem? (p : HostPlan) (r : Resource) : Option Problem :=
  if p.isServed r then none
  else some (.warning r.object .rejected (unservedMessage r))

/-- A master holds the host. -/
def hasMaster (p : HostPlan) (host : String) : Bool :=
  match p.hosts.get? host with
  | some (.ingress r) => r.isMaster
  | _ => false

/-- The problem of a minion without a master. -/
def minionProblem? (p : HostPlan) (i : Ingress) : Option Problem :=
  if p.hasMaster i.firstHost then none
  else some (.warning (.ingress i) .noIngressMasterFound
    "Ingress master is invalid or doesn't exist")

/-- The virtual server hands a path to the virtual server route. -/
def takes (r : VirtualServerResource) (vsr : VirtualServerRoute) : Bool :=
  r.routes.any fun q =>
    q.metadata.space == vsr.metadata.space && q.metadata.name == vsr.metadata.name

/-- The problem of a virtual server route that no virtual server takes. -/
def routeProblem? (p : HostPlan) (vsr : VirtualServerRoute) : Option Problem :=
  match p.hosts.get? vsr.spec.host with
  | some (.virtualServer r) =>
    if takes r vsr then none
    else some (.warning (.virtualServerRoute vsr) .ignored
      ("VirtualServer " ++ r.server.metadata.key ++ " ignores VirtualServerRoute"))
  | _ => some (.warning (.virtualServerRoute vsr) .noVirtualServerFound
      "VirtualServer is invalid or doesn't exist")

/-- The problems that stand, under the keys of the objects. -/
def problems (p : HostPlan) (s : Store) : Table Problem :=
  Table.ofList ((p.resources.filterMap p.resourceProblem? ++
    s.minions.filterMap p.minionProblem? ++
    s.virtualServerRoutes.values.filterMap p.routeProblem?).map fun q => (q.key, q))

end HostPlan

end Gatehouse
