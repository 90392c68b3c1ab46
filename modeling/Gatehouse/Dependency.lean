import Gatehouse.Resource

/-!
Dependencies: which resources have to be rendered again when an object that they refer to changes.
The object is given by its namespace and its name and need not exist. Secrets, services and
endpoints are looked for in the namespace of the object that refers; policies and the objects of the
firewalls may be named with a namespace.

What can refer to what:

* a secret: ingresses and virtual servers by TLS; with NGINX Plus also ingresses and minions by the
  key of their tokens;
* a service: everything, by its backends or upstreams. The endpoints of a service have its name, but
  upstreams that go through the cluster address do not depend on them;
* a policy: virtual servers and virtual server routes;
* an App Protect object: ingresses that list it in an annotation, but not minions;
* a protected resource: ingresses by an annotation, virtual servers and virtual server routes.
-/

set_option autoImplicit false

namespace Gatehouse

/-- A kind of object that resources refer to. -/
inductive Dependency
  | secret (isPlus : Bool)
  | service (skipClusterIp : Bool)
  | policy
  | annotated (label : String)
  | dosProtected
  deriving DecidableEq

/-! ## 1. Parts that refer -/

/-- The ingress names the secret as the key of its tokens. -/
def Ingress.readsTokenKey (i : Ingress) (name : String) : Bool :=
  i.metadata.annotation? Annotations.jwtKey == some name

/-- The ingress sends requests to the service. -/
def Ingress.sendsTo (i : Ingress) (service : String) : Bool :=
  i.backends.any fun b => b.serviceName? == some service

/-- The upstream goes to the service. With `skipClusterIp` an upstream that goes through the cluster
address does not count. -/
def HttpUpstream.sendsTo (skipClusterIp : Bool) (service : String) (u : HttpUpstream) : Bool :=
  !(skipClusterIp && u.useClusterIp) && u.service == service

/-- The reference means the policy; without a namespace it means the namespace of the object that
refers. -/
def PolicyRef.means (home space name : String) (p : PolicyRef) : Bool :=
  p.name == name && (if p.space.isEmpty then home else p.space) == space

/-- The route refers to the policy. -/
def Route.usesPolicy (home space name : String) (r : Route) : Bool :=
  r.policies.any (·.means home space name)

namespace Dependency

/-! ## 2. Objects that refer -/

/-- The ingress, not as a minion, refers to the object. -/
def usedByIngress (d : Dependency) (space name : String) (i : Ingress) : Bool :=
  let home := i.metadata.spaceOrEmpty
  match d with
  | secret isPlus =>
    i.metadata.space == some space &&
      (i.tls.any (fun t => t.secretName == some name) || isPlus && i.readsTokenKey name)
  | service _ => i.metadata.space == some space && i.sendsTo name
  | policy => false
  | annotated label =>
    (i.metadata.annotation? label).any fun references =>
      (Text.splitAll ',' references).any fun r => refersTo r space name home
  | dosProtected =>
    (i.metadata.annotation? Annotations.dosResource).any fun r => refersTo r space name home

/-- The minion refers to the object. -/
def usedByMinion (d : Dependency) (space name : String) (i : Ingress) : Bool :=
  match d with
  | secret isPlus => i.metadata.space == some space && (isPlus && i.readsTokenKey name)
  | service _ => i.metadata.space == some space && i.sendsTo name
  | policy | annotated _ | dosProtected => false

/-- The virtual server refers to the object. -/
def usedByVirtualServer (d : Dependency) (space name : String) (vs : VirtualServer) : Bool :=
  let home := vs.metadata.spaceOrEmpty
  match d with
  | secret _ => vs.metadata.space == some space && vs.spec.tls.any fun t => t.secret == name
  | service skipClusterIp =>
    vs.metadata.space == some space && vs.spec.upstreams.any (·.sendsTo skipClusterIp name)
  | policy =>
    vs.spec.policies.any (·.means home space name) ||
      vs.spec.routes.any (·.usesPolicy home space name)
  | annotated _ => false
  | dosProtected =>
    (vs.spec.dos :: vs.spec.routes.map (·.dos)).any fun r => refersTo r space name home

/-- The virtual server route refers to the object. -/
def usedByVirtualServerRoute (d : Dependency) (space name : String) (vsr : VirtualServerRoute) :
    Bool :=
  let home := vsr.metadata.spaceOrEmpty
  match d with
  | secret _ | annotated _ => false
  | service skipClusterIp =>
    vsr.metadata.space == some space && vsr.spec.upstreams.any (·.sendsTo skipClusterIp name)
  | policy => vsr.spec.subroutes.any (·.usesPolicy home space name)
  | dosProtected => vsr.spec.subroutes.any fun r => refersTo r.dos space name home

/-- The transport server refers to the object. -/
def usedByTransportServer (d : Dependency) (space name : String) (ts : TransportServer) : Bool :=
  match d with
  | service _ =>
    ts.metadata.space == some space && ts.spec.upstreams.any fun u => u.service == name
  | secret _ | policy | annotated _ | dosProtected => false

/-! ## 3. Resources that depend -/

/-- The resource depends on the object: its main object refers to it, or one of its minions or
virtual server routes does. -/
def usedBy (d : Dependency) (space name : String) : Resource → Bool
  | .ingress r =>
    d.usedByIngress space name r.ingress ||
      r.minions.any fun m => d.usedByMinion space name m.ingress
  | .virtualServer r =>
    d.usedByVirtualServer space name r.server ||
      r.routes.any (d.usedByVirtualServerRoute space name)
  | .transportServer r => d.usedByTransportServer space name r.server

end Dependency

end Gatehouse
