import Gatehouse.Kind
import Gatehouse.Seniority

/-!
Resources: what the proxy is configured with. A resource is an admitted object together with what
the controller found out about it: the minions of an ingress, the virtual server routes of a virtual
server, the port of a transport server, and warnings.

Two resources are *equivalent* when they would be rendered alike. The generations of the objects
stand for their specifications, so a change of a status or of a version number alone does not make a
difference.
-/

set_option autoImplicit false

namespace Gatehouse

/-! ## 1. Resources -/

/-- A minion of a master, and which of its paths it has. -/
structure Minion where
  ingress : Ingress
  validPaths : Table Bool
  deriving DecidableEq

/-- An ingress that is not a minion. -/
structure IngressResource where
  ingress : Ingress
  isMaster : Bool
  minions : List Minion
  validHosts : Table Bool
  warnings : List String
  childWarnings : Table (List String)
  deriving DecidableEq

/-- A virtual server and the virtual server routes it delegates to. -/
structure VirtualServerResource where
  server : VirtualServer
  routes : List VirtualServerRoute
  warnings : List String
  deriving DecidableEq

/-- A transport server and the port of its listener, 0 when no such listener is declared. -/
structure TransportServerResource where
  server : TransportServer
  port : Int
  warnings : List String
  deriving DecidableEq

/-- What the proxy is configured with. -/
inductive Resource
  | ingress (r : IngressResource)
  | virtualServer (r : VirtualServerResource)
  | transportServer (r : TransportServerResource)
  deriving DecidableEq

namespace Resource

/-- The main object. -/
def object : Resource → Object
  | .ingress r => .ingress r.ingress
  | .virtualServer r => .virtualServer r.server
  | .transportServer r => .transportServer r.server

/-- The metadata of the main object. -/
def metadata : Resource → Meta
  | .ingress r => r.ingress.metadata
  | .virtualServer r => r.server.metadata
  | .transportServer r => r.server.metadata

/-- The kind of the main object. -/
def kind : Resource → Kind
  | .ingress _ => .ingress
  | .virtualServer _ => .virtualServer
  | .transportServer _ => .transportServer

@[simp] theorem kind_object (r : Resource) : r.object.kind = r.kind := by cases r <;> rfl

@[simp] theorem metadata_object (r : Resource) : r.object.metadata = r.metadata := by
  cases r <;> rfl

/-- The warnings about the main object. -/
def warnings : Resource → List String
  | .ingress r => r.warnings
  | .virtualServer r => r.warnings
  | .transportServer r => r.warnings

/-- The key of a resource: the kind and the key of its main object. -/
def key (r : Resource) : String := joinKey r.kind.name r.metadata.key

@[simp] theorem key_object (r : Resource) : r.object.key = r.key := by cases r <;> rfl

/-- The first resource is senior to the second. -/
def wins (a b : Resource) : Bool := a.metadata.wins b.metadata

end Resource

/-! ## 2. Equivalence -/

/-- The same object in the same generation. -/
def Meta.sameGeneration (a b : Meta) : Bool :=
  a.space == b.space && a.name == b.name && a.generation == b.generation

/-- The same object in the same generation and with the same annotations. -/
def Meta.sameGenerationAndAnnotations (a b : Meta) : Bool :=
  a.sameGeneration b && a.annotations == b.annotations

/-- The lists have the same length, and items at the same place are alike. -/
def alike {α : Type} (same : α → α → Bool) : List α → List α → Bool
  | [], [] => true
  | a :: as, b :: bs => same a b && alike same as bs
  | _, _ => false

namespace TransportServerResource

/-- The two would be rendered alike. -/
def equivalent (a b : TransportServerResource) : Bool :=
  a.server.metadata.sameGeneration b.server.metadata && a.port == b.port

/-- The key of the resource. -/
def key (r : TransportServerResource) : String := (Resource.transportServer r).key

end TransportServerResource

namespace Resource

/-- The two would be rendered alike. -/
def equivalent : Resource → Resource → Bool
  | .ingress a, .ingress b =>
    a.ingress.metadata.sameGenerationAndAnnotations b.ingress.metadata &&
      a.validHosts == b.validHosts && a.isMaster == b.isMaster &&
      alike (fun m n =>
        m.ingress.metadata.sameGenerationAndAnnotations n.ingress.metadata) a.minions b.minions
  | .virtualServer a, .virtualServer b =>
    a.server.metadata.sameGeneration b.server.metadata &&
      alike (fun r s => r.metadata.sameGeneration s.metadata) a.routes b.routes
  | .transportServer a, .transportServer b => a.equivalent b
  | _, _ => false

end Resource

/-! ## 3. Selections -/

/-- Which kinds of resource are asked for. -/
structure ResourceFilter where
  ingresses : Bool
  virtualServers : Bool
  transportServers : Bool
  deriving DecidableEq

/-- Every kind. -/
def ResourceFilter.all : ResourceFilter := ⟨true, true, true⟩

/-- The kind of the resource is asked for. -/
def ResourceFilter.accepts (f : ResourceFilter) : Resource → Bool
  | .ingress _ => f.ingresses
  | .virtualServer _ => f.virtualServers
  | .transportServer _ => f.transportServers

end Gatehouse
