import Gatehouse.Admission
import Gatehouse.Kind

/-!
The store: the objects that the controller has taken on, each kind in a table of its own under the
keys of the objects, and the global configuration, of which there is at most one. Everything else
the controller knows about them is computed from the store (see `Gatehouse.Configuration`).
-/

set_option autoImplicit false

namespace Gatehouse

/-- The objects that are taken on. -/
structure Store where
  ingresses : Table Ingress
  virtualServers : Table VirtualServer
  virtualServerRoutes : Table VirtualServerRoute
  transportServers : Table TransportServer
  policies : Table Policy
  globalConfiguration : Option GlobalConfiguration
  deriving DecidableEq

namespace Store

/-- Nothing is taken on. -/
def empty : Store :=
  ⟨Table.empty, Table.empty, Table.empty, Table.empty, Table.empty, none⟩

/-- The masters and the ingresses on their own, in the order of their keys. -/
def mainIngresses (s : Store) : List Ingress := s.ingresses.values.filter fun i => !i.isMinion

/-- The minions, in the order of their keys. -/
def minions (s : Store) : List Ingress := s.ingresses.values.filter (·.isMinion)

/-- The transport servers that ask for the built-in listener, in the order of their keys. -/
def passthroughServers (s : Store) : List TransportServer :=
  s.transportServers.values.filter (·.spec.listener.isPassthrough)

/-- The transport servers that ask for a declared listener, in the order of their keys. -/
def listeningServers (s : Store) : List TransportServer :=
  s.transportServers.values.filter fun ts =>
    ts.spec.listener.protocol != ListenerRef.passthroughProtocol

/-- The listener that the global configuration declares under the name and the protocol that are
asked for. -/
def declaredListener? (s : Store) (asked : ListenerRef) : Option Listener :=
  s.globalConfiguration.bind fun g =>
    g.spec.listeners.find? fun l => l.name == asked.name && l.protocol == asked.protocol

/-- The policies of a namespace that read a secret of it, in the order of their keys. -/
def policiesForSecret (policies : List Policy) (space name : String) : List Policy :=
  policies.filter fun p => p.metadata.space == some space && p.spec.secretNames.contains name

end Store

end Gatehouse
