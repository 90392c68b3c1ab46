import Gatehouse.Contest
import Gatehouse.Problem
import Gatehouse.Resource
import Gatehouse.Store

/-!
Listeners: which transport server is bound to which declared listener. Transport servers ask for a
listener by name and protocol; those that ask for a declared one get its port and contest it. All
ports are read off the same global configuration, so a declaration that swaps two ports never binds
one of them twice.
-/

set_option autoImplicit false

namespace Gatehouse

/-- A transport server with the port of the listener it asks for. -/
def listeningResource (s : Store) (ts : TransportServer) : TransportServerResource :=
  ⟨ts, ((s.declaredListener? ts.spec.listener).map (·.port.val)).getD 0, []⟩

/-- The listener that a transport server claims: the one it asks for, if it is declared. -/
def claimedListener (s : Store) (r : TransportServerResource) : List String :=
  ((s.declaredListener? r.server.spec.listener).map (·.name)).toList

/-- What a transport server is told about a listener that it lost. -/
def listenerTaken (listener : String) : String :=
  "listener " ++ listener ++ " is taken by another resource"

/-- The listeners and the transport servers of a store. -/
structure ListenerPlan where
  servers : List TransportServerResource
  listeners : Table TransportServerResource

/-- Decides which transport server is bound to which listener. -/
def listenerPlan (s : Store) : ListenerPlan :=
  let claimants := s.listeningServers.map (listeningResource s)
  let standing := contest (·.server.metadata) (claimedListener s) claimants
  let servers := claimants.zipIdx.map fun x =>
    { x.1 with warnings := (standing.lost x.2).map listenerTaken }
  ⟨servers, standing.holders.filterMap fun c => servers[c.claimant]?⟩

namespace ListenerPlan

/-- The problem of a transport server that is not bound to the listener it asks for. -/
def problem? (p : ListenerPlan) (r : TransportServerResource) : Option Problem :=
  let listener := r.server.spec.listener.name
  let problem (message : String) : Option Problem :=
    some (.warning (.transportServer r.server) .rejected message)
  match p.listeners.get? listener with
  | none => problem ("Listener " ++ listener ++ " doesn't exist")
  | some holder =>
    if r.equivalent holder then none
    else problem ("Listener " ++ listener ++ " is taken by another resource")

/-- The problems that stand, under the keys of the transport servers. -/
def problems (p : ListenerPlan) : Table Problem :=
  Table.ofList ((p.servers.filterMap p.problem?).map fun q => (q.key, q))

end ListenerPlan

end Gatehouse
