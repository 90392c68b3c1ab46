import Gatehouse.Dependency
import Gatehouse.Plan.Holders
import Gatehouse.Plan.Hosts
import Gatehouse.Plan.Listeners
import Gatehouse.Report

/-!
The configuration: what the controller has taken on, what that amounts to, and how it answers
events about objects.

An event edits the store: an applied object is taken on if it is meant for the controller and
nothing is wrong with it, and otherwise an earlier version of it is let go. Then what the event can
have touched is decided anew: the hosts, the listeners, or for a transport server the listeners and,
with passthrough, the hosts. The answer is what changes by that, and which problems are news. The
deletion of an object that is not there touches nothing.

A rejected object is reported once: on the change that removes it, if it was served, and as a
problem otherwise. A virtual server route is not a resource of its own, so its rejection is always
a problem.
-/

set_option autoImplicit false

namespace Gatehouse

/-! ## 1. The state -/

/-- What the controller has taken on, by which rules, and who holds what by it. -/
structure Configuration where
  isPlus : Bool
  passthrough : Bool
  admission : Admission
  store : Store
  hosts : Table Resource
  listeners : Table TransportServerResource
  hostProblems : Table Problem
  listenerProblems : Table Problem

namespace Configuration

/-- A configuration that has taken on nothing yet. -/
def fresh (f : Features) (a : Admission) : Configuration where
  isPlus := f.isPlus
  passthrough := f.tlsPassthroughEnabled
  admission := a
  store := Store.empty
  hosts := Table.empty
  listeners := Table.empty
  hostProblems := Table.empty
  listenerProblems := Table.empty

/-- The configuration with another store, before anything is decided anew. -/
def withStore (c : Configuration) (s : Store) : Configuration := { c with store := s }

/-- Decides anew who holds which host. -/
def rebuildHosts (c : Configuration) : Configuration × Report Resource :=
  let p := hostPlan c.admission c.passthrough c.store
  let problems := p.problems c.store
  ({ c with hosts := p.hosts, hostProblems := problems },
    ⟨holderChanges c.hosts p.hosts p.resources, Problem.news c.hostProblems problems⟩)

/-- Decides anew who is bound to which listener. -/
def rebuildListeners (c : Configuration) : Configuration × Report Resource :=
  let p := listenerPlan c.store
  ({ c with listeners := p.listeners, listenerProblems := p.problems },
    ⟨holderChanges (asResources c.listeners) (asResources p.listeners)
      (p.servers.map .transportServer), Problem.news c.listenerProblems p.problems⟩)

/-- Decides anew what transport servers can hold: listeners and, with passthrough, hosts. One that
moves between the two is released by one of the decisions and claims by the other; then the release
is left out. -/
def rebuildBoth (c : Configuration) : Configuration × Report Resource :=
  let (bound, listening) := c.rebuildListeners
  if c.passthrough then
    let (next, hosting) := bound.rebuildHosts
    let changes := dropReleases (listening.changes ++ hosting.changes)
    (next, ⟨Change.squash Resource.key changes, listening.problems ++ hosting.problems⟩)
  else (bound, listening)

/-! ## 2. Rejections -/

/-- Puts the error on the first change with the key. -/
def blame (key error : String) : List ResourceChange → List ResourceChange
  | [] => []
  | c :: cs =>
    if c.resource.key == key then { c with error := some error } :: cs else c :: blame key error cs

/-- Reports the rejection of an object: on the change of its resource when there is one, and as a
problem otherwise. -/
def reject (o : Object) (error message : String) (r : Report Resource) : Report Resource :=
  if r.changes.any fun c => c.resource.key == o.key then
    { r with changes := blame o.key error r.changes }
  else { r with problems := r.problems ++ [.rejection o message] }

/-- The problem text about a rejected custom object. -/
def rejectedMessage (o : Object) (error : String) : String :=
  o.kind.name ++ " " ++ o.metadata.key ++ " was rejected with error: " ++ error

/-- The table with the object if it is taken on, and without it if not. -/
def settleIn {α : Type} (t : Table α) (key : String) (o : α) (accepted : Bool) : Table α :=
  if accepted then t.insert key o else t.erase key

/-! ## 3. Events -/

/-- Takes an ingress on, or lets it go. -/
def applyIngress (c : Configuration) (i : Ingress) : Configuration × Report Resource :=
  let selected := c.admission.selectsIngress i
  let errors := c.admission.ingressErrors i
  let table := settleIn c.store.ingresses i.metadata.key i (selected && errors.isEmpty)
  let (next, report) := (c.withStore { c.store with ingresses := table }).rebuildHosts
  if selected && !errors.isEmpty then
    let error := FieldError.summary errors
    (next, reject (.ingress i) error error report)
  else (next, report)

/-- Takes a virtual server on, or lets it go. -/
def applyVirtualServer (c : Configuration) (vs : VirtualServer) : Configuration × Report Resource :=
  let selected := c.admission.selectsClassName vs.spec.ingressClassName
  let errors := c.admission.virtualServerErrors vs
  let table := settleIn c.store.virtualServers vs.metadata.key vs (selected && errors.isEmpty)
  let (next, report) := (c.withStore { c.store with virtualServers := table }).rebuildHosts
  if selected && !errors.isEmpty then
    let error := FieldError.summary errors
    (next, reject (.virtualServer vs) error (rejectedMessage (.virtualServer vs) error) report)
  else (next, report)

/-- Takes a virtual server route on, or lets it go. -/
def applyVirtualServerRoute (c : Configuration) (vsr : VirtualServerRoute) :
    Configuration × Report Resource :=
  let selected := c.admission.selectsClassName vsr.spec.ingressClassName
  let errors := c.admission.virtualServerRouteErrors vsr
  let table :=
    settleIn c.store.virtualServerRoutes vsr.metadata.key vsr (selected && errors.isEmpty)
  let (next, report) := (c.withStore { c.store with virtualServerRoutes := table }).rebuildHosts
  if selected && !errors.isEmpty then
    let message := rejectedMessage (.virtualServerRoute vsr) (FieldError.summary errors)
    let problem := Problem.rejection (.virtualServerRoute vsr) message
    (next, { report with problems := report.problems ++ [problem] })
  else (next, report)

/-- Takes a transport server on, or lets it go. -/
def applyTransportServer (c : Configuration) (ts : TransportServer) :
    Configuration × Report Resource :=
  let selected := c.admission.selectsClassName ts.spec.ingressClassName
  let errors := c.admission.transportServerErrors ts
  let table := settleIn c.store.transportServers ts.metadata.key ts (selected && errors.isEmpty)
  let (next, report) := (c.withStore { c.store with transportServers := table }).rebuildBoth
  if selected && !errors.isEmpty then
    let error := FieldError.summary errors
    (next, reject (.transportServer ts) error (rejectedMessage (.transportServer ts) error) report)
  else (next, report)

/-- Replaces the global configuration. One that is wrong leaves none, and its errors are part of the
answer. -/
def applyGlobalConfiguration (c : Configuration) (g : GlobalConfiguration) :
    Configuration × Report Resource × List FieldError :=
  let errors := c.admission.globalConfigurationErrors g
  let kept := if errors.isEmpty then some g else none
  let (next, report) := (c.withStore { c.store with globalConfiguration := kept }).rebuildListeners
  (next, report, errors)

/-- Takes a policy on, or lets it go. No resource changes by it. -/
def applyPolicy (c : Configuration) (p : Policy) : Configuration :=
  let selected := c.admission.selectsClassName p.spec.ingressClassName
  let table := settleIn c.store.policies p.metadata.key p selected
  c.withStore { c.store with policies := table }

/-- Lets an object go: when it is there, what it can have held is decided anew. -/
def letGo (c : Configuration) (present : Bool) (without : Store)
    (rebuild : Configuration → Configuration × Report Resource) :
    Configuration × Report Resource :=
  if present then rebuild (c.withStore without) else (c, .empty)

/-- Lets an ingress go. -/
def deleteIngress (c : Configuration) (key : String) : Configuration × Report Resource :=
  c.letGo (c.store.ingresses.contains key)
    { c.store with ingresses := c.store.ingresses.erase key } rebuildHosts

/-- Lets a virtual server go. -/
def deleteVirtualServer (c : Configuration) (key : String) : Configuration × Report Resource :=
  c.letGo (c.store.virtualServers.contains key)
    { c.store with virtualServers := c.store.virtualServers.erase key } rebuildHosts

/-- Lets a virtual server route go. -/
def deleteVirtualServerRoute (c : Configuration) (key : String) : Configuration × Report Resource :=
  c.letGo (c.store.virtualServerRoutes.contains key)
    { c.store with virtualServerRoutes := c.store.virtualServerRoutes.erase key } rebuildHosts

/-- Lets a transport server go. -/
def deleteTransportServer (c : Configuration) (key : String) : Configuration × Report Resource :=
  c.letGo (c.store.transportServers.contains key)
    { c.store with transportServers := c.store.transportServers.erase key } rebuildBoth

/-- Lets the global configuration go. -/
def deleteGlobalConfiguration (c : Configuration) : Configuration × Report Resource :=
  (c.withStore { c.store with globalConfiguration := none }).rebuildListeners

/-- Lets a policy go. -/
def deletePolicy (c : Configuration) (key : String) : Configuration :=
  c.withStore { c.store with policies := c.store.policies.erase key }

/-! ## 4. Questions -/

/-- The resources that hold a host or a listener, of the kinds asked for, in the order of their
keys. -/
def resourcesOf (c : Configuration) (f : ResourceFilter) : List Resource :=
  (servedBy c.hosts c.listeners f).values

/-- The resources that hold a host or a listener, in the order of their keys. -/
def resources (c : Configuration) : List Resource := c.resourcesOf .all

/-- The first resource of every key. -/
def firstOfKeys : List Resource → List Resource
  | [] => []
  | r :: rs => r :: (firstOfKeys rs).filter fun q => q.key != r.key

/-- The resources that depend on an object: those of the hosts, in the order of the first host they
hold, then those of the listeners. -/
def dependents (c : Configuration) (d : Dependency) (space name : String) : List Resource :=
  firstOfKeys (c.hosts.values.filter (d.usedBy space name)) ++
    (asResources c.listeners).values.filter (d.usedBy space name)

/-- The resources that depend on a secret through their own fields. -/
def secretDependents (c : Configuration) (space name : String) : List Resource :=
  c.dependents (.secret c.isPlus) space name

/-- The policies that read a secret, in the order of their keys. -/
def policiesForSecret (c : Configuration) (space name : String) : List Policy :=
  Store.policiesForSecret c.store.policies.values space name

/-- How many transport servers are served, by the way they listen. -/
structure TransportCounts where
  passthrough : Nat
  tcp : Nat
  udp : Nat
  deriving DecidableEq

/-- The resource is a transport server. -/
def isTransport : Resource → Bool
  | .transportServer _ => true
  | _ => false

/-- Counts the hosts and the listeners that transport servers hold. -/
def transportCounts (c : Configuration) : TransportCounts :=
  let listening := c.listeners.values
  let tcp := (listening.filter fun r => r.server.spec.listener.protocol == "TCP").length
  { passthrough := if c.passthrough then (c.hosts.values.filter isTransport).length else 0
    tcp
    udp := listening.length - tcp }

end Configuration

end Gatehouse
