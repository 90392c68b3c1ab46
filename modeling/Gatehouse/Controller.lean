import Gatehouse.AppProtect
import Gatehouse.Configuration
import Gatehouse.Dos
import Gatehouse.Notice

/-!
The controller: it hands every event to the store that the kind belongs to, tells what follows, and
tells which resources depend on an object that came, changed or went. Of the global configurations
only one counts, which is given by its key.

Objects that no store keeps (services, endpoints, secrets) only have dependents. A secret can be
used by a resource itself or by a policy, so the dependents of the policies that read it are told as
well. Signatures have no dependents of their own, but the policies that they turn have.
-/

set_option autoImplicit false

namespace Gatehouse

/-- The stores, and the key of the global configuration that counts. -/
structure Controller where
  configuration : Configuration
  appProtect : AppProtect
  dos : Dos
  globalKey : Option String

namespace Controller

/-- A controller that has seen no event. -/
def fresh (className : String) (f : Features) (globalKey : Option String) : Controller :=
  { configuration := .fresh f (.checked className f)
    appProtect := .empty
    dos := .fresh f.appProtectDosEnabled
    globalKey }

/-- What an event leads to. -/
abbrev Outcome := Controller × List Notice

/-! ## 1. Dependents -/

/-- Tells which resources depend on an object, if any do. -/
def affected (c : Configuration) (d : Dependency) (kind : Kind) (space name : String) :
    List Notice :=
  match c.dependents d space name with
  | [] => []
  | resources => [.affected kind space name (resources.map (·.key))]

/-- The dependents of a policy. -/
def policyAffected (c : Configuration) (space name : String) : List Notice :=
  affected c .policy .policy space name

/-- The dependents of a secret: those that use it, and those of the policies that read it. -/
def secretAffected (c : Configuration) (space name : String) : List Notice :=
  affected c (.secret c.isPlus) .secret space name ++
    (c.policiesForSecret space name).flatMap fun p =>
      policyAffected c p.metadata.spaceOrEmpty p.metadata.shownName

/-- The dependents of an App Protect policy. -/
def apPolicyAffected (c : Configuration) (space name : String) : List Notice :=
  affected c (.annotated Annotations.appProtectPolicy) .apPolicy space name

/-- The dependents of an App Protect log configuration. -/
def apLogConfAffected (c : Configuration) (space name : String) : List Notice :=
  affected c (.annotated Annotations.appProtectSecurityLog) .apLogConf space name

/-- The dependents of the protected resources among the changes. -/
def protectedAffected (c : Configuration) (changes : List (Change DosResource)) : List Notice :=
  changes.flatMap fun change => match change.resource with
    | .protectedResource p =>
      affected c .dosProtected .dosProtected p.metadata.spaceOrEmpty p.metadata.shownName
    | .policy _ | .logConf _ => []

/-! ## 2. What the stores answer -/

/-- The controller with another configuration, and the notices about what follows. -/
def withConfiguration (c : Controller) (r : Configuration × Report Resource) : Outcome :=
  ({ c with configuration := r.1 }, Notice.ofReport Resource.key r.2)

/-- The controller with another App Protect store, and the notices about what follows. -/
def withAppProtect {σ : Type} (c : Controller) (kind : Kind)
    (r : AppProtect × Report (Custom σ)) : Outcome :=
  ({ c with appProtect := r.1 },
    Notice.ofReport (fun o => joinKey kind.name o.metadata.key) r.2)

/-- The controller with another DoS store, and the notices about what follows. -/
def withDos (c : Controller) (r : Dos × Report DosResource) : Outcome :=
  ({ c with dos := r.1 },
    Notice.ofReport DosResource.key r.2 ++ protectedAffected c.configuration r.2.changes)

/-- The notices about policies that signatures turned. -/
def policiesTurned (c : Configuration) (op : Change.Op) (policies : List ApPolicy) :
    List Notice :=
  policies.flatMap fun p =>
    let space := p.metadata.spaceOrEmpty
    let name := p.metadata.shownName
    .policyTurned op (joinKey space name) :: apPolicyAffected c space name

/-- The controller with other signatures, and the notices about what follows. -/
def withSignatures (c : Controller) (r : AppProtect × AppProtect.SignatureReport) : Outcome :=
  ({ c with appProtect := r.1 },
    policiesTurned c.configuration .delete r.2.lostPolicies ++
    policiesTurned c.configuration .addOrUpdate r.2.gainedPolicies ++
    [.usableSignatures r.2.signatures.length] ++ r.2.problems.map .problem)

/-- The outcome with more notices, which see the configuration after the event. -/
def andThen (o : Outcome) (more : Configuration → List Notice) : Outcome :=
  (o.1, o.2 ++ more o.1.configuration)

/-! ## 3. Events -/

/-- The global configuration of this key is the one that counts. -/
def counts (c : Controller) (key : String) : Bool := c.globalKey == some key

/-- A global configuration came or changed. -/
def applyGlobalConfiguration (c : Controller) (g : GlobalConfiguration) : Outcome :=
  let key := g.metadata.key
  if c.counts key then
    let (next, report, errors) := c.configuration.applyGlobalConfiguration g
    let (after, notices) := c.withConfiguration (next, report)
    (after, (if errors.isEmpty then [] else [.badGlobalConfiguration key errors]) ++ notices)
  else (c, [.otherGlobalConfiguration key])

/-- An object came or changed. -/
def apply (c : Controller) (o : Object) : Outcome :=
  let space := o.metadata.spaceOrEmpty
  let name := o.metadata.shownName
  match o with
  | .ingress o => c.withConfiguration (c.configuration.applyIngress o)
  | .virtualServer o => c.withConfiguration (c.configuration.applyVirtualServer o)
  | .virtualServerRoute o => c.withConfiguration (c.configuration.applyVirtualServerRoute o)
  | .transportServer o => c.withConfiguration (c.configuration.applyTransportServer o)
  | .globalConfiguration o => c.applyGlobalConfiguration o
  | .policy o =>
    andThen ({ c with configuration := c.configuration.applyPolicy o }, []) fun after =>
      policyAffected after space name
  | .service _ => (c, affected c.configuration (.service false) .service space name)
  | .endpoints _ => (c, affected c.configuration (.service true) .endpoints space name)
  | .secret _ => (c, secretAffected c.configuration space name)
  | .apPolicy o =>
    andThen (c.withAppProtect .apPolicy (c.appProtect.applyPolicy o)) fun after =>
      apPolicyAffected after space name
  | .apLogConf o =>
    andThen (c.withAppProtect .apLogConf (c.appProtect.applyLogConf o)) fun after =>
      apLogConfAffected after space name
  | .apUserSig o => c.withSignatures (c.appProtect.applyUserSig o)
  | .dosPolicy o => c.withDos (c.dos.applyPolicy o)
  | .dosLogConf o => c.withDos (c.dos.applyLogConf o)
  | .dosProtected o => c.withDos (c.dos.applyProtected o)

/-- An object went. -/
def delete (c : Controller) (kind : Kind) (space name : String) : Outcome :=
  let key := joinKey space name
  match kind with
  | .ingress => c.withConfiguration (c.configuration.deleteIngress key)
  | .virtualServer => c.withConfiguration (c.configuration.deleteVirtualServer key)
  | .virtualServerRoute => c.withConfiguration (c.configuration.deleteVirtualServerRoute key)
  | .transportServer => c.withConfiguration (c.configuration.deleteTransportServer key)
  | .globalConfiguration =>
    if c.counts key then c.withConfiguration c.configuration.deleteGlobalConfiguration
    else (c, [])
  | .policy =>
    andThen ({ c with configuration := c.configuration.deletePolicy key }, []) fun after =>
      policyAffected after space name
  | .service => (c, affected c.configuration (.service false) .service space name)
  | .endpoints => (c, affected c.configuration (.service true) .endpoints space name)
  | .secret => (c, secretAffected c.configuration space name)
  | .apPolicy =>
    andThen (c.withAppProtect .apPolicy (c.appProtect.deletePolicy key)) fun after =>
      apPolicyAffected after space name
  | .apLogConf =>
    andThen (c.withAppProtect .apLogConf (c.appProtect.deleteLogConf key)) fun after =>
      apLogConfAffected after space name
  | .apUserSig => c.withSignatures (c.appProtect.deleteUserSig key)
  | .dosPolicy => c.withDos (c.dos.deletePolicy key)
  | .dosLogConf => c.withDos (c.dos.deleteLogConf key)
  | .dosProtected => c.withDos (c.dos.deleteProtected key)

/-- All objects of a kind were listed anew: those that there are came, and then those that are gone
went. -/
def reset (c : Controller) (kind : Kind) (objects : List Object)
    (gone : List (String × String)) : Outcome :=
  let applied := objects.foldl (fun (o : Outcome) object =>
    let (next, notices) := o.1.apply object
    (next, o.2 ++ notices)) (c, [])
  gone.foldl (fun (o : Outcome) key =>
    let (next, notices) := o.1.delete kind key.1 key.2
    (next, o.2 ++ notices)) applied

end Controller

end Gatehouse
