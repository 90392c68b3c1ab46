import Gatehouse.Dos.Fault
import Gatehouse.Report

/-!
App Protect DoS: its policies, log configurations and protected resources. Every object is stored,
valid or not, with what is wrong with it on its own. A protected resource may name a policy and a log
configuration, and it is served while it is valid and both can be used. When a policy or a log
configuration changes, every protected resource that names it is evaluated again, as if it came
again, in the order of the keys.
-/

set_option autoImplicit false

namespace Gatehouse

/-! ## 1. The store -/

/-- A stored object, and what is wrong with it on its own. -/
structure DosEntry (α : Type) where
  object : α
  complaint : Option String

namespace DosEntry

/-- A policy as it is stored. -/
def ofPolicy (p : DosPolicy) : DosEntry DosPolicy :=
  ⟨p, p.spec.complaint? p.metadata.shownName⟩

/-- A log configuration as it is stored. -/
def ofLogConf (l : LogConf) : DosEntry LogConf := ⟨l, l.spec.dosComplaint? l.metadata.shownName⟩

/-- A protected resource as it is stored. -/
def ofProtected (p : DosProtected) : DosEntry DosProtected :=
  ⟨p, p.spec.complaint? p.metadata.shownName⟩

end DosEntry

/-- The stored objects, under their keys, and whether the firewall is switched on. -/
structure Dos where
  isEnabled : Bool
  policies : Table (DosEntry DosPolicy)
  logConfs : Table (DosEntry LogConf)
  protectedResources : Table (DosEntry DosProtected)

/-- An object of the DoS firewall. -/
inductive DosResource
  | policy (o : DosPolicy)
  | logConf (o : LogConf)
  | protectedResource (o : DosProtected)

namespace DosResource

/-- The kind of an object. -/
def kind : DosResource → Kind
  | policy _ => .dosPolicy
  | logConf _ => .dosLogConf
  | protectedResource _ => .dosProtected

/-- The metadata of an object. -/
def metadata : DosResource → Meta
  | policy o => o.metadata
  | logConf o => o.metadata
  | protectedResource o => o.metadata

/-- The key of an object with its kind. -/
def key (r : DosResource) : String := joinKey r.kind.name r.metadata.key

/-- The object among those of all kinds. -/
def object : DosResource → Object
  | policy o => .dosPolicy o
  | logConf o => .dosLogConf o
  | protectedResource o => .dosProtected o

/-- The report that an object is refused. -/
def refused (r : DosResource) (message : String) : Report DosResource := .refused r.object r message

end DosResource

/-! ## 2. What a protected resource names -/

/-- The two kinds of object that a protected resource names. -/
inductive DosPart
  | policy
  | logConf
  deriving DecidableEq

namespace DosPart

/-- The name of the kind in messages about references. -/
def name : DosPart → String
  | policy => "DosPolicy"
  | logConf => "DosLogConf"

/-- The name of the kind in messages about stored objects. -/
def storedName : DosPart → String
  | policy => "ApDosPolicy"
  | logConf => "ApDosLogconf"

/-- The reference of a protected resource. -/
def reference? (part : DosPart) (p : DosProtected) : Option String :=
  match part with
  | policy => p.spec.policy?
  | logConf => p.spec.logConf?

/-- The key that a protected resource names. -/
def key? (part : DosPart) (p : DosProtected) : Option String :=
  (part.reference? p).map (qualify p.metadata.spaceOrEmpty)

end DosPart

/-- Why an object that is named cannot be used. -/
inductive Unusable
  | missing (part : DosPart) (key : String)
  | faulty (part : DosPart) (complaint : String)
  deriving DecidableEq

/-- The wording of why an object cannot be used. -/
def Unusable.message : Unusable → String
  | missing part key => part.name ++ " " ++ key ++ " not found"
  | faulty part complaint => "failed to store " ++ part.storedName ++ ": " ++ complaint

namespace Dos

/-- Nothing is stored. -/
def fresh (isEnabled : Bool) : Dos := ⟨isEnabled, Table.empty, Table.empty, Table.empty⟩

/-- The object that is stored under a key, if it can be used. -/
def usable {α : Type} (part : DosPart) (stored : Table (DosEntry α)) (key : String) :
    Except Unusable α :=
  match stored.get? key with
  | none => .error (.missing part key)
  | some entry => match entry.complaint with
    | none => .ok entry.object
    | some complaint => .error (.faulty part complaint)

/-- The policy of a key, if it can be used. -/
def policy (d : Dos) (key : String) : Except Unusable DosPolicy := usable .policy d.policies key

/-- The log configuration of a key, if it can be used. -/
def logConf (d : Dos) (key : String) : Except Unusable LogConf := usable .logConf d.logConfs key

/-- Why the object of a key cannot be used, if it cannot. -/
def unusable? (d : Dos) (part : DosPart) (key : String) : Option Unusable :=
  match part with
  | .policy => match d.policy key with
    | .ok _ => none
    | .error why => some why
  | .logConf => match d.logConf key with
    | .ok _ => none
    | .error why => some why

/-- The protected resources that name the object of a key, in the order of their own keys. -/
def referring (d : Dos) (part : DosPart) (key : String) : List DosProtected :=
  (d.protectedResources.values.map (·.object)).filter fun p => part.key? p == some key

/-! ## 3. Evaluation -/

/-- What the owner of a protected resource is told that names an object that cannot be used. -/
def brokenMessage (part : DosPart) (key : String) (why : Unusable) : String :=
  "dos protected refers (" ++ key ++ ") to an invalid " ++ part.name ++ ": " ++ why.message

/-- What is wrong with one of the references of a protected resource. -/
def brokenReference? (d : Dos) (part : DosPart) (p : DosProtected) : Option String :=
  (part.key? p).bind fun key => (d.unusable? part key).map (brokenMessage part key)

/-- What is wrong with a protected resource: something about itself, its policy, or its log
configuration. -/
def complaint? (d : Dos) (entry : DosEntry DosProtected) : Option String :=
  entry.complaint <|> d.brokenReference? .policy entry.object <|>
    d.brokenReference? .logConf entry.object

/-- Reports whether a protected resource is served. -/
def judge (d : Dos) (entry : DosEntry DosProtected) : Report DosResource :=
  match d.complaint? entry with
  | none => .put (.protectedResource entry.object)
  | some complaint => DosResource.refused (.protectedResource entry.object) complaint

/-- Stores a protected resource, and reports whether it is served. One that names an object that
cannot be used is stored as a valid one. -/
def evaluate (d : Dos) (p : DosProtected) : Dos × Report DosResource :=
  let entry := DosEntry.ofProtected p
  let next :=
    { d with protectedResources := d.protectedResources.insert p.metadata.key entry }
  (next, next.judge entry)

/-- Evaluates several protected resources, one after another. -/
def evaluateAll (d : Dos) : List DosProtected → Dos × Report DosResource
  | [] => (d, .empty)
  | p :: ps =>
    let (next, report) := d.evaluate p
    let (last, reports) := next.evaluateAll ps
    (last, report ++ reports)

/-- Evaluates the protected resources that name an object of which something has been reported. -/
def cascade (d : Dos) (part : DosPart) (key : String) (own : Report DosResource) :
    Dos × Report DosResource :=
  let (next, reports) := d.evaluateAll (d.referring part key)
  (next, own ++ reports)

/-! ## 4. Events -/

/-- Reports what is wrong with an object that is not reported as long as it is valid. -/
def ownReport {α : Type} (resource : α → DosResource) (entry : DosEntry α) : Report DosResource :=
  match entry.complaint with
  | none => .empty
  | some complaint => DosResource.refused (resource entry.object) complaint

/-- Stores a policy. -/
def applyPolicy (d : Dos) (p : DosPolicy) : Dos × Report DosResource :=
  let entry := DosEntry.ofPolicy p
  let next := { d with policies := d.policies.insert p.metadata.key entry }
  next.cascade .policy p.metadata.key (ownReport .policy entry)

/-- Stores a log configuration. -/
def applyLogConf (d : Dos) (l : LogConf) : Dos × Report DosResource :=
  let entry := DosEntry.ofLogConf l
  let next := { d with logConfs := d.logConfs.insert l.metadata.key entry }
  next.cascade .logConf l.metadata.key (ownReport .logConf entry)

/-- Stores a protected resource. -/
def applyProtected (d : Dos) (p : DosProtected) : Dos × Report DosResource := d.evaluate p

/-- Reports that an object is gone, if it was there. -/
def gone {α : Type} (resource : α → DosResource) (stored : Table (DosEntry α)) (key : String) :
    Report DosResource :=
  .removed ((stored.get? key).map fun entry => resource entry.object)

/-- Removes a policy. -/
def deletePolicy (d : Dos) (key : String) : Dos × Report DosResource :=
  let next := { d with policies := d.policies.erase key }
  next.cascade .policy key (gone .policy d.policies key)

/-- Removes a log configuration. -/
def deleteLogConf (d : Dos) (key : String) : Dos × Report DosResource :=
  let next := { d with logConfs := d.logConfs.erase key }
  next.cascade .logConf key (gone .logConf d.logConfs key)

/-- Removes a protected resource. -/
def deleteProtected (d : Dos) (key : String) : Dos × Report DosResource :=
  let next := { d with protectedResources := d.protectedResources.erase key }
  (next, gone .protectedResource d.protectedResources key)

/-! ## 5. Questions -/

/-- A protected resource that is served, with what it names. -/
structure Protection where
  protectedResource : DosProtected
  policy : Option DosPolicy
  logConf : Option LogConf

/-- Why a look-up has no answer. -/
inductive LookupError
  | disabled (key : String)
  | notFound (key : String)
  | invalid (complaint : String)
  | missingPolicy (why : Unusable)
  | missingLogConf (why : Unusable)
  deriving DecidableEq

/-- The wording of a look-up error. -/
def LookupError.message : LookupError → String
  | disabled key =>
    "DosProtectedResource is referenced but Dos feature is not enabled. resource: " ++ key
  | notFound key => "DosProtectedResource " ++ key ++ " not found"
  | invalid complaint => "failed to store DosProtectedResource: " ++ complaint
  | missingPolicy why => "DosProtectedResource references a missing DosPolicy: " ++ why.message
  | missingLogConf why => "DosProtectedResource references a missing DosLogConf: " ++ why.message

/-- The object that a protected resource names, if it names one and it can be used. -/
def named {α : Type} (find : String → Except Unusable α) (error : Unusable → LookupError)
    (key? : Option String) : Except LookupError (Option α) :=
  match key? with
  | none => .ok none
  | some key => match find key with
    | .ok o => .ok (some o)
    | .error why => .error (error why)

/-- The protected resource that a reference from a namespace means, with what it names. -/
def lookup (d : Dos) (home reference : String) : Except LookupError Protection :=
  let key := qualify home reference
  if !d.isEnabled then .error (.disabled key)
  else match d.protectedResources.get? key with
    | none => .error (.notFound key)
    | some entry => match entry.complaint with
      | some complaint => .error (.invalid complaint)
      | none => do
        let policy ← named d.policy .missingPolicy (DosPart.policy.key? entry.object)
        let logConf ← named d.logConf .missingLogConf (DosPart.logConf.key? entry.object)
        return ⟨entry.object, policy, logConf⟩

end Dos

end Gatehouse
