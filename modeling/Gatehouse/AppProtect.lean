import Gatehouse.AppProtect.Requirements
import Gatehouse.Report

/-!
App Protect: its policies, log configurations and user signatures. Every object is stored, valid or
not, with a status, so that whoever refers to it can be told why it cannot be used. A policy needs
signatures, and a signature that comes or goes can make any number of policies usable or unusable;
then their statuses are changed.
-/

set_option autoImplicit false

namespace Gatehouse

/-! ## 1. The store -/

/-- A stored log configuration: the object, and why it cannot be used. -/
structure StoredLogConf where
  logConf : LogConf
  status : Option Invalid

/-- A log configuration as it is stored. -/
def StoredLogConf.ofLogConf (l : LogConf) : StoredLogConf where
  logConf := l
  status := l.spec.missingPart?.map fun _ => .validationFailed

/-- The stored objects, under their keys. -/
structure AppProtect where
  policies : Table StoredPolicy
  logConfs : Table StoredLogConf
  userSigs : Table Signature

namespace AppProtect

/-- Nothing is stored. -/
def empty : AppProtect := ⟨Table.empty, Table.empty, Table.empty⟩

/-- The signatures that can be used, in the order of their keys. -/
def usableSignatures (a : AppProtect) : List Signature := a.userSigs.values.filter (·.isUsable)

/-! ## 2. Policies and log configurations -/

/-- Stores a policy. -/
def applyPolicy (a : AppProtect) (p : ApPolicy) : AppProtect × Report ApPolicy :=
  let entry := StoredPolicy.ofPolicy a.usableSignatures p
  let next := { a with policies := a.policies.insert p.metadata.key entry }
  match p.spec.fault? a.usableSignatures with
  | none => (next, .put p)
  | some fault =>
    (next, .refused (.apPolicy p) p (fault.message p.metadata.shownName))

/-- Removes a policy. -/
def deletePolicy (a : AppProtect) (key : String) : AppProtect × Report ApPolicy :=
  ({ a with policies := a.policies.erase key }, .removed ((a.policies.get? key).map (·.policy)))

/-- What the owner of a log configuration is told that lacks a part. -/
def logConfMessage (name part : String) : String :=
  "Error validating App Protect Log Configuration " ++ name ++ ": " ++ requiredField part

/-- Stores a log configuration. -/
def applyLogConf (a : AppProtect) (l : LogConf) : AppProtect × Report LogConf :=
  let next := { a with logConfs := a.logConfs.insert l.metadata.key (.ofLogConf l) }
  match l.spec.missingPart? with
  | none => (next, .put l)
  | some part =>
    (next, .refused (.apLogConf l) l (logConfMessage l.metadata.shownName part))

/-- Removes a log configuration. -/
def deleteLogConf (a : AppProtect) (key : String) : AppProtect × Report LogConf :=
  ({ a with logConfs := a.logConfs.erase key }, .removed ((a.logConfs.get? key).map (·.logConf)))

/-! ## 3. User signatures -/

/-- What a user signature that came or went leads to: the policies that can no longer be used, those
that can be used now, and the signatures that can be used. -/
structure SignatureReport where
  lostPolicies : List ApPolicy
  gainedPolicies : List ApPolicy
  signatures : List ApUserSig
  problems : List Problem

/-- Nothing follows. -/
def SignatureReport.empty : SignatureReport := ⟨[], [], [], []⟩

/-- The policies with the first status that get the second one when these are the signatures that
can be used, in the order of their keys. -/
def turned (policies : Table StoredPolicy) (usable : List Signature)
    (was becomes : Option Invalid) : List ApPolicy :=
  (policies.values.filter fun p =>
    p.status = was && (p.recheck usable).status = becomes).map (·.policy)

/-- The problem of an object that cannot be used. -/
def unusable (o : Object) (why : Invalid) : Problem := .rejection o why.message

/-- Brings the statuses of the signatures and of the policies up to date. -/
def reconcile (a : AppProtect) (ownProblems : List Problem) : AppProtect × SignatureReport :=
  let settled := { a with userSigs := Signature.reconcile a.userSigs }
  let usable := settled.usableSignatures
  let lost := turned a.policies usable none (some .missingUserSig)
  ({ settled with policies := a.policies.map (StoredPolicy.recheck usable) },
    { lostPolicies := lost
      gainedPolicies := turned a.policies usable (some .missingUserSig) none
      signatures := usable.map (·.object)
      problems := ownProblems ++
        (Signature.beaten a.userSigs).map (fun s => unusable (.apUserSig s.object) .duplicateTag) ++
        lost.map fun p => unusable (.apPolicy p) .missingUserSig })

/-- Stores a user signature. -/
def applyUserSig (a : AppProtect) (o : ApUserSig) : AppProtect × SignatureReport :=
  let entry := Signature.ofObject o
  let ownProblems := entry.status.toList.map fun why => unusable (.apUserSig o) why
  reconcile { a with userSigs := a.userSigs.insert o.metadata.key entry } ownProblems

/-- Removes a user signature. When there is none, nothing is reported, the usable signatures
included. -/
def deleteUserSig (a : AppProtect) (key : String) : AppProtect × SignatureReport :=
  if a.userSigs.contains key then reconcile { a with userSigs := a.userSigs.erase key } []
  else (a, .empty)

/-! ## 4. Questions -/

/-- Why a look-up has no answer. -/
inductive LookupError
  | unknownKind (kind : String)
  | notFound (what key : String)
  | invalid (why : Invalid)
  deriving DecidableEq

/-- The wording of a look-up error. -/
def LookupError.message : LookupError → String
  | .unknownKind kind => "Unknown App Protect resource kind " ++ kind
  | .notFound what key => "App Protect " ++ what ++ " " ++ key ++ " not found"
  | .invalid why => why.message

/-- The object of an entry, if there is one and it can be used. -/
def usableEntry {α β : Type} (stored : Table α) (status : α → Option Invalid) (objectOf : α → β)
    (what key : String) : Except LookupError β :=
  match stored.get? key with
  | none => .error (.notFound what key)
  | some entry => match status entry with
    | none => .ok (objectOf entry)
    | some why => .error (.invalid why)

/-- A policy that can be used. -/
def policy (a : AppProtect) (key : String) : Except LookupError ApPolicy :=
  usableEntry a.policies (·.status) (·.policy) "Policy" key

/-- A log configuration that can be used. -/
def logConf (a : AppProtect) (key : String) : Except LookupError LogConf :=
  usableEntry a.logConfs (·.status) (·.logConf) "LogConf" key

/-- A user signature that can be used. -/
def userSig (a : AppProtect) (key : String) : Except LookupError ApUserSig :=
  usableEntry a.userSigs (·.status) (·.object) "UserSig" key

/-- The object of a kind and a key, if it can be used. -/
def lookup (a : AppProtect) (kind key : String) : Except LookupError Object :=
  if kind = Kind.apPolicy.name then (a.policy key).map .apPolicy
  else if kind = Kind.apLogConf.name then (a.logConf key).map .apLogConf
  else if kind = Kind.apUserSig.name then (a.userSig key).map .apUserSig
  else .error (.unknownKind kind)

end AppProtect

end Gatehouse
