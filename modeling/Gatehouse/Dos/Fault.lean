import Gatehouse.AppProtect.Fault
import Gatehouse.Field
import Gatehouse.Format.Destination
import Gatehouse.Format.DnsName
import Gatehouse.Format.Escaped

/-!
What can be wrong with an object of the DoS firewall on its own, without regard to other objects.
The fields of a protected resource are looked at one after the other, and the first fault counts.
-/

set_option autoImplicit false

namespace Gatehouse

open Format

/-! ## 1. Policies and log configurations -/

/-- What is wrong with a DoS policy of the given name: it has no setting. -/
def DosPolicySpec.complaint? (name : String) (s : DosPolicySpec) : Option String :=
  if s.isEmpty then some ("error validating DosPolicy " ++ name ++ ": " ++ requiredField "spec")
  else none

/-- What is wrong with a DoS log configuration of the given name: it lacks a part. -/
def LogConfSpec.dosComplaint? (name : String) (s : LogConfSpec) : Option String :=
  s.missingPart?.map fun part =>
    "error validating App Protect Dos Log Configuration " ++ name ++ ": " ++ requiredField part

/-! ## 2. Protected resources -/

/-- A field of a protected resource that is checked. -/
inductive ProtectedField
  | name
  | monitor
  | accessLogDest
  | policy
  | securityLogDest
  | logConf
  deriving DecidableEq

/-- The place of a field. -/
def ProtectedField.path : ProtectedField → String
  | .name => "name"
  | .monitor => "apDosMonitor"
  | .accessLogDest => "dosAccessLogDest"
  | .policy => "apDosPolicy"
  | .securityLogDest => "dosSecurityLog/dosLogDest"
  | .logConf => "dosSecurityLog/apDosLogConf"

/-- What can be wrong with a protected resource. -/
inductive ProtectedFault
  | missing (field : ProtectedField)
  | invalid (field : ProtectedField) (why : String)
  deriving DecidableEq

/-- The wording of a fault, for a protected resource of the given name. -/
def ProtectedFault.message (name : String) : ProtectedFault → String
  | missing field =>
    "error validating DosProtectedResource: " ++ name ++ " missing value for field: " ++ field.path
  | invalid field why =>
    "error validating DosProtectedResource: " ++ name ++ " invalid field: " ++ field.path ++
      " err: " ++ why

/-- The greatest number of bytes of the name. -/
def longestProtectedName : Nat := 63

/-- What is wrong with the name. -/
def nameComplaint? (name : String) : Option String :=
  if name.utf8ByteSize > longestProtectedName then
    some ("app Protect Dos Name max length is " ++ toString longestProtectedName)
  else if isEscaped name then none
  else some (escapedComplaint name)

/-- The protocols of a monitor. -/
def monitorProtocols : List String := ["grpc", "http1", "http2"]

/-- What is wrong with a monitor. -/
def DosMonitor.complaint? (m : DosMonitor) : Option String :=
  if !isEscaped m.uri then some (escapedComplaint m.uri)
  else if m.protocol.isEmpty || monitorProtocols.contains m.protocol then none
  else
    let error := FieldError.notSupported (.top "dosMonitorProtocol") (.text m.protocol)
      monitorProtocols
    some ("app Protect Dos Monitor Protocol must be: " ++ error.message)

/-- What is wrong with a destination. -/
def destinationComplaint? (destination : String) : Option String :=
  (destinationFault? destination).map (·.message)

/-- What is wrong with a reference. -/
def referenceComplaint? (reference : String) : Option String :=
  if (qualifiedNameComplaints reference).isEmpty then none
  else some ("reference name is invalid: " ++ reference)

namespace DosProtectedSpec

/-- The checks of the fields, in order; each gives what it finds. -/
def checks (s : DosProtectedSpec) : List (Option ProtectedFault) :=
  let required (field : ProtectedField) (text : String) : Option ProtectedFault :=
    if text.isEmpty then some (.missing field) else none
  let refuted (field : ProtectedField) (complaint? : Option String) : Option ProtectedFault :=
    complaint?.map (.invalid field)
  [required .name s.name,
    refuted .name (nameComplaint? s.name),
    refuted .monitor (s.apDosMonitor.bind (·.complaint?)),
    required .accessLogDest s.dosAccessLogDest,
    refuted .accessLogDest (destinationComplaint? s.dosAccessLogDest),
    refuted .policy (if s.apDosPolicy.isEmpty then none else referenceComplaint? s.apDosPolicy),
    refuted .securityLogDest
      (s.dosSecurityLog.bind fun log => destinationComplaint? log.dosLogDest),
    refuted .logConf (s.dosSecurityLog.bind fun log => referenceComplaint? log.apDosLogConf)]

/-- The first thing wrong with the fields. -/
def fault? (s : DosProtectedSpec) : Option ProtectedFault := s.checks.findSome? id

/-- What is wrong with a protected resource of the given name. -/
def complaint? (name : String) (s : DosProtectedSpec) : Option String :=
  s.fault?.map (·.message name)

/-- The policy that the protected resource names. -/
def policy? (s : DosProtectedSpec) : Option String :=
  if s.apDosPolicy.isEmpty then none else some s.apDosPolicy

/-- The log configuration that the protected resource names. -/
def logConf? (s : DosProtectedSpec) : Option String :=
  (s.dosSecurityLog.map (·.apDosLogConf)).filter fun r => !r.isEmpty

end DosProtectedSpec

end Gatehouse
