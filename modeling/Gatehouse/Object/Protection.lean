import Gatehouse.Object.Meta

/-!
The objects of the two application firewalls. App Protect has policies, log configurations and user
signatures; App Protect DoS has policies, log configurations and protected resources, which name
the other two. Their contents belong to the firewalls and are kept as the JSON they came in; an
absent content is null.
-/

set_option autoImplicit false

namespace Gatehouse

open FieldReader

/-! ## 1. App Protect -/

/-- The content of an App Protect policy. -/
structure ApPolicySpec where
  policy : Json
  deriving DecidableEq

/-- The content of a log configuration, of either firewall. -/
structure LogConfSpec where
  content : Json
  filter : Json
  deriving DecidableEq

/-- A set of signatures, the tag under which policies ask for it, and the date of its revision. -/
structure ApUserSigSpec where
  signatures : Json
  tag : Option String
  revisionDatetime : Option String
  deriving DecidableEq

/-- An App Protect policy. -/
abbrev ApPolicy := Custom ApPolicySpec

/-- A log configuration. -/
abbrev LogConf := Custom LogConfSpec

/-- A set of user signatures. -/
abbrev ApUserSig := Custom ApUserSigSpec

/-! ## 2. App Protect DoS -/

/-- The settings of a DoS policy, of which at least one is to be there. -/
structure DosPolicySpec where
  mitigationMode : Option String
  signatures : Option String
  badActors : Option String
  automationTools : Option String
  deriving DecidableEq

/-- How the health of a protected resource is watched. -/
structure DosMonitor where
  uri : String
  protocol : String
  timeout : Option Unsigned64
  deriving DecidableEq

/-- Where and how the security log is written. -/
structure DosSecurityLog where
  enable : Bool
  apDosLogConf : String
  dosLogDest : String
  deriving DecidableEq

/-- What a protected resource asks for. -/
structure DosProtectedSpec where
  enable : Bool
  name : String
  apDosMonitor : Option DosMonitor
  dosAccessLogDest : String
  apDosPolicy : String
  dosSecurityLog : Option DosSecurityLog
  deriving DecidableEq

/-- A DoS policy. -/
abbrev DosPolicy := Custom DosPolicySpec

/-- A protected resource. -/
abbrev DosProtected := Custom DosProtectedSpec

/-- No setting is there. -/
def DosPolicySpec.isEmpty (s : DosPolicySpec) : Bool :=
  s.mitigationMode.isNone && s.signatures.isNone && s.badActors.isNone && s.automationTools.isNone

/-! ## 3. The wire form -/

instance : Wire ApPolicySpec where
  encode s := .obj [("policy", s.policy)]
  decode := decodeRecord do
    let policy ← anything "policy"
    return { policy }

instance : Wire LogConfSpec where
  encode s := .obj [("content", s.content), ("filter", s.filter)]
  decode := decodeRecord do
    let content ← anything "content"
    let filter ← anything "filter"
    return { content, filter }

instance : Wire ApUserSigSpec where
  encode s := .obj [("signatures", s.signatures), ("tag", encodeNullable s.tag),
    ("revisionDatetime", encodeNullable s.revisionDatetime)]
  decode := decodeRecord do
    let signatures ← anything "signatures"
    let tag ← nullable "tag"
    let revisionDatetime ← nullable "revisionDatetime"
    return { signatures, tag, revisionDatetime }

instance : Wire DosPolicySpec where
  encode s := .obj [("mitigation_mode", encodeNullable s.mitigationMode),
    ("signatures", encodeNullable s.signatures), ("bad_actors", encodeNullable s.badActors),
    ("automation_tools", encodeNullable s.automationTools)]
  decode := decodeRecord do
    let mitigationMode ← nullable "mitigation_mode"
    let signatures ← nullable "signatures"
    let badActors ← nullable "bad_actors"
    let automationTools ← nullable "automation_tools"
    return { mitigationMode, signatures, badActors, automationTools }

instance : Wire DosMonitor where
  encode m := .obj [("uri", encode m.uri), ("protocol", encode m.protocol),
    ("timeout", encodeNullable m.timeout)]
  decode := decodeRecord do
    let uri ← defaulted "uri" ""
    let protocol ← defaulted "protocol" ""
    let timeout ← nullable "timeout"
    return { uri, protocol, timeout }

instance : Wire DosSecurityLog where
  encode l := .obj [("enable", encode l.enable), ("apDosLogConf", encode l.apDosLogConf),
    ("dosLogDest", encode l.dosLogDest)]
  decode := decodeRecord do
    let enable ← defaulted "enable" false
    let apDosLogConf ← defaulted "apDosLogConf" ""
    let dosLogDest ← defaulted "dosLogDest" ""
    return { enable, apDosLogConf, dosLogDest }

instance : Wire DosProtectedSpec where
  encode s := .obj [("enable", encode s.enable), ("name", encode s.name),
    ("apDosMonitor", encodeNullable s.apDosMonitor),
    ("dosAccessLogDest", encode s.dosAccessLogDest), ("apDosPolicy", encode s.apDosPolicy),
    ("dosSecurityLog", encodeNullable s.dosSecurityLog)]
  decode := decodeRecord do
    let enable ← defaulted "enable" false
    let name ← defaulted "name" ""
    let apDosMonitor ← nullable "apDosMonitor"
    let dosAccessLogDest ← defaulted "dosAccessLogDest" ""
    let apDosPolicy ← defaulted "apDosPolicy" ""
    let dosSecurityLog ← nullable "dosSecurityLog"
    return { enable, name, apDosMonitor, dosAccessLogDest, apDosPolicy, dosSecurityLog }

end Gatehouse
