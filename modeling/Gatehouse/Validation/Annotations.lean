import Gatehouse.Format.Balancing
import Gatehouse.Object.Ingress
import Gatehouse.Validation.Basic
import Gatehouse.Validation.Features

/-!
Annotations of ingresses. Each known annotation has a list of rules; the first rule that its value
breaks gives one error, and the rules after it are not looked at. Annotations are judged in the
order of their names, and unknown ones are not judged at all.
-/

set_option autoImplicit false

namespace Gatehouse.Validation

open Format

/-! ## 1. Rules -/

/-- What another annotation has to be for an annotation to be allowed. -/
inductive Expectation
  | aBool
  | isTrue
  deriving DecidableEq, Repr

/-- A rule for the value of an annotation, or for the features that it needs. -/
inductive Rule
  | required
  | bool
  | int
  | int64
  | uint64
  | time
  | offset
  | size
  | proxyBuffers
  | portList
  | serviceList
  | stickyServiceList
  | rewriteList
  | plusOnly
  | appProtectOnly
  | appProtectDosOnly
  | internalRoutesOnly
  | snippets
  | mergeableType
  | lbMethod
  | serverTokens
  | qualifiedName
  | related (name : String) (expectation : Expectation)
  deriving DecidableEq, Repr

/-- What a rule can look at: the features, the names of the services of the ingress, and its
annotations. -/
structure RuleContext where
  features : Features
  services : List String
  annotations : Table String

/-- The complaint, unless the condition holds. -/
def demand (holds : Bool) (error : FieldError) : Option FieldError :=
  if holds then none else some error

/-- The services of a list that the ingress does not have, each once and in order. -/
def unknownServices (services : List String) (value : String) : List String :=
  (Table.ofList (((serviceList value).filter fun s => !services.contains s).map
    fun s => (s, ()))).keys

/-- A list of services, all of which the ingress has. -/
def serviceListError (services : List String) (path : Path) (value : String) :
    Option FieldError :=
  match unknownServices services value with
  | [] => none
  | unknown =>
    some (.invalid path (.text value)
      ("must be a comma-separated list of services. The following services were not found: "
        ++ ",".intercalate unknown))

/-- Another annotation that has to be set to a truth value, or to true. -/
def relatedError (annotations : Table String) (path : Path) (name : String)
    (expectation : Expectation) : Option FieldError :=
  let wording (what : String) := "related annotation " ++ name ++ ": " ++ what
  match annotations.get? name with
  | none => some (.forbidden path (wording "must be set"))
  | some value =>
    match expectation, Text.readBool value with
    | _, none => some (.forbidden path (wording "must be a boolean"))
    | .isTrue, some false => some (.forbidden path (wording "must be true"))
    | _, some _ => none

/-- The error of a value that breaks a rule. -/
def Rule.error? (c : RuleContext) (path : Path) (value : String) : Rule → Option FieldError
  | .required => demand (!value.isEmpty) (.required path "")
  | .bool => demand (Text.readBool value).isSome (.invalid path (.text value) "must be a boolean")
  | .int =>
    demand (Text.isInt Text.int32Range value) (.invalid path (.text value) "must be an integer")
  | .int64 =>
    demand (Text.isInt Text.int64Range value) (.invalid path (.text value) "must be an integer")
  | .uint64 =>
    demand (Text.isInt Text.nat64Range value)
      (.invalid path (.text value) "must be a non-negative integer")
  | .time => demand (isTime value) (.invalid path (.text value) "must be a time")
  | .offset => demand (isOffset value) (.invalid path (.text value) "must be an offset")
  | .size => demand (isSize value) (.invalid path (.text value) "must be a size")
  | .proxyBuffers =>
    demand (isProxyBuffers value) (.invalid path (.text value) "must be a proxy buffer spec")
  | .portList =>
    demand (isPortList value)
      (.invalid path (.text value) "must be a comma-separated list of port numbers")
  | .serviceList => serviceListError c.services path value
  | .stickyServiceList =>
    demand (isStickyServiceList value)
      (.invalid path (.text value) "must be a semicolon-separated list of sticky services")
  | .rewriteList =>
    demand (isRewriteList value)
      (.invalid path (.text value) "must be a semicolon-separated list of rewrites")
  | .plusOnly => demand c.features.isPlus (.forbidden path "annotation requires NGINX Plus")
  | .appProtectOnly =>
    demand c.features.appProtectEnabled (.forbidden path "annotation requires AppProtect")
  | .appProtectDosOnly =>
    demand c.features.appProtectDosEnabled (.forbidden path "annotation requires AppProtectDos")
  | .internalRoutesOnly =>
    demand c.features.internalRoutesEnabled
      (.forbidden path "annotation requires Internal Routes enabled")
  | .snippets => demand c.features.snippetsEnabled (.forbidden path snippetsDisabled)
  | .mergeableType =>
    demand (value == "master" || value == "minion")
      (.invalid path (.text value) "must be one of: 'master' or 'minion'")
  | .lbMethod =>
    (httpMethodComplaint c.features.isPlus value).map fun m => .invalid path (.text value) m
  | .serverTokens =>
    demand (c.features.isPlus || (Text.readBool value).isSome)
      (.invalid path (.text value) "must be a boolean")
  | .qualifiedName =>
    demand (qualifiedNameComplaints value).isEmpty
      (.invalid path (.text value) "must be a qualified name")
  | .related name expectation => relatedError c.annotations path name expectation

/-! ## 2. The known annotations -/

/-- The known annotations in the order of their names, with their rules. -/
def knownAnnotations : List (String × List Rule) :=
  [("appprotect.f5.com/app-protect-enable", [.appProtectOnly, .required, .bool]),
    (Annotations.appProtectPolicy, [.appProtectOnly, .required]),
    (Annotations.appProtectSecurityLog, [.appProtectOnly, .required]),
    ("appprotect.f5.com/app-protect-security-log-enable", [.appProtectOnly, .required, .bool]),
    (Annotations.dosResource, [.appProtectDosOnly, .plusOnly, .qualifiedName]),
    ("ingress.kubernetes.io/ssl-redirect", [.required, .bool]),
    (Annotations.healthChecks, [.plusOnly, .required, .bool]),
    (Annotations.healthChecksMandatory,
      [.plusOnly, .related Annotations.healthChecks .isTrue, .required, .bool]),
    ("nginx.com/health-checks-mandatory-queue",
      [.plusOnly, .related Annotations.healthChecksMandatory .isTrue, .required, .uint64]),
    (Annotations.jwtKey, [.plusOnly]),
    ("nginx.com/jwt-login-url", [.plusOnly]),
    ("nginx.com/jwt-realm", [.plusOnly]),
    ("nginx.com/jwt-token", [.plusOnly]),
    ("nginx.com/slow-start", [.plusOnly, .required, .time]),
    ("nginx.com/sticky-cookie-services", [.plusOnly, .required, .stickyServiceList]),
    ("nginx.org/client-max-body-size", [.required, .offset]),
    ("nginx.org/fail-timeout", [.required, .time]),
    ("nginx.org/grpc-services", [.required, .serviceList]),
    (Annotations.hsts, [.required, .bool]),
    ("nginx.org/hsts-behind-proxy", [.related Annotations.hsts .aBool, .required, .bool]),
    ("nginx.org/hsts-include-subdomains", [.related Annotations.hsts .aBool, .required, .bool]),
    ("nginx.org/hsts-max-age", [.related Annotations.hsts .aBool, .required, .int64]),
    ("nginx.org/keepalive", [.required, .int]),
    ("nginx.org/lb-method", [.required, .lbMethod]),
    ("nginx.org/listen-ports", [.required, .portList]),
    ("nginx.org/listen-ports-ssl", [.required, .portList]),
    ("nginx.org/location-snippets", [.snippets]),
    ("nginx.org/max-conns", [.required, .uint64]),
    ("nginx.org/max-fails", [.required, .uint64]),
    (Annotations.mergeableType, [.required, .mergeableType]),
    ("nginx.org/proxy-buffer-size", [.required, .size]),
    ("nginx.org/proxy-buffering", [.required, .bool]),
    ("nginx.org/proxy-buffers", [.required, .proxyBuffers]),
    ("nginx.org/proxy-connect-timeout", [.required, .time]),
    ("nginx.org/proxy-hide-headers", []),
    ("nginx.org/proxy-max-temp-file-size", [.required, .size]),
    ("nginx.org/proxy-pass-headers", []),
    ("nginx.org/proxy-read-timeout", [.required, .time]),
    ("nginx.org/proxy-send-timeout", [.required, .time]),
    ("nginx.org/redirect-to-https", [.required, .bool]),
    ("nginx.org/rewrites", [.required, .rewriteList]),
    ("nginx.org/server-snippets", [.snippets]),
    ("nginx.org/server-tokens", [.serverTokens]),
    ("nginx.org/ssl-services", [.required, .serviceList]),
    ("nginx.org/upstream-zone-size", [.required, .size]),
    ("nginx.org/websocket-services", [.required, .serviceList]),
    ("nsm.nginx.com/internal-route", [.internalRoutesOnly, .required, .bool])]

/-! ## 3. The annotations of an ingress -/

/-- The error of one known annotation, when it is set and breaks a rule. -/
def annotationError? (c : RuleContext) (path : Path) (known : String × List Rule) :
    Option FieldError := do
  let value ← c.annotations.get? known.1
  known.2.findSome? (Rule.error? c (path.child known.1) value)

/-- The errors of the annotations. -/
def annotationErrors (c : RuleContext) (path : Path) : List FieldError :=
  knownAnnotations.filterMap (annotationError? c path)

end Gatehouse.Validation
