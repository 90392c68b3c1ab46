import Gatehouse.Object.Annotations
import Gatehouse.Object.Meta

/-!
Ingresses: rules that send the requests for a host and a path to a service. An ingress may be split
over several objects: a *master* has the host and its TLS settings, and *minions* add paths to the
host. Which of the three an ingress is, an annotation says.

Every part of an ingress may be missing, and a missing list differs from an empty one when two
versions are compared. The accessors below read a missing list as empty and a missing text as the
empty text.
-/

set_option autoImplicit false

namespace Gatehouse

/-! ## 1. The object -/

/-- The port of a service, by its name or its number. -/
structure ServicePort where
  name : Option String
  number : Option Int
  deriving DecidableEq

/-- A service that requests are sent to. -/
structure ServiceBackend where
  name : String
  port : Option ServicePort
  deriving DecidableEq

/-- An object of any kind that requests are to be sent to. -/
structure ResourceBackend where
  apiGroup : Option String
  kind : String
  name : String
  deriving DecidableEq

/-- Where requests are sent. -/
structure Backend where
  service : Option ServiceBackend
  resource : Option ResourceBackend
  deriving DecidableEq

instance : Inhabited Backend := ⟨⟨none, none⟩⟩

/-- A path and where its requests are sent. -/
structure HttpPath where
  path : Option String
  pathType : String
  backend : Backend
  deriving DecidableEq

/-- A host and its paths. -/
structure IngressRule where
  host : Option String
  http : Option (List HttpPath)
  deriving DecidableEq

/-- A certificate and the hosts it is for. -/
structure IngressTls where
  hosts : Option (List String)
  secretName : Option String
  deriving DecidableEq

/-- What an ingress asks for. -/
structure IngressSpec where
  ingressClassName : Option String
  defaultBackend : Option Backend
  tls : Option (List IngressTls)
  rules : Option (List IngressRule)
  deriving DecidableEq

/-- An ingress. Nothing depends on its state, which is kept in normal form. -/
structure Ingress where
  metadata : Meta
  spec : Option IngressSpec
  state : Option Json
  deriving DecidableEq

/-! ## 2. Accessors -/

/-- The host of a rule, empty when missing. -/
def IngressRule.hostOrEmpty (r : IngressRule) : String := r.host.getD ""

/-- The paths of a rule. -/
def IngressRule.paths (r : IngressRule) : List HttpPath := r.http.getD []

/-- The path, empty when missing. -/
def HttpPath.pathOrEmpty (p : HttpPath) : String := p.path.getD ""

/-- The name of the service of a backend. -/
def Backend.serviceName? (b : Backend) : Option String := b.service.map (·.name)

/-- The part an ingress plays for its host. -/
inductive Mergeable
  | master
  | minion
  deriving DecidableEq

namespace Ingress

/-- The rules. -/
def rules (i : Ingress) : List IngressRule := (i.spec.bind (·.rules)).getD []

/-- The TLS entries. -/
def tls (i : Ingress) : List IngressTls := (i.spec.bind (·.tls)).getD []

/-- The default backend. -/
def defaultBackend? (i : Ingress) : Option Backend := i.spec.bind (·.defaultBackend)

/-- The hosts of the rules, in order. -/
def hosts (i : Ingress) : List String := i.rules.map (·.hostOrEmpty)

/-- The host of the first rule, empty when there is none. -/
def firstHost (i : Ingress) : String := (i.rules.head?.map (·.hostOrEmpty)).getD ""

/-- The backends: the default one, then those of the paths. -/
def backends (i : Ingress) : List Backend :=
  i.defaultBackend?.toList ++ i.rules.flatMap fun r => r.paths.map (·.backend)

/-- The part the ingress plays for its host, when it is not on its own. -/
def mergeable? (i : Ingress) : Option Mergeable :=
  match i.metadata.annotation? Annotations.mergeableType with
  | some "master" => some .master
  | some "minion" => some .minion
  | _ => none

/-- The ingress has the host and leaves the paths to minions. -/
def isMaster (i : Ingress) : Bool := i.mergeable? = some .master

/-- The ingress adds paths to the host of a master. -/
def isMinion (i : Ingress) : Bool := i.mergeable? = some .minion

end Ingress

/-! ## 3. Reading -/

namespace Ingress

open Meta (part)

/-- A list of which every item can be read. -/
def decodeItems {α : Type} (decode : Json → Option α) (value : Json) : Option (List α) := do
  let items ← value.items?
  items.mapM decode

/-- A text that is empty when missing. -/
def textPart (name : String) (fields : List (String × Json)) : Option String :=
  (part Json.text? name fields).map (·.getD "")

def decodeServicePort (value : Json) : Option ServicePort := do
  let fields ← value.fields?
  let name ← part Json.text? "name" fields
  let number ← part (decodeRanged Text.int32Range) "number" fields
  return { name, number := number.map (·.val) }

def decodeServiceBackend (value : Json) : Option ServiceBackend := do
  let fields ← value.fields?
  let name ← textPart "name" fields
  let port ← part decodeServicePort "port" fields
  return { name, port }

def decodeResourceBackend (value : Json) : Option ResourceBackend := do
  let fields ← value.fields?
  let apiGroup ← part Json.text? "apiGroup" fields
  let kind ← textPart "kind" fields
  let name ← textPart "name" fields
  return { apiGroup, kind, name }

def decodeBackend (value : Json) : Option Backend := do
  let fields ← value.fields?
  let service ← part decodeServiceBackend "service" fields
  let resource ← part decodeResourceBackend "resource" fields
  return { service, resource }

def decodePath (value : Json) : Option HttpPath := do
  let fields ← value.fields?
  let path ← part Json.text? "path" fields
  let pathType ← textPart "pathType" fields
  let backend ← part decodeBackend "backend" fields
  return { path, pathType, backend := backend.getD default }

def decodePaths (value : Json) : Option (List HttpPath) := do
  let fields ← value.fields?
  let paths ← part (decodeItems decodePath) "paths" fields
  return paths.getD []

def decodeRule (value : Json) : Option IngressRule := do
  let fields ← value.fields?
  let host ← part Json.text? "host" fields
  let http ← part decodePaths "http" fields
  return { host, http }

def decodeTls (value : Json) : Option IngressTls := do
  let fields ← value.fields?
  let hosts ← part (decodeItems Json.text?) "hosts" fields
  let secretName ← part Json.text? "secretName" fields
  return { hosts, secretName }

def decodeSpec (value : Json) : Option IngressSpec := do
  let fields ← value.fields?
  let ingressClassName ← part Json.text? "ingressClassName" fields
  let defaultBackend ← part decodeBackend "defaultBackend" fields
  let tls ← part (decodeItems decodeTls) "tls" fields
  let rules ← part (decodeItems decodeRule) "rules" fields
  return { ingressClassName, defaultBackend, tls, rules }

/-- An ingress is read from an object; all of its parts may be missing. -/
def decode (value : Json) : Option Ingress := do
  let fields ← coreFields? "networking.k8s.io/v1" "Ingress" value
  let metadata ← part Meta.decode "metadata" fields
  let spec ← part decodeSpec "spec" fields
  let state ← part Unread.ingressStatus.normal? "status" fields
  return { metadata := metadata.getD default, spec, state }

end Ingress

end Gatehouse
