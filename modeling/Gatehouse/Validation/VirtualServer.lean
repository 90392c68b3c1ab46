import Gatehouse.Format.Balancing
import Gatehouse.Object.VirtualServer
import Gatehouse.Validation.Basic
import Gatehouse.Validation.Features

/-!
What is wrong with a virtual server or a virtual server route. A virtual server route is also
checked against the virtual server that delegates to it: it has to have the same host, and its
subroutes have to lie below the path that is delegated.
-/

set_option autoImplicit false

namespace Gatehouse.Validation

open Format

/-! ## 1. Policies and upstreams -/

/-- The pair of names by which a repeated policy is recognised. -/
def policyKey (p : PolicyRef) : String := joinKey p.space p.name

/-- One entry of a list of policies. -/
def policyErrors (list : Path) (earlier : List PolicyRef) (i : Nat) (p : PolicyRef) :
    List FieldError :=
  let path := list.index i
  if p.name.isEmpty then [.required (path.child "name") ""]
  else
    invalidTexts (path.child "name") p.name (qualifiedNameComplaints p.name) ++
    (if p.space.isEmpty then []
      else invalidTexts (path.child "namespace") p.space (subdomainComplaints p.space)) ++
    (if earlier.any fun q => !q.name.isEmpty && policyKey q == policyKey p then
      [.duplicate (path.child "name") (.text p.name)] else [])

/-- A list of policies. -/
def policiesErrors (path : Path) (policies : List PolicyRef) : List FieldError :=
  checkEach (policyErrors path) [] policies

/-- One upstream. -/
def httpUpstreamErrors (f : Features) (list : Path) (earlier : List HttpUpstream) (i : Nat)
    (u : HttpUpstream) : List FieldError :=
  let path := list.index i
  uniqueLabelErrors (path.child "name") (earlier.map (·.name)) u.name ++
  labelErrors (path.child "service") u.service ++
  portErrors (path.child "port") u.port.val ++
  (httpMethodComplaint f.isPlus u.lbMethod).toList.map fun m =>
    .invalid (path.child "lb-method") (.text u.lbMethod) m

/-! ## 2. Actions and routes -/

/-- The upstream an action names, and where. -/
def actionUpstream? (path : Path) (a : RouteAction) : Option (Path × String) :=
  if a.pass.isEmpty then
    a.proxy.map fun p => ((path.child "proxy").child "upstream", p.upstream)
  else some (path.child "pass", a.pass)

/-- An answer that sends the client elsewhere. -/
def redirectErrors (path : Path) (r : Redirect) : List FieldError :=
  (if r.url.isEmpty then [.required (path.child "url") ""] else []) ++
  match r.code with
  | none => []
  | some code =>
    if [301, 302, 307, 308].contains code.val then []
    else [.notSupported (path.child "code") (.number code.val) ["301", "302", "307", "308"]]

/-- An answer that is given at once. -/
def respondErrors (path : Path) (r : Respond) : List FieldError :=
  (match r.code with
  | none => []
  | some code =>
    if 200 ≤ code.val ∧ code.val ≤ 599 then []
    else [.invalid (path.child "code") (.number code.val)
      "must be between 200 and 599, inclusive"]) ++
  if isEscaped r.body then []
  else [.invalid (path.child "body") (.text r.body) (escapedComplaint r.body)]

/-- An action that has exactly one kind. -/
def oneActionErrors (path : Path) (upstreams : List String) (a : RouteAction) : List FieldError :=
  (match actionUpstream? path a with
  | none => []
  | some (place, name) =>
    if upstreams.contains name then [] else [.notFound place (.text name)]) ++
  (match a.redirect with
  | none => []
  | some r => redirectErrors (path.child "redirect") r) ++
  match a.respond with
  | none => []
  | some r => respondErrors (path.child "return") r

/-- An action. -/
def actionErrors (path : Path) (upstreams : List String) (a : RouteAction) : List FieldError :=
  if a.kinds = 1 then oneActionErrors path upstreams a
  else [.invalid path (.number a.kinds)
    "must specify exactly one of: `pass`, `redirect`, `return` or `proxy`"]

/-- The path of a route. -/
def routePathErrors (path : Path) (value : String) : List FieldError :=
  if value.isEmpty then [.required path ""]
  else if !(Text.startsWith value "/" || Text.startsWith value "~") then
    [.invalid path (.text value) "must start with '/' or '~'"]
  else if isEscaped value then []
  else [.invalid path (.text value) (escapedComplaint value)]

/-- A reference to a virtual server route. -/
def routeReferenceErrors (path : Path) (reference : String) : List FieldError :=
  let (space, name) := splitReference "" reference
  (if space.isEmpty then [] else invalidTexts path reference (subdomainComplaints space)) ++
    invalidTexts path reference (subdomainComplaints name)

/-- A reference to a protected resource, or nothing. -/
def dosErrors (f : Features) (path : Path) (reference : String) : List FieldError :=
  if reference.isEmpty then []
  else if !f.appProtectDosEnabled then
    [.forbidden path "dos protected resource specified but App Protect DoS is not enabled"]
  else invalidTexts path reference (qualifiedNameComplaints reference)

/-- Whether a route may leave its path to a virtual server route. -/
inductive Delegating
  | allowed
  | refused
  deriving DecidableEq

/-- The wording for a route that neither acts nor delegates, or does both. -/
def actionOrRoute : String := "must specify exactly one of: `action` or `route`"

/-- What a route does with its path: one of an action and, where it may, a reference. -/
def routeTargetErrors (delegating : Delegating) (path : Path) (upstreams : List String)
    (r : Route) : List FieldError :=
  match delegating with
  | .allowed =>
    match r.action with
    | some a =>
      if r.route.isEmpty then actionErrors (path.child "action") upstreams a
      else [.invalid path (.text r.path) actionOrRoute]
    | none =>
      if r.route.isEmpty then [.required path actionOrRoute]
      else routeReferenceErrors (path.child "route") r.route
  | .refused =>
    (if r.route.isEmpty then []
      else [.forbidden (path.child "route") "subroutes cannot reference other routes"]) ++
    match r.action with
    | some a => actionErrors (path.child "action") upstreams a
    | none => [.required path "must specify `action`"]

/-- One route of a list. -/
def routeErrors (f : Features) (delegating : Delegating) (upstreams : List String) (list : Path)
    (earlier : List Route) (i : Nat) (r : Route) : List FieldError :=
  let path := list.index i
  routePathErrors (path.child "path") r.path ++
  routeTargetErrors delegating path upstreams r ++
  policiesErrors (path.child "policies") r.policies ++
  dosErrors f (path.child "dos") r.dos ++
  snippetErrors f.snippetsEnabled (path.child "location-snippets") r.locationSnippets ++
  if (earlier.map (·.path)).contains r.path then
    [.duplicate (path.child "path") (.text r.path)] else []

/-! ## 3. The objects -/

/-- The place of the specification of an object. -/
def specPath : Path := .top "spec"

/-- The certificate of a virtual server. -/
def serverTlsErrors (path : Path) (tls : Option ServerTls) : List FieldError :=
  match tls with
  | none => []
  | some t =>
    if t.secret.isEmpty then []
    else invalidTexts (path.child "secret") t.secret (subdomainComplaints t.secret)

/-- What is wrong with a virtual server. -/
def virtualServerErrors (f : Features) (vs : VirtualServer) : List FieldError :=
  let spec := vs.spec
  hostErrors (specPath.child "host") spec.host ++
  serverTlsErrors (specPath.child "tls") spec.tls ++
  policiesErrors (specPath.child "policies") spec.policies ++
  checkEach (httpUpstreamErrors f (specPath.child "upstreams")) [] spec.upstreams ++
  checkEach (routeErrors f .allowed (properNames (spec.upstreams.map (·.name)))
    (specPath.child "routes")) [] spec.routes ++
  dosErrors f (specPath.child "dos") spec.dos ++
  snippetErrors f.snippetsEnabled (specPath.child "server-snippets") spec.serverSnippets ++
  snippetErrors f.snippetsEnabled (specPath.child "http-snippets") spec.httpSnippets

/-- What is wrong with a virtual server route on its own. -/
def virtualServerRouteErrors (f : Features) (vsr : VirtualServerRoute) : List FieldError :=
  let spec := vsr.spec
  hostErrors (specPath.child "host") spec.host ++
  checkEach (httpUpstreamErrors f (specPath.child "upstreams")) [] spec.upstreams ++
  checkEach (routeErrors f .refused (properNames (spec.upstreams.map (·.name)))
    (specPath.child "subroutes")) [] spec.subroutes

/-- A subroute that is to lie below a path. -/
def belowErrors (path : String) (_earlier : List Route) (i : Nat) (r : Route) : List FieldError :=
  if Text.startsWith r.path path then []
  else [.invalid (((specPath.child "subroutes").index i).child "path") (.text r.path)
    ("must start with '" ++ path ++ "'")]

/-- What keeps a virtual server route from taking a path of a host. -/
def delegationErrors (vsr : VirtualServerRoute) (host path : String) : List FieldError :=
  (if vsr.spec.host = host then []
    else [.invalid (specPath.child "host") (.text vsr.spec.host)
      ("must be equal to '" ++ host ++ "'")]) ++
  checkEach (belowErrors path) [] vsr.spec.subroutes

/-- What is wrong with a virtual server route as one that takes a path of a host. -/
def delegatedErrors (f : Features) (vsr : VirtualServerRoute) (host path : String) :
    List FieldError :=
  virtualServerRouteErrors f vsr ++ delegationErrors vsr host path

end Gatehouse.Validation
