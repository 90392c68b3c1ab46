import Gatehouse.Object.Meta

/-!
Virtual servers and their routes. A virtual server balances the requests for one host over
upstreams; each of its routes either acts on the requests for a path or leaves the path to a
*virtual server route*, an object of its own, which then acts on the paths below it with subroutes.
-/

set_option autoImplicit false

namespace Gatehouse

open FieldReader

/-! ## 1. The objects -/

/-- The certificate of a virtual server. -/
structure ServerTls where
  secret : String
  deriving DecidableEq

/-- A policy that applies; without a namespace, one of the referring object's namespace. -/
structure PolicyRef where
  name : String
  space : String
  deriving DecidableEq

/-- A service that requests are balanced over. -/
structure HttpUpstream where
  name : String
  service : String
  port : Unsigned16
  useClusterIp : Bool
  lbMethod : String
  deriving DecidableEq

/-- An answer that sends the client elsewhere. -/
structure Redirect where
  url : String
  code : Option Signed32
  deriving DecidableEq

/-- An answer that is given at once. -/
structure Respond where
  code : Option Signed32
  contentType : String
  body : String
  deriving DecidableEq

/-- A request that is passed on with changes. -/
structure Proxy where
  upstream : String
  deriving DecidableEq

/-- What is done with a request; one of the four is to be set. -/
structure RouteAction where
  pass : String
  redirect : Option Redirect
  respond : Option Respond
  proxy : Option Proxy
  deriving DecidableEq

/-- A path and what is done with its requests. -/
structure Route where
  path : String
  route : String
  action : Option RouteAction
  policies : List PolicyRef
  dos : String
  locationSnippets : String
  deriving DecidableEq

/-- What a virtual server asks for. -/
structure VirtualServerSpec where
  ingressClassName : String
  host : String
  tls : Option ServerTls
  policies : List PolicyRef
  upstreams : List HttpUpstream
  routes : List Route
  dos : String
  serverSnippets : String
  httpSnippets : String
  deriving DecidableEq

/-- What a virtual server route asks for. -/
structure VirtualServerRouteSpec where
  ingressClassName : String
  host : String
  upstreams : List HttpUpstream
  subroutes : List Route
  deriving DecidableEq

/-- A virtual server. -/
abbrev VirtualServer := Custom VirtualServerSpec

/-- A virtual server route. -/
abbrev VirtualServerRoute := Custom VirtualServerRouteSpec

/-- How many of the four actions are set. -/
def RouteAction.kinds (a : RouteAction) : Nat :=
  (if a.pass.isEmpty then 0 else 1) + (if a.redirect.isSome then 1 else 0) +
    (if a.respond.isSome then 1 else 0) + (if a.proxy.isSome then 1 else 0)

/-! ## 2. The wire form -/

instance : Wire ServerTls where
  encode t := .obj [("secret", encode t.secret)]
  decode := decodeRecord do
    let secret ← defaulted "secret" ""
    return { secret }

instance : Wire PolicyRef where
  encode p := .obj [("name", encode p.name), ("namespace", encode p.space)]
  decode := decodeRecord do
    let name ← required "name"
    let space ← defaulted "namespace" ""
    return { name, space }

instance : Wire HttpUpstream where
  encode u := .obj [("name", encode u.name), ("service", encode u.service),
    ("port", encode u.port), ("use-cluster-ip", encode u.useClusterIp),
    ("lb-method", encode u.lbMethod)]
  decode := decodeRecord do
    let name ← required "name"
    let service ← required "service"
    let port ← required "port"
    let useClusterIp ← defaulted "use-cluster-ip" false
    let lbMethod ← defaulted "lb-method" ""
    return { name, service, port, useClusterIp, lbMethod }

instance : Wire Redirect where
  encode r := .obj [("url", encode r.url), ("code", encodeNullable r.code)]
  decode := decodeRecord do
    let url ← required "url"
    let code ← nullable "code"
    return { url, code }

instance : Wire Respond where
  encode r := .obj [("code", encodeNullable r.code), ("type", encode r.contentType),
    ("body", encode r.body)]
  decode := decodeRecord do
    let code ← nullable "code"
    let contentType ← defaulted "type" ""
    let body ← required "body"
    return { code, contentType, body }

instance : Wire Proxy where
  encode p := .obj [("upstream", encode p.upstream)]
  decode := decodeRecord do
    let upstream ← required "upstream"
    return { upstream }

instance : Wire RouteAction where
  encode a := .obj [("pass", encode a.pass), ("redirect", encodeNullable a.redirect),
    ("return", encodeNullable a.respond), ("proxy", encodeNullable a.proxy)]
  decode := decodeRecord do
    let pass ← defaulted "pass" ""
    let redirect ← nullable "redirect"
    let respond ← nullable "return"
    let proxy ← nullable "proxy"
    return { pass, redirect, respond, proxy }

instance : Wire Route where
  encode r := .obj [("path", encode r.path), ("route", encode r.route),
    ("action", encodeNullable r.action), ("policies", encode r.policies), ("dos", encode r.dos),
    ("location-snippets", encode r.locationSnippets)]
  decode := decodeRecord do
    let path ← required "path"
    let route ← defaulted "route" ""
    let action ← nullable "action"
    let policies ← defaulted "policies" []
    let dos ← defaulted "dos" ""
    let locationSnippets ← defaulted "location-snippets" ""
    return { path, route, action, policies, dos, locationSnippets }

instance : Wire VirtualServerSpec where
  encode s := .obj [("ingressClassName", encode s.ingressClassName), ("host", encode s.host),
    ("tls", encodeNullable s.tls), ("policies", encode s.policies),
    ("upstreams", encode s.upstreams), ("routes", encode s.routes), ("dos", encode s.dos),
    ("server-snippets", encode s.serverSnippets), ("http-snippets", encode s.httpSnippets)]
  decode := decodeRecord do
    let ingressClassName ← defaulted "ingressClassName" ""
    let host ← defaulted "host" ""
    let tls ← nullable "tls"
    let policies ← defaulted "policies" []
    let upstreams ← defaulted "upstreams" []
    let routes ← defaulted "routes" []
    let dos ← defaulted "dos" ""
    let serverSnippets ← defaulted "server-snippets" ""
    let httpSnippets ← defaulted "http-snippets" ""
    return { ingressClassName, host, tls, policies, upstreams, routes, dos, serverSnippets,
             httpSnippets }

instance : Wire VirtualServerRouteSpec where
  encode s := .obj [("ingressClassName", encode s.ingressClassName), ("host", encode s.host),
    ("upstreams", encode s.upstreams), ("subroutes", encode s.subroutes)]
  decode := decodeRecord do
    let ingressClassName ← defaulted "ingressClassName" ""
    let host ← defaulted "host" ""
    let upstreams ← defaulted "upstreams" []
    let subroutes ← defaulted "subroutes" []
    return { ingressClassName, host, upstreams, subroutes }

end Gatehouse
