import Gatehouse.Object.Meta

/-!
Policies: rules on the requests of virtual servers, which refer to them by name. Several kinds of
policy read secrets of the policy's own namespace.
-/

set_option autoImplicit false

namespace Gatehouse

open FieldReader

/-! ## 1. The object -/

/-- Which addresses are let in. -/
structure AccessControl where
  allow : List String
  deny : List String
  deriving DecidableEq

/-- How many requests are let in. -/
structure RateLimit where
  rate : String
  key : String
  zoneSize : String
  deriving DecidableEq

/-- Authentication by a token. -/
structure JwtAuth where
  realm : String
  secret : String
  token : String
  deriving DecidableEq

/-- Certificates of clients. -/
structure IngressMtls where
  clientCertSecret : String
  verifyClient : String
  verifyDepth : Option Signed32
  deriving DecidableEq

/-- Certificates towards upstreams. -/
structure EgressMtls where
  tlsSecret : String
  trustedCertSecret : String
  verifyServer : Bool
  sslName : String
  deriving DecidableEq

/-- Authentication by an identity provider. -/
structure Oidc where
  authEndpoint : String
  tokenEndpoint : String
  jwksUri : String
  clientId : String
  clientSecret : String
  scope : String
  deriving DecidableEq

/-- What a policy asks for. -/
structure PolicySpec where
  ingressClassName : String
  accessControl : Option AccessControl
  rateLimit : Option RateLimit
  jwt : Option JwtAuth
  ingressMtls : Option IngressMtls
  egressMtls : Option EgressMtls
  oidc : Option Oidc
  deriving DecidableEq

/-- A policy. -/
abbrev Policy := Custom PolicySpec

/-- The names of the secrets that the policy reads, in the order of the kinds of policy. -/
def PolicySpec.secretNames (s : PolicySpec) : List String :=
  (s.jwt.toList.map (·.secret) ++ s.ingressMtls.toList.map (·.clientCertSecret) ++
    s.egressMtls.toList.flatMap (fun m => [m.tlsSecret, m.trustedCertSecret]) ++
    s.oidc.toList.map (·.clientSecret)).filter fun name => !name.isEmpty

/-! ## 2. The wire form -/

instance : Wire AccessControl where
  encode a := .obj [("allow", encode a.allow), ("deny", encode a.deny)]
  decode := decodeRecord do
    let allow ← defaulted "allow" []
    let deny ← defaulted "deny" []
    return { allow, deny }

instance : Wire RateLimit where
  encode r := .obj [("rate", encode r.rate), ("key", encode r.key),
    ("zoneSize", encode r.zoneSize)]
  decode := decodeRecord do
    let rate ← required "rate"
    let key ← required "key"
    let zoneSize ← defaulted "zoneSize" ""
    return { rate, key, zoneSize }

instance : Wire JwtAuth where
  encode j := .obj [("realm", encode j.realm), ("secret", encode j.secret),
    ("token", encode j.token)]
  decode := decodeRecord do
    let realm ← defaulted "realm" ""
    let secret ← defaulted "secret" ""
    let token ← defaulted "token" ""
    return { realm, secret, token }

instance : Wire IngressMtls where
  encode m := .obj [("clientCertSecret", encode m.clientCertSecret),
    ("verifyClient", encode m.verifyClient), ("verifyDepth", encodeNullable m.verifyDepth)]
  decode := decodeRecord do
    let clientCertSecret ← defaulted "clientCertSecret" ""
    let verifyClient ← defaulted "verifyClient" ""
    let verifyDepth ← nullable "verifyDepth"
    return { clientCertSecret, verifyClient, verifyDepth }

instance : Wire EgressMtls where
  encode m := .obj [("tlsSecret", encode m.tlsSecret),
    ("trustedCertSecret", encode m.trustedCertSecret), ("verifyServer", encode m.verifyServer),
    ("sslName", encode m.sslName)]
  decode := decodeRecord do
    let tlsSecret ← defaulted "tlsSecret" ""
    let trustedCertSecret ← defaulted "trustedCertSecret" ""
    let verifyServer ← defaulted "verifyServer" false
    let sslName ← defaulted "sslName" ""
    return { tlsSecret, trustedCertSecret, verifyServer, sslName }

instance : Wire Oidc where
  encode o := .obj [("authEndpoint", encode o.authEndpoint),
    ("tokenEndpoint", encode o.tokenEndpoint), ("jwksUri", encode o.jwksUri),
    ("clientId", encode o.clientId), ("clientSecret", encode o.clientSecret),
    ("scope", encode o.scope)]
  decode := decodeRecord do
    let authEndpoint ← defaulted "authEndpoint" ""
    let tokenEndpoint ← defaulted "tokenEndpoint" ""
    let jwksUri ← defaulted "jwksUri" ""
    let clientId ← defaulted "clientId" ""
    let clientSecret ← defaulted "clientSecret" ""
    let scope ← defaulted "scope" ""
    return { authEndpoint, tokenEndpoint, jwksUri, clientId, clientSecret, scope }

instance : Wire PolicySpec where
  encode s := .obj [("ingressClassName", encode s.ingressClassName),
    ("accessControl", encodeNullable s.accessControl), ("rateLimit", encodeNullable s.rateLimit),
    ("jwt", encodeNullable s.jwt), ("ingressMTLS", encodeNullable s.ingressMtls),
    ("egressMTLS", encodeNullable s.egressMtls), ("oidc", encodeNullable s.oidc)]
  decode := decodeRecord do
    let ingressClassName ← defaulted "ingressClassName" ""
    let accessControl ← nullable "accessControl"
    let rateLimit ← nullable "rateLimit"
    let jwt ← nullable "jwt"
    let ingressMtls ← nullable "ingressMTLS"
    let egressMtls ← nullable "egressMTLS"
    let oidc ← nullable "oidc"
    return { ingressClassName, accessControl, rateLimit, jwt, ingressMtls, egressMtls, oidc }

end Gatehouse
