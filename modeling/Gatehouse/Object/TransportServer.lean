import Gatehouse.Object.Meta

/-!
Transport servers and the listeners they bind to. A transport server balances a TCP, a UDP or a TLS
stream. For TCP and UDP it names a listener, which the global configuration declares with its port;
for TLS it names the built-in passthrough listener, and then it owns a host instead.
-/

set_option autoImplicit false

namespace Gatehouse

open FieldReader

/-! ## 1. Transport servers -/

/-- The listener a transport server asks for. -/
structure ListenerRef where
  name : String
  protocol : String
  deriving DecidableEq

/-- A service that streams are balanced over. -/
structure StreamUpstream where
  name : String
  service : String
  port : Signed32
  failTimeout : String
  maxFails : Option Signed32
  maxConns : Option Signed32
  loadBalancingMethod : String
  deriving DecidableEq

/-- Settings for all upstreams. -/
structure UpstreamParameters where
  udpRequests : Option Signed32
  udpResponses : Option Signed32
  connectTimeout : String
  nextUpstream : Bool
  nextUpstreamTimeout : String
  nextUpstreamTries : Signed32
  deriving DecidableEq

/-- Settings for a session. -/
structure SessionParameters where
  timeout : String
  deriving DecidableEq

/-- What is done with a stream. -/
structure StreamAction where
  pass : String
  deriving DecidableEq

/-- What a transport server asks for. -/
structure TransportServerSpec where
  ingressClassName : String
  listener : ListenerRef
  serverSnippets : String
  streamSnippets : String
  host : String
  upstreams : List StreamUpstream
  upstreamParameters : Option UpstreamParameters
  sessionParameters : Option SessionParameters
  action : Option StreamAction
  deriving DecidableEq

/-- A transport server. -/
abbrev TransportServer := Custom TransportServerSpec

namespace ListenerRef

/-- The name of the built-in listener for TLS passthrough. -/
def passthroughName : String := "tls-passthrough"

/-- The protocol of the built-in listener for TLS passthrough. -/
def passthroughProtocol : String := "TLS_PASSTHROUGH"

/-- The listener looks like the built-in one, by its name or by its protocol. -/
def isPassthrough (l : ListenerRef) : Bool :=
  l.name == passthroughName || l.protocol == passthroughProtocol

end ListenerRef

/-! ## 2. The global configuration -/

/-- A declared listener. -/
structure Listener where
  name : String
  port : Signed32
  protocol : String
  deriving DecidableEq

/-- What a global configuration declares. -/
structure GlobalConfigurationSpec where
  listeners : List Listener
  deriving DecidableEq

/-- A global configuration. -/
abbrev GlobalConfiguration := Custom GlobalConfigurationSpec

/-! ## 3. The wire form -/

instance : Wire ListenerRef where
  encode l := .obj [("name", encode l.name), ("protocol", encode l.protocol)]
  decode := decodeRecord do
    let name ← required "name"
    let protocol ← required "protocol"
    return { name, protocol }

instance : Wire StreamUpstream where
  encode u := .obj [("name", encode u.name), ("service", encode u.service),
    ("port", encode u.port), ("failTimeout", encode u.failTimeout),
    ("maxFails", encodeNullable u.maxFails), ("maxConns", encodeNullable u.maxConns),
    ("loadBalancingMethod", encode u.loadBalancingMethod)]
  decode := decodeRecord do
    let name ← required "name"
    let service ← required "service"
    let port ← required "port"
    let failTimeout ← defaulted "failTimeout" ""
    let maxFails ← nullable "maxFails"
    let maxConns ← nullable "maxConns"
    let loadBalancingMethod ← defaulted "loadBalancingMethod" ""
    return { name, service, port, failTimeout, maxFails, maxConns, loadBalancingMethod }

instance : Wire UpstreamParameters where
  encode p := .obj [("udpRequests", encodeNullable p.udpRequests),
    ("udpResponses", encodeNullable p.udpResponses), ("connectTimeout", encode p.connectTimeout),
    ("nextUpstream", encode p.nextUpstream),
    ("nextUpstreamTimeout", encode p.nextUpstreamTimeout),
    ("nextUpstreamTries", encode p.nextUpstreamTries)]
  decode := decodeRecord do
    let udpRequests ← nullable "udpRequests"
    let udpResponses ← nullable "udpResponses"
    let connectTimeout ← defaulted "connectTimeout" ""
    let nextUpstream ← defaulted "nextUpstream" false
    let nextUpstreamTimeout ← defaulted "nextUpstreamTimeout" ""
    let nextUpstreamTries ← defaulted "nextUpstreamTries" default
    return { udpRequests, udpResponses, connectTimeout, nextUpstream, nextUpstreamTimeout,
             nextUpstreamTries }

instance : Wire SessionParameters where
  encode p := .obj [("timeout", encode p.timeout)]
  decode := decodeRecord do
    let timeout ← defaulted "timeout" ""
    return { timeout }

instance : Wire StreamAction where
  encode a := .obj [("pass", encode a.pass)]
  decode := decodeRecord do
    let pass ← defaulted "pass" ""
    return { pass }

instance : Wire TransportServerSpec where
  encode s := .obj [("ingressClassName", encode s.ingressClassName),
    ("listener", encode s.listener), ("serverSnippets", encode s.serverSnippets),
    ("streamSnippets", encode s.streamSnippets), ("host", encode s.host),
    ("upstreams", encode s.upstreams),
    ("upstreamParameters", encodeNullable s.upstreamParameters),
    ("sessionParameters", encodeNullable s.sessionParameters),
    ("action", encodeNullable s.action)]
  decode := decodeRecord do
    let ingressClassName ← defaulted "ingressClassName" ""
    let listener ← required "listener"
    let serverSnippets ← defaulted "serverSnippets" ""
    let streamSnippets ← defaulted "streamSnippets" ""
    let host ← defaulted "host" ""
    let upstreams ← defaulted "upstreams" []
    let upstreamParameters ← nullable "upstreamParameters"
    let sessionParameters ← nullable "sessionParameters"
    let action ← nullable "action"
    return { ingressClassName, listener, serverSnippets, streamSnippets, host, upstreams,
             upstreamParameters, sessionParameters, action }

instance : Wire Listener where
  encode l := .obj [("name", encode l.name), ("port", encode l.port),
    ("protocol", encode l.protocol)]
  decode := decodeRecord do
    let name ← required "name"
    let port ← required "port"
    let protocol ← required "protocol"
    return { name, port, protocol }

instance : Wire GlobalConfigurationSpec where
  encode s := .obj [("listeners", encode s.listeners)]
  decode := decodeRecord do
    let listeners ← defaulted "listeners" []
    return { listeners }

end Gatehouse
