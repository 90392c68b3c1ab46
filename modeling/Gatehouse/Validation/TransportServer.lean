import Gatehouse.Format.Balancing
import Gatehouse.Object.TransportServer
import Gatehouse.Validation.Basic
import Gatehouse.Validation.Features

/-!
What is wrong with a transport server or with a global configuration. A TLS passthrough server has
to name the built-in listener by both its name and its protocol, and has a host; any other one
names a listener of its own and has none.
-/

set_option autoImplicit false

namespace Gatehouse.Validation

open Format

/-! ## 1. Listeners -/

/-- The protocols of a declared listener, as they are listed in messages. -/
def acceptedProtocols : String := "Accepted values: TCP, UDP"

/-- The protocol of a listener other than the built-in one. -/
def protocolErrors (path : Path) (protocol : String) : List FieldError :=
  if protocol.isEmpty then [.required path ("must specify protocol. " ++ acceptedProtocols)]
  else if protocol == "TCP" || protocol == "UDP" then []
  else [.invalid path (.text protocol) ("invalid protocol. " ++ acceptedProtocols)]

/-- A listener that looks like the built-in one. -/
def passthroughErrors (f : Features) (path : Path) (l : ListenerRef) : List FieldError :=
  if !f.tlsPassthroughEnabled then [.forbidden path "TLS Passthrough is not enabled"]
  else if l.protocol != ListenerRef.passthroughProtocol then
    [.invalid (path.child "protocol") (.text l.protocol)
      ("must be '" ++ ListenerRef.passthroughProtocol ++ "' for the built-in "
        ++ ListenerRef.passthroughName ++ " listener")]
  else if l.name != ListenerRef.passthroughName then
    [.invalid (path.child "name") (.text l.name)
      ("must be '" ++ ListenerRef.passthroughName ++ "' for a listener with the protocol "
        ++ ListenerRef.passthroughProtocol)]
  else []

/-- The listener a transport server asks for. -/
def listenerRefErrors (f : Features) (path : Path) (l : ListenerRef) : List FieldError :=
  if l.isPassthrough then passthroughErrors f path l
  else labelErrors (path.child "name") l.name ++ protocolErrors (path.child "protocol") l.protocol

/-! ## 2. Transport servers -/

/-- The load balancing method of an upstream. -/
def streamMethodErrors (f : Features) (path : Path) (text : String) : List FieldError :=
  let method := Text.trimmed text
  (streamMethodComplaint f.isPlus method).toList.map fun m => .invalid path (.text method) m

/-- One upstream. -/
def streamUpstreamErrors (f : Features) (list : Path) (earlier : List StreamUpstream) (i : Nat)
    (u : StreamUpstream) : List FieldError :=
  let path := list.index i
  uniqueLabelErrors (path.child "name") (earlier.map (·.name)) u.name ++
  labelErrors (path.child "service") u.service ++
  nonNegativeErrors (path.child "maxFails") (u.maxFails.map (·.val)) ++
  nonNegativeErrors (path.child "maxConns") (u.maxConns.map (·.val)) ++
  timeErrors (path.child "failTimeout") u.failTimeout ++
  portErrors (path.child "port") u.port.val ++
  streamMethodErrors f (path.child "loadBalancingMethod") u.loadBalancingMethod

/-- A number of datagrams, which only UDP has. -/
def datagramErrors (protocol : String) (path : Path) (value : Option Signed32) :
    List FieldError :=
  if value.isSome && protocol != "UDP" then
    [.forbidden path "is not allowed for non-UDP TransportServers"]
  else nonNegativeErrors path (value.map (·.val))

/-- The settings for all upstreams. -/
def upstreamParametersErrors (protocol : String) (path : Path) (p : UpstreamParameters) :
    List FieldError :=
  datagramErrors protocol (path.child "udpRequests") p.udpRequests ++
  datagramErrors protocol (path.child "udpResponses") p.udpResponses ++
  timeErrors (path.child "connectTimeout") p.connectTimeout ++
  timeErrors (path.child "nextUpstreamTimeout") p.nextUpstreamTimeout ++
  nonNegativeErrors (path.child "nextUpstreamTries") (some p.nextUpstreamTries.val)

/-- What is done with the streams. -/
def streamActionErrors (path : Path) (upstreams : List String) (action : Option StreamAction) :
    List FieldError :=
  match action with
  | none => [.required path "must specify action"]
  | some a =>
    if a.pass.isEmpty then [.required path "must specify pass"]
    else if upstreams.contains a.pass then []
    else [.notFound (path.child "pass") (.text a.pass)]

/-- The host, which only a TLS passthrough server has. -/
def streamHostErrors (path : Path) (l : ListenerRef) (host : String) : List FieldError :=
  if l.isPassthrough then hostErrors path host
  else if host.isEmpty then []
  else [.forbidden path "host field is allowed only for TLS Passthrough TransportServers"]

/-- What is wrong with a transport server. -/
def transportServerErrors (f : Features) (ts : TransportServer) : List FieldError :=
  let path := Path.top "spec"
  let spec := ts.spec
  listenerRefErrors f (path.child "listener") spec.listener ++
  streamHostErrors (path.child "host") spec.listener spec.host ++
  checkEach (streamUpstreamErrors f (path.child "upstreams")) [] spec.upstreams ++
  (match spec.upstreamParameters with
  | none => []
  | some p =>
    upstreamParametersErrors spec.listener.protocol (path.child "upstreamParameters") p) ++
  (match spec.sessionParameters with
  | none => []
  | some p => timeErrors ((path.child "sessionParameters").child "timeout") p.timeout) ++
  streamActionErrors (path.child "action") (properNames (spec.upstreams.map (·.name)))
    spec.action ++
  snippetErrors f.snippetsEnabled (path.child "serverSnippets") spec.serverSnippets ++
  snippetErrors f.snippetsEnabled (path.child "streamSnippets") spec.streamSnippets

/-! ## 3. Global configurations -/

/-- The name of a declared listener. -/
def listenerNameErrors (path : Path) (earlier : List String) (name : String) : List FieldError :=
  if name == ListenerRef.passthroughName then [.forbidden path "reserved name"]
  else uniqueLabelErrors path earlier name

/-- The port of a declared listener. -/
def listenerPortErrors (f : Features) (path : Path) (earlier : List Int) (port : Int) :
    List FieldError :=
  if !isPort port then portErrors path port
  else if f.forbiddenListenerPorts.contains port then
    [.forbidden path ("port " ++ toString port ++ " is forbidden")]
  else if earlier.contains port then [.duplicate path (.number port)]
  else []

/-- One declared listener. -/
def listenerErrors (f : Features) (list : Path) (earlier : List Listener) (i : Nat)
    (l : Listener) : List FieldError :=
  let path := list.index i
  listenerNameErrors (path.child "name") (earlier.map (·.name)) l.name ++
  listenerPortErrors f (path.child "port") (earlier.map (·.port.val)) l.port.val ++
  protocolErrors (path.child "protocol") l.protocol

/-- What is wrong with a global configuration. -/
def globalConfigurationErrors (f : Features) (g : GlobalConfiguration) : List FieldError :=
  checkEach (listenerErrors f ((Path.top "spec").child "listeners")) [] g.spec.listeners

end Gatehouse.Validation
