import Gatehouse.Object.Ingress
import Gatehouse.Object.Policy
import Gatehouse.Object.Protection
import Gatehouse.Object.TransportServer
import Gatehouse.Object.VirtualServer

/-!
The kinds of object that the controller watches, and an object of any of them.
-/

set_option autoImplicit false

namespace Gatehouse

/-- A kind of object. -/
inductive Kind
  | ingress
  | virtualServer
  | virtualServerRoute
  | transportServer
  | globalConfiguration
  | policy
  | service
  | endpoints
  | secret
  | apPolicy
  | apLogConf
  | apUserSig
  | dosPolicy
  | dosLogConf
  | dosProtected
  deriving DecidableEq, Repr

namespace Kind

/-- All kinds. -/
def all : List Kind :=
  [.ingress, .virtualServer, .virtualServerRoute, .transportServer, .globalConfiguration, .policy,
    .service, .endpoints, .secret, .apPolicy, .apLogConf, .apUserSig, .dosPolicy, .dosLogConf,
    .dosProtected]

/-- The name of a kind. -/
def name : Kind → String
  | .ingress => "Ingress"
  | .virtualServer => "VirtualServer"
  | .virtualServerRoute => "VirtualServerRoute"
  | .transportServer => "TransportServer"
  | .globalConfiguration => "GlobalConfiguration"
  | .policy => "Policy"
  | .service => "Service"
  | .endpoints => "Endpoints"
  | .secret => "Secret"
  | .apPolicy => "APPolicy"
  | .apLogConf => "APLogConf"
  | .apUserSig => "APUserSig"
  | .dosPolicy => "APDosPolicy"
  | .dosLogConf => "APDosLogConf"
  | .dosProtected => "DosProtectedResource"

/-- The kind of a name. -/
def ofName? (name : String) : Option Kind := all.find? fun k => k.name == name

theorem mem_all (k : Kind) : k ∈ all := by cases k <;> decide

end Kind

/-- An object of any kind. Of the core kinds other than ingresses only the metadata is kept. -/
inductive Object
  | ingress (o : Ingress)
  | virtualServer (o : VirtualServer)
  | virtualServerRoute (o : VirtualServerRoute)
  | transportServer (o : TransportServer)
  | globalConfiguration (o : GlobalConfiguration)
  | policy (o : Policy)
  | service (m : Meta)
  | endpoints (m : Meta)
  | secret (m : Meta)
  | apPolicy (o : ApPolicy)
  | apLogConf (o : LogConf)
  | apUserSig (o : ApUserSig)
  | dosPolicy (o : DosPolicy)
  | dosLogConf (o : LogConf)
  | dosProtected (o : DosProtected)
  deriving DecidableEq

namespace Object

/-- Reads an object of a kind. -/
def decode : Kind → Json → Option Object
  | .ingress, j => (Ingress.decode j).map .ingress
  | .virtualServer, j => (Custom.decode j).map .virtualServer
  | .virtualServerRoute, j => (Custom.decode j).map .virtualServerRoute
  | .transportServer, j => (Custom.decode j).map .transportServer
  | .globalConfiguration, j => (Custom.decode j).map .globalConfiguration
  | .policy, j => (Custom.decode j).map .policy
  | .service, j => (decodeMetadataOnly "Service" Unread.service j).map .service
  | .endpoints, j => (decodeMetadataOnly "Endpoints" Unread.endpoints j).map .endpoints
  | .secret, j => (decodeMetadataOnly "Secret" Unread.secret j).map .secret
  | .apPolicy, j => (Custom.decode j).map .apPolicy
  | .apLogConf, j => (Custom.decode j).map .apLogConf
  | .apUserSig, j => (Custom.decode j).map .apUserSig
  | .dosPolicy, j => (Custom.decode j).map .dosPolicy
  | .dosLogConf, j => (Custom.decode j).map .dosLogConf
  | .dosProtected, j => (Custom.decode j).map .dosProtected

/-- The kind of an object. -/
def kind : Object → Kind
  | .ingress _ => .ingress
  | .virtualServer _ => .virtualServer
  | .virtualServerRoute _ => .virtualServerRoute
  | .transportServer _ => .transportServer
  | .globalConfiguration _ => .globalConfiguration
  | .policy _ => .policy
  | .service _ => .service
  | .endpoints _ => .endpoints
  | .secret _ => .secret
  | .apPolicy _ => .apPolicy
  | .apLogConf _ => .apLogConf
  | .apUserSig _ => .apUserSig
  | .dosPolicy _ => .dosPolicy
  | .dosLogConf _ => .dosLogConf
  | .dosProtected _ => .dosProtected

/-- The metadata of an object. -/
def metadata : Object → Meta
  | .ingress o => o.metadata
  | .service m | .endpoints m | .secret m => m
  | .virtualServer o => o.metadata
  | .virtualServerRoute o => o.metadata
  | .transportServer o => o.metadata
  | .globalConfiguration o => o.metadata
  | .policy o => o.metadata
  | .apPolicy o => o.metadata
  | .apLogConf o => o.metadata
  | .apUserSig o => o.metadata
  | .dosPolicy o => o.metadata
  | .dosLogConf o => o.metadata
  | .dosProtected o => o.metadata

/-- The key of an object with its kind. -/
def key (o : Object) : String := joinKey o.kind.name o.metadata.key

/-- The specification of a custom object, written out with all known fields. -/
def encodeSpec? : Object → Option Json
  | .virtualServer o => some (encode o.spec)
  | .virtualServerRoute o => some (encode o.spec)
  | .transportServer o => some (encode o.spec)
  | .globalConfiguration o => some (encode o.spec)
  | .policy o => some (encode o.spec)
  | .apPolicy o => some (encode o.spec)
  | .apLogConf o => some (encode o.spec)
  | .apUserSig o => some (encode o.spec)
  | .dosPolicy o => some (encode o.spec)
  | .dosLogConf o => some (encode o.spec)
  | .dosProtected o => some (encode o.spec)
  | .ingress _ | .service _ | .endpoints _ | .secret _ => none

end Object

end Gatehouse
