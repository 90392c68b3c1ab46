/-!
The optional capabilities of the proxy and of the controller. Objects that need a capability which
is off are refused.
-/

set_option autoImplicit false

namespace Gatehouse

/-- What is switched on, and the ports that the proxy already binds, which listeners may not
use. -/
structure Features where
  isPlus : Bool
  snippetsEnabled : Bool
  appProtectEnabled : Bool
  appProtectDosEnabled : Bool
  internalRoutesEnabled : Bool
  tlsPassthroughEnabled : Bool
  forbiddenListenerPorts : List Int
  deriving DecidableEq

/-- Nothing is switched on and no port is forbidden. -/
def Features.none : Features := ⟨false, false, false, false, false, false, []⟩

end Gatehouse
