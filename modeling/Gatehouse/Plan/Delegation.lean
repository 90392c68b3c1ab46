import Gatehouse.Resource
import Gatehouse.Store

/-!
Delegation: the virtual server routes that a virtual server hands paths to. Each of its routes with
a reference looks for the virtual server route of that key, which has to fit the host and the path;
a reference that finds none, or one that does not fit, gives a warning instead.
-/

set_option autoImplicit false

namespace Gatehouse

/-- What a reference of a virtual server comes to. -/
inductive Delegate
  | found (vsr : VirtualServerRoute)
  | missing (key : String)
  | unfit (key : String) (errors : List FieldError)

namespace Delegate

/-- The virtual server route that was found. -/
def route? : Delegate → Option VirtualServerRoute
  | .found vsr => some vsr
  | _ => none

/-- The warning about a reference that came to nothing. -/
def warning? : Delegate → Option String
  | .found _ => none
  | .missing key => some ("VirtualServerRoute " ++ key ++ " doesn't exist or invalid")
  | .unfit key errors =>
    some ("VirtualServerRoute " ++ key ++ " is invalid: " ++ FieldError.summary errors)

end Delegate

/-- What one route of a virtual server comes to. -/
def delegate (a : Admission) (s : Store) (vs : VirtualServer) (r : Route) : Delegate :=
  let key := qualify vs.metadata.spaceOrEmpty r.route
  match s.virtualServerRoutes.get? key with
  | none => .missing key
  | some vsr =>
    match a.delegatedErrors vsr vs.spec.host r.path with
    | [] => .found vsr
    | errors => .unfit key errors

/-- What the references of a virtual server come to, in the order of its routes. -/
def delegates (a : Admission) (s : Store) (vs : VirtualServer) : List Delegate :=
  (vs.spec.routes.filter fun r => !r.route.isEmpty).map (delegate a s vs)

/-- A virtual server with its virtual server routes, before hosts are decided. -/
def virtualServerResource (a : Admission) (s : Store) (vs : VirtualServer) :
    VirtualServerResource :=
  { server := vs
    routes := (delegates a s vs).filterMap (·.route?)
    warnings := (delegates a s vs).filterMap (·.warning?) }

end Gatehouse
