import Gatehouse.Validation.Ingress
import Gatehouse.Validation.TransportServer
import Gatehouse.Validation.VirtualServer

/-!
Admission: which objects the controller takes on. An object has to be meant for the controller,
which its class says, and nothing may be wrong with it. Both judgements are functions of the object
alone; they are kept in one record, so that everything built on them holds for any such functions.
-/

set_option autoImplicit false

namespace Gatehouse

/-! ## 1. Classes -/

/-- An ingress is meant for the class that its annotation names or, without one, its specification.
It has to name it. -/
def selectsIngress (className : String) (i : Ingress) : Bool :=
  let annotated := (i.metadata.annotation? Annotations.ingressClass).getD ""
  if annotated.isEmpty then (i.spec.bind (·.ingressClassName)).getD "" == className
  else annotated == className

/-- A custom object is meant for the class that it names, and for any class when it names none. -/
def selectsClassName (className named : String) : Bool := named.isEmpty || named == className

/-! ## 2. The two judgements -/

/-- Which objects are meant for the controller, and what is wrong with an object. A check finds
nothing wrong exactly when its list is empty; there is no rejection without an error to tell. -/
structure Admission where
  selectsIngress : Ingress → Bool
  selectsClassName : String → Bool
  ingressErrors : Ingress → List FieldError
  virtualServerErrors : VirtualServer → List FieldError
  virtualServerRouteErrors : VirtualServerRoute → List FieldError
  delegatedErrors : VirtualServerRoute → (host path : String) → List FieldError
  transportServerErrors : TransportServer → List FieldError
  globalConfigurationErrors : GlobalConfiguration → List FieldError

namespace Admission

/-- Admission by class and by the checks of the kinds. -/
def checked (className : String) (f : Features) : Admission where
  selectsIngress := Gatehouse.selectsIngress className
  selectsClassName := Gatehouse.selectsClassName className
  ingressErrors := Validation.ingressErrors f
  virtualServerErrors := Validation.virtualServerErrors f
  virtualServerRouteErrors := Validation.virtualServerRouteErrors f
  delegatedErrors := Validation.delegatedErrors f
  transportServerErrors := Validation.transportServerErrors f
  globalConfigurationErrors := Validation.globalConfigurationErrors f

/-- Admission by class alone. -/
def unchecked (className : String) : Admission where
  selectsIngress := Gatehouse.selectsIngress className
  selectsClassName := Gatehouse.selectsClassName className
  ingressErrors _ := []
  virtualServerErrors _ := []
  virtualServerRouteErrors _ := []
  delegatedErrors _ _ _ := []
  transportServerErrors _ := []
  globalConfigurationErrors _ := []

end Admission

end Gatehouse
