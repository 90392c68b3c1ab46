/-!
The names of the annotations that the controller itself looks at.
-/

set_option autoImplicit false

namespace Gatehouse.Annotations

/-- Names the class of an ingress. -/
def ingressClass : String := "kubernetes.io/ingress.class"

/-- Says which part an ingress plays for its host. -/
def mergeableType : String := "nginx.org/mergeable-ingress-type"

/-- Names the App Protect policy of an ingress. -/
def appProtectPolicy : String := "appprotect.f5.com/app-protect-policy"

/-- Names the App Protect log configurations of an ingress. -/
def appProtectSecurityLog : String := "appprotect.f5.com/app-protect-security-log"

/-- Names the DoS protected resource of an ingress. -/
def dosResource : String := "appprotectdos.f5.com/app-protect-dos-resource"

/-- Names the secret with the token keys of an ingress. -/
def jwtKey : String := "nginx.com/jwt-key"

/-- Switches health checks on. -/
def healthChecks : String := "nginx.com/health-checks"

/-- Makes health checks mandatory. -/
def healthChecksMandatory : String := "nginx.com/health-checks-mandatory"

/-- Switches strict transport security on. -/
def hsts : String := "nginx.org/hsts"

end Gatehouse.Annotations
