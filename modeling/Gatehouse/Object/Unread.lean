import Gatehouse.Form

/-!
The parts of objects that no decision depends on. Their form is checked all the same, since an
object with a malformed part cannot be read at all; and two objects that differ in such a part are
different objects.
-/

set_option autoImplicit false

namespace Gatehouse.Unread

open Form

/-! ## 1. Metadata -/

/-- An object that another one belongs to. -/
def owner : Form :=
  .record (texts ["apiVersion", "kind", "name", "uid"] ++
    mayHave .flag ["blockOwnerDeletion", "controller"])

/-- The fields that one writer of an object has set. -/
def managedFields : Form :=
  .record (mayHave .text ["apiVersion", "fieldsType", "manager", "operation", "subresource"] ++
    mayHave .anything ["fieldsV1"] ++ mayHave .time ["time"])

/-- What metadata holds beside the parts that are read. -/
def metadata : Form :=
  .record (mayHave .text ["clusterName", "selfLink"] ++ mayHave (.mapOf .text) ["labels"] ++
    mayHave (.listOf .text) ["finalizers"] ++ mayHave .time ["deletionTimestamp"] ++
    mayHave .int64 ["deletionGracePeriodSeconds"] ++
    mayHave (.listOf owner) ["ownerReferences"] ++
    mayHave (.listOf managedFields) ["managedFields"])

/-! ## 2. Ingresses and services -/

/-- The state of a port of a load balancer. -/
def portStatus : Form := .record (mayHave .text ["error"] ++ number "port" ++ texts ["protocol"])

/-- An entry point of a load balancer. -/
def entryPoint : Form :=
  .record (mayHave .text ["hostname", "ip"] ++ mayHave (.listOf portStatus) ["ports"])

/-- The state of a load balancer. -/
def loadBalancer : Form := .record (mayHave (.listOf entryPoint) ["ingress"])

/-- The state of an ingress. -/
def ingressStatus : Form := .record (mayHave loadBalancer ["loadBalancer"])

/-- A port of a service. -/
def servicePort : Form :=
  .record (mayHave .text ["appProtocol", "name", "protocol"] ++ number "port" ++
    mayHave .int32 ["nodePort"] ++ mayHave (.either .int32 .text) ["targetPort"])

/-- How requests of one client stay together. -/
def sessionAffinity : Form :=
  .record (mayHave (.record (mayHave .int32 ["timeoutSeconds"])) ["clientIP"])

/-- What a service asks for. -/
def serviceSpec : Form :=
  .record (mayHave .flag ["allocateLoadBalancerNodePorts", "publishNotReadyAddresses"] ++
    mayHave .text ["clusterIP", "externalName", "externalTrafficPolicy", "internalTrafficPolicy",
      "ipFamilyPolicy", "loadBalancerClass", "loadBalancerIP", "sessionAffinity", "type"] ++
    mayHave (.listOf .text) ["clusterIPs", "externalIPs", "ipFamilies",
      "loadBalancerSourceRanges"] ++
    mayHave .int32 ["healthCheckNodePort"] ++ mayHave (.listOf servicePort) ["ports"] ++
    mayHave (.mapOf .text) ["selector"] ++ mayHave sessionAffinity ["sessionAffinityConfig"])

/-- A condition that holds of an object, and since when. -/
def condition : Form :=
  .record (mustHave .time "lastTransitionTime" ++ texts ["message", "reason", "status", "type"] ++
    mayHave .int64 ["observedGeneration"])

/-- The state of a service. -/
def serviceStatus : Form :=
  .record (mayHave (.listOf condition) ["conditions"] ++ mayHave loadBalancer ["loadBalancer"])

/-- What a service holds beside its metadata. -/
def service : Form :=
  .record (mayHave serviceSpec ["spec"] ++ mayHave serviceStatus ["status"])

/-! ## 3. Endpoints and secrets -/

/-- An object that is referred to. -/
def objectReference : Form :=
  .record (mayHave .text
    ["apiVersion", "fieldPath", "kind", "name", "namespace", "resourceVersion", "uid"])

/-- An address of an endpoint. -/
def endpointAddress : Form :=
  .record (mayHave .text ["hostname", "nodeName"] ++ texts ["ip"] ++
    mayHave objectReference ["targetRef"])

/-- A port of an endpoint. -/
def endpointPort : Form :=
  .record (mayHave .text ["appProtocol", "name", "protocol"] ++ number "port")

/-- Addresses with the same ports. -/
def endpointSubset : Form :=
  .record (mayHave (.listOf endpointAddress) ["addresses", "notReadyAddresses"] ++
    mayHave (.listOf endpointPort) ["ports"])

/-- What endpoints hold beside their metadata. -/
def endpoints : Form := .record (mayHave (.listOf endpointSubset) ["subsets"])

/-- What a secret holds beside its metadata. -/
def secret : Form :=
  .record (mayHave (.mapOf .bytes) ["data"] ++ mayHave (.mapOf .text) ["stringData"] ++
    mayHave .flag ["immutable"] ++ mayHave .text ["type"])

end Gatehouse.Unread
