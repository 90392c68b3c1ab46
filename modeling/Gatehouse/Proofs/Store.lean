import Gatehouse.Proofs.Resource
import Gatehouse.Proofs.Table
import Gatehouse.Proofs.Validation.Ingress
import Gatehouse.Proofs.Validation.TransportServer
import Gatehouse.Store

/-!
What holds of a store that only admission has filled.

`Admitted` says that every object lies under its own key and has passed admission. With the checks
of the kinds this makes a store `Sound`: no transport server can ask for the built-in listener by
its name and for a declared one by its protocol, so that none is a claimant for a host and for a
listener at once, and a master and its minions are about one host each.
-/

set_option autoImplicit false

namespace Gatehouse

/-! ## 1. Virtual server routes that fit -/

/-- A virtual server route can only take paths of its own host. Of the check that a virtual server
makes of it, this is all that the plans rely on. -/
def Admission.KeepsHosts (a : Admission) : Prop :=
  ∀ vsr host path, a.delegatedErrors vsr host path = [] → vsr.spec.host = host

/-- The built-in checks compare the hosts. -/
theorem Admission.keepsHosts_checked (className : String) (f : Features) :
    (checked className f).KeepsHosts := by
  intro vsr host path h
  simp only [checked, Validation.delegatedErrors, Validation.delegationErrors,
    List.append_eq_nil_iff] at h
  -- another host is an error of its own
  by_contra hne
  have hhost := h.2.1
  rw [if_neg hne] at hhost
  cases hhost

namespace Store

/-! ## 2. Admitted stores -/

/-- Every object lies under its own key and has passed admission. Runs keep this, whatever the
admission is. -/
structure Admitted (a : Admission) (s : Store) : Prop where
  ingress : ∀ key i, s.ingresses.get? key = some i →
    i.metadata.key = key ∧ a.selectsIngress i = true ∧ a.ingressErrors i = []
  virtualServer : ∀ key vs, s.virtualServers.get? key = some vs →
    vs.metadata.key = key ∧ a.selectsClassName vs.spec.ingressClassName = true ∧
      a.virtualServerErrors vs = []
  virtualServerRoute : ∀ key vsr, s.virtualServerRoutes.get? key = some vsr →
    vsr.metadata.key = key ∧ a.selectsClassName vsr.spec.ingressClassName = true ∧
      a.virtualServerRouteErrors vsr = []
  transportServer : ∀ key ts, s.transportServers.get? key = some ts →
    ts.metadata.key = key ∧ a.selectsClassName ts.spec.ingressClassName = true ∧
      a.transportServerErrors ts = []
  policy : ∀ key p, s.policies.get? key = some p →
    p.metadata.key = key ∧ a.selectsClassName p.spec.ingressClassName = true
  globalConfiguration : ∀ g, s.globalConfiguration = some g → a.globalConfigurationErrors g = []

/-! ## 3. Sound stores -/

/-- Objects lie under their own keys, masters and minions have one rule, and a transport server that
looks like one for the built-in listener has its protocol. The plans need no more of the checks than
this. -/
structure Sound (s : Store) : Prop where
  ingress_key : ∀ key i, s.ingresses.get? key = some i → i.metadata.key = key
  virtualServer_key : ∀ key vs, s.virtualServers.get? key = some vs → vs.metadata.key = key
  virtualServerRoute_key :
    ∀ key vsr, s.virtualServerRoutes.get? key = some vsr → vsr.metadata.key = key
  transportServer_key : ∀ key ts, s.transportServers.get? key = some ts → ts.metadata.key = key
  one_rule : ∀ key i, s.ingresses.get? key = some i → i.isMaster = true ∨ i.isMinion = true →
    ∃ rule, i.rules = [rule]
  passthrough_iff : ∀ key ts, s.transportServers.get? key = some ts →
    (ts.spec.listener.isPassthrough = true ↔
      ts.spec.listener.protocol = ListenerRef.passthroughProtocol)

/-- A reference to the built-in listener that passes the checks names it by its protocol. -/
theorem passthrough_iff_of_listenerRefErrors {f : Features} {path : Path} {l : ListenerRef}
    (h : Validation.listenerRefErrors f path l = []) :
    l.isPassthrough = true ↔ l.protocol = ListenerRef.passthroughProtocol := by
  rw [Validation.isPassthrough_eq_true_iff]
  refine ⟨fun hlooks => ?_, .inr⟩
  rw [Validation.listenerRefErrors, if_pos (Validation.isPassthrough_eq_true_iff.2 hlooks)] at h
  exact (Validation.passthroughErrors_eq_nil_iff.1 h).2.2

/-- Only with passthrough switched on can a transport server ask for the built-in listener. -/
theorem enabled_of_listenerRefErrors {f : Features} {path : Path} {l : ListenerRef}
    (h : Validation.listenerRefErrors f path l = []) (hpass : l.isPassthrough = true) :
    f.tlsPassthroughEnabled = true := by
  rw [Validation.listenerRefErrors, if_pos hpass] at h
  exact (Validation.passthroughErrors_eq_nil_iff.1 h).1

/-- The check of the listener is one of those of a transport server. -/
theorem listenerRefErrors_eq_nil {f : Features} {ts : TransportServer}
    (h : Validation.transportServerErrors f ts = []) :
    Validation.listenerRefErrors f ((Path.top "spec").child "listener") ts.spec.listener = [] := by
  simp only [Validation.transportServerErrors, List.append_eq_nil_iff] at h
  exact h.1.1.1.1.1.1.1

/-- So what the built-in checks have let in makes a sound store. -/
theorem Admitted.sound {className : String} {f : Features} {s : Store}
    (h : Admitted (.checked className f) s) : Sound s where
  ingress_key key i hi := (h.ingress key i hi).1
  virtualServer_key key vs hvs := (h.virtualServer key vs hvs).1
  virtualServerRoute_key key vsr hvsr := (h.virtualServerRoute key vsr hvsr).1
  transportServer_key key ts hts := (h.transportServer key ts hts).1
  one_rule key i hi := Validation.one_rule_of_ingressErrors (h.ingress key i hi).2.2
  passthrough_iff key ts hts :=
    passthrough_iff_of_listenerRefErrors
      (listenerRefErrors_eq_nil (h.transportServer key ts hts).2.2)

end Store

end Gatehouse
