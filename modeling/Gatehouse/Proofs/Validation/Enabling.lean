import Gatehouse.Proofs.Store
import Gatehouse.Proofs.Validation.GlobalConfiguration
import Gatehouse.Proofs.Validation.VirtualServer

/-!
Switching features on makes no object wrong.

A check that looks at a feature may replace another check instead of adding to it: a boolean is
asked for only where there is no NGINX Plus, and the form of a reference to a protected resource is
looked at only when App Protect DoS is on. So it is not enough that the list of what needs no
feature stays the same. Each check that looks at a feature is shown to go on finding nothing wrong
when more is on (section 2), where what it does with the feature on has passed already. The checks
of lists and of whole objects hand this on from their parts (section 3).
-/

set_option autoImplicit false

universe u

namespace Gatehouse

/-! ## 1. Features -/

/-- Everything that is on in `f` is on in `g` too, and `g` forbids no other ports than `f`. A port
that is forbidden works against acceptance, so these are compared the other way round. -/
structure Features.LE (f g : Features) : Prop where
  isPlus : f.isPlus = true → g.isPlus = true
  snippets : f.snippetsEnabled = true → g.snippetsEnabled = true
  appProtect : f.appProtectEnabled = true → g.appProtectEnabled = true
  appProtectDos : f.appProtectDosEnabled = true → g.appProtectDosEnabled = true
  internalRoutes : f.internalRoutesEnabled = true → g.internalRoutesEnabled = true
  tlsPassthrough : f.tlsPassthroughEnabled = true → g.tlsPassthroughEnabled = true
  ports : g.forbiddenListenerPorts ⊆ f.forbiddenListenerPorts

instance : LE Features := ⟨Features.LE⟩

namespace Validation

open Format

variable {f g : Features}

/-! ## 2. Checks that look at a feature -/

theorem snippetErrors_mono {path : Path} {snippet : String} (hfg : f ≤ g)
    (h : snippetErrors f.snippetsEnabled path snippet = []) :
    snippetErrors g.snippetsEnabled path snippet = [] := by
  rw [snippetErrors_eq_nil_iff] at h ⊢
  exact h.imp_right hfg.snippets

/-- Once App Protect DoS is on, the form of a reference counts, and it does so in both. With it off
in the first, there is no reference. -/
theorem dosErrors_mono {path : Path} {reference : String} (hfg : f ≤ g)
    (h : dosErrors f path reference = []) : dosErrors g path reference = [] := by
  rw [dosErrors_eq_nil_iff] at h ⊢
  exact h.imp_right fun h => ⟨hfg.appProtectDos h.1, h.2⟩

/-- The commercial build has all methods for requests that there are without it. -/
theorem httpMethodComplaint_mono {text : String} (hfg : f ≤ g)
    (h : httpMethodComplaint f.isPlus text = none) : httpMethodComplaint g.isPlus text = none := by
  rw [httpMethodComplaint_eq_none_iff] at h ⊢
  cases h with
  | none h => exact .none h
  | listed h => exact .listed h
  | plus hplus h => exact .plus (hfg.isPlus hplus) h
  | hash h => exact .hash h

/-- It has all methods for streams too. -/
theorem streamMethodComplaint_mono {method : String} (hfg : f ≤ g)
    (h : streamMethodComplaint f.isPlus method = none) :
    streamMethodComplaint g.isPlus method = none := by
  rw [streamMethodComplaint_eq_none_iff] at h ⊢
  cases h with
  | none h => exact .none h
  | listed h => exact .listed h
  | plus hplus h => exact .plus (hfg.isPlus hplus) h
  | hash h hescaped => exact .hash h hescaped

/-- A rule that an annotation keeps, it keeps with more features. Few rules look at a feature, and
the annotations and services that the others look at are the same. -/
theorem Rule.error?_mono {services : List String} {annotations : Table String} {path : Path}
    {value : String} {rule : Rule} (hfg : f ≤ g)
    (h : rule.error? ⟨f, services, annotations⟩ path value = none) :
    rule.error? ⟨g, services, annotations⟩ path value = none := by
  cases rule with
  | plusOnly => exact demand_eq_none_iff.2 (hfg.isPlus (demand_eq_none_iff.1 h))
  | appProtectOnly => exact demand_eq_none_iff.2 (hfg.appProtect (demand_eq_none_iff.1 h))
  | appProtectDosOnly => exact demand_eq_none_iff.2 (hfg.appProtectDos (demand_eq_none_iff.1 h))
  | internalRoutesOnly => exact demand_eq_none_iff.2 (hfg.internalRoutes (demand_eq_none_iff.1 h))
  | snippets => exact demand_eq_none_iff.2 (hfg.snippets (demand_eq_none_iff.1 h))
  | lbMethod =>
    exact Option.map_eq_none_iff.2 (httpMethodComplaint_mono hfg (Option.map_eq_none_iff.1 h))
  | serverTokens =>
    -- with NGINX Plus the value may be any text
    have hholds := Bool.or_eq_true_iff.1 (demand_eq_none_iff.1 h)
    exact demand_eq_none_iff.2 (Bool.or_eq_true_iff.2 (hholds.imp_left hfg.isPlus))
  | _ => exact h

/-- Once passthrough is on, the listener has to be the built-in one by name and by protocol, and
this is so in both. -/
theorem listenerRefErrors_mono {path : Path} {l : ListenerRef} (hfg : f ≤ g)
    (h : listenerRefErrors f path l = []) : listenerRefErrors g path l = [] := by
  by_cases hpass : l.isPassthrough
  · have hon : f.tlsPassthroughEnabled = true := Store.enabled_of_listenerRefErrors h hpass
    rw [listenerRefErrors, if_pos hpass, passthroughErrors, hon] at h
    rw [listenerRefErrors, if_pos hpass, passthroughErrors, hfg.tlsPassthrough hon]
    exact h
  · rw [listenerRefErrors, if_neg hpass] at h ⊢
    exact h

/-- A port that is not forbidden by more is not forbidden by less. -/
theorem listenerPortErrors_mono {path : Path} {earlier : List Int} {port : Int} (hfg : f ≤ g)
    (h : listenerPortErrors f path earlier port = []) :
    listenerPortErrors g path earlier port = [] := by
  rw [(looksBack_listenerPort _ _ _).eq_nil_iff] at h ⊢
  obtain ⟨hport, hnew⟩ := h
  exact ⟨⟨hport.least, hport.greatest, fun hin => hport.allowed (hfg.ports hin)⟩, hnew⟩

/-! ## 3. Checks of lists and objects -/

/-- A check of a list that passes its items passes them with any check that is as lenient about
items. The items before one are the same in both, so repetitions are no matter here. -/
theorem checkEach_mono {α : Type u} {check other : List α → Nat → α → List FieldError}
    (hcheck : ∀ earlier i x, check earlier i x = [] → other earlier i x = [])
    {earlier items : List α} (h : checkEach check earlier items = []) :
    checkEach other earlier items = [] := by
  rw [checkEach_eq_nil_iff] at h ⊢
  -- an item is judged against the same items before it
  exact fun before x after heq => hcheck _ _ x (h before x after heq)

/-- All known annotations are checked by their rules, and nothing else is. -/
theorem annotationErrors_mono {services : List String} {annotations : Table String} {path : Path}
    (hfg : f ≤ g) (h : annotationErrors ⟨f, services, annotations⟩ path = []) :
    annotationErrors ⟨g, services, annotations⟩ path = [] := by
  rw [annotationErrors, List.filterMap_eq_nil_iff] at h ⊢
  intro known hknown
  have hnone := h known hknown
  -- the first broken rule is the error, so no rule is broken
  simp only [annotationError?, Option.bind_eq_bind, Option.bind_eq_none_iff,
    List.findSome?_eq_none_iff] at hnone ⊢
  exact fun value hvalue rule hrule => Rule.error?_mono hfg (hnone value hvalue rule hrule)

theorem ingressErrors_mono {i : Ingress} (hfg : f ≤ g) (h : ingressErrors f i = []) :
    ingressErrors g i = [] := by
  simp only [ingressErrors, List.append_eq_nil_iff] at h ⊢
  obtain ⟨⟨hannotations, hspec⟩, hpart⟩ := h
  exact ⟨⟨annotationErrors_mono hfg hannotations, hspec⟩, hpart⟩

/-- Of an upstream, the method is the part for which the build counts. -/
theorem httpUpstreamErrors_mono {list : Path} {earlier : List HttpUpstream} {i : Nat}
    {u : HttpUpstream} (hfg : f ≤ g) (h : httpUpstreamErrors f list earlier i u = []) :
    httpUpstreamErrors g list earlier i u = [] := by
  simp only [httpUpstreamErrors, List.append_eq_nil_iff, List.map_eq_nil_iff,
    Option.toList_eq_nil_iff] at h ⊢
  exact ⟨h.1, httpMethodComplaint_mono hfg h.2⟩

/-- Of a route these are the protected resource and the snippet. -/
theorem routeErrors_mono {delegating : Delegating} {upstreams : List String} {list : Path}
    {earlier : List Route} {i : Nat} {r : Route} (hfg : f ≤ g)
    (h : routeErrors f delegating upstreams list earlier i r = []) :
    routeErrors g delegating upstreams list earlier i r = [] := by
  simp only [routeErrors, List.append_eq_nil_iff] at h ⊢
  -- the path, the target and the policies of a route are judged without the features
  obtain ⟨⟨⟨hown, hdos⟩, hsnippet⟩, hrepeated⟩ := h
  exact ⟨⟨⟨hown, dosErrors_mono hfg hdos⟩, snippetErrors_mono hfg hsnippet⟩, hrepeated⟩

/-- For an object, the parts that look at features are taken one by one and the others are left as
they are. -/
theorem virtualServerErrors_mono {vs : VirtualServer} (hfg : f ≤ g)
    (h : virtualServerErrors f vs = []) : virtualServerErrors g vs = [] := by
  simp only [virtualServerErrors, List.append_eq_nil_iff] at h ⊢
  -- so are the host, the certificate and the policies of a virtual server
  obtain ⟨⟨⟨⟨⟨hown, hupstreams⟩, hroutes⟩, hdos⟩, hserver⟩, hhttp⟩ := h
  exact ⟨⟨⟨⟨⟨hown, checkEach_mono (fun _ _ _ => httpUpstreamErrors_mono hfg) hupstreams⟩,
    checkEach_mono (fun _ _ _ => routeErrors_mono hfg) hroutes⟩, dosErrors_mono hfg hdos⟩,
    snippetErrors_mono hfg hserver⟩, snippetErrors_mono hfg hhttp⟩

theorem virtualServerRouteErrors_mono {vsr : VirtualServerRoute} (hfg : f ≤ g)
    (h : virtualServerRouteErrors f vsr = []) : virtualServerRouteErrors g vsr = [] := by
  simp only [virtualServerRouteErrors, List.append_eq_nil_iff] at h ⊢
  obtain ⟨⟨hhost, hupstreams⟩, hsubroutes⟩ := h
  exact ⟨⟨hhost, checkEach_mono (fun _ _ _ => httpUpstreamErrors_mono hfg) hupstreams⟩,
    checkEach_mono (fun _ _ _ => routeErrors_mono hfg) hsubroutes⟩

/-- What a host and a path demand does not depend on the features. -/
theorem delegatedErrors_mono {vsr : VirtualServerRoute} {host path : String} (hfg : f ≤ g)
    (h : delegatedErrors f vsr host path = []) : delegatedErrors g vsr host path = [] := by
  rw [delegatedErrors, List.append_eq_nil_iff] at h ⊢
  exact ⟨virtualServerRouteErrors_mono hfg h.1, h.2⟩

theorem streamUpstreamErrors_mono {list : Path} {earlier : List StreamUpstream} {i : Nat}
    {u : StreamUpstream} (hfg : f ≤ g) (h : streamUpstreamErrors f list earlier i u = []) :
    streamUpstreamErrors g list earlier i u = [] := by
  simp only [streamUpstreamErrors, streamMethodErrors, List.append_eq_nil_iff,
    List.map_eq_nil_iff, Option.toList_eq_nil_iff] at h ⊢
  exact ⟨h.1, streamMethodComplaint_mono hfg h.2⟩

theorem transportServerErrors_mono {ts : TransportServer} (hfg : f ≤ g)
    (h : transportServerErrors f ts = []) : transportServerErrors g ts = [] := by
  simp only [transportServerErrors, List.append_eq_nil_iff] at h ⊢
  obtain ⟨⟨⟨⟨⟨⟨⟨hlistener, hhost⟩, hupstreams⟩, hparameters⟩, hsession⟩, haction⟩, hserver⟩,
    hstream⟩ := h
  exact ⟨⟨⟨⟨⟨⟨⟨listenerRefErrors_mono hfg hlistener, hhost⟩,
    checkEach_mono (fun _ _ _ => streamUpstreamErrors_mono hfg) hupstreams⟩, hparameters⟩,
    hsession⟩, haction⟩, snippetErrors_mono hfg hserver⟩, snippetErrors_mono hfg hstream⟩

/-- Of a listener, the port is the part for which features count. -/
theorem listenerErrors_mono {list : Path} {earlier : List Listener} {i : Nat} {l : Listener}
    (hfg : f ≤ g) (h : listenerErrors f list earlier i l = []) :
    listenerErrors g list earlier i l = [] := by
  simp only [listenerErrors, List.append_eq_nil_iff] at h ⊢
  obtain ⟨⟨hname, hport⟩, hprotocol⟩ := h
  exact ⟨⟨hname, listenerPortErrors_mono hfg hport⟩, hprotocol⟩

theorem globalConfigurationErrors_mono {c : GlobalConfiguration} (hfg : f ≤ g)
    (h : globalConfigurationErrors f c = []) : globalConfigurationErrors g c = [] :=
  checkEach_mono (fun _ _ _ => listenerErrors_mono hfg) h

/-! ## 4. All objects -/

/-- Switching features on, or forbidding fewer ports, makes no object wrong. Whatever else changes
with the features, an ingress, a virtual server, a virtual server route, on its own or for any host
and path, a transport server or a global configuration with which nothing is wrong stays one. -/
theorem enabling_keeps_valid (f g : Features) (hfg : f ≤ g) :
    (∀ i, ingressErrors f i = [] → ingressErrors g i = []) ∧
      (∀ vs, virtualServerErrors f vs = [] → virtualServerErrors g vs = []) ∧
      (∀ vsr, virtualServerRouteErrors f vsr = [] → virtualServerRouteErrors g vsr = []) ∧
      (∀ vsr host path, delegatedErrors f vsr host path = [] →
        delegatedErrors g vsr host path = []) ∧
      (∀ ts, transportServerErrors f ts = [] → transportServerErrors g ts = []) ∧
      ∀ c, globalConfigurationErrors f c = [] → globalConfigurationErrors g c = [] :=
  ⟨fun _ => ingressErrors_mono hfg, fun _ => virtualServerErrors_mono hfg,
    fun _ => virtualServerRouteErrors_mono hfg, fun _ _ _ => delegatedErrors_mono hfg,
    fun _ => transportServerErrors_mono hfg, fun _ => globalConfigurationErrors_mono hfg⟩

/-- A virtual server with a method that needs no feature, a reference to a protected resource, and a
snippet. -/
def fullServer : VirtualServer :=
  ⟨Meta.blank, ⟨"", "cafe.example.com", none, [], [⟨"tea", "tea-svc", ⟨8080, by decide⟩, false,
    "random two least_conn"⟩], [], "shop/web", "deny all;", ""⟩⟩

/-- It is fine with snippets and App Protect DoS, and stays so when everything else is switched on
and a port is set free. -/
theorem fullServer_stays_valid :
    let f : Features := { Features.none with
      snippetsEnabled := true, appProtectDosEnabled := true, forbiddenListenerPorts := [80, 443] }
    let g : Features := ⟨true, true, true, true, true, true, [443]⟩
    f ≤ g ∧ virtualServerErrors f fullServer = [] ∧ virtualServerErrors g fullServer = [] := by
  intro f g
  have hfg : f ≤ g :=
    ⟨fun _ => rfl, fun _ => rfl, fun _ => rfl, fun _ => rfl, fun _ => rfl, fun _ => rfl,
      by decide⟩
  have hvalid : virtualServerErrors f fullServer = [] := by decide +kernel
  exact ⟨hfg, hvalid, (enabling_keeps_valid f g hfg).2.1 fullServer hvalid⟩

end Validation

end Gatehouse
