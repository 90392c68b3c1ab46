import Gatehouse.Proofs.Configuration.Parts
import Gatehouse.Proofs.Validation.VirtualServer

/-!
Features that are switched off are not used by anything that is served.

What an object uses a feature for can stand in many places: in annotations, in the specification, in
each route and each upstream. `Object.Needs` lists the places. Each has a check of its own, and an
object that is let in passes all of them (`passes_of_admits`). A check that finds nothing wrong
where something stands means that the feature is on (`has_of_needs`), so nothing more has to be
known of an object than that it was let in. Whatever way it came to be served, as a resource, as a
minion or as a virtual server route, at once or after others were gone, it was
(`Configuration.takenOn_of_mem_parts`).
-/

set_option autoImplicit false

namespace Gatehouse

open Format Validation

/-! ## 1. What needs a feature -/

/-- The features that can be switched on, and that some part of an object cannot do without. -/
inductive Feature
  | plus
  | snippets
  | appProtect
  | appProtectDos
  | internalRoutes
  | tlsPassthrough

/-- The feature is switched on. -/
def Features.has (f : Features) : Feature → Bool
  | .plus => f.isPlus
  | .snippets => f.snippetsEnabled
  | .appProtect => f.appProtectEnabled
  | .appProtectDos => f.appProtectDosEnabled
  | .internalRoutes => f.internalRoutesEnabled
  | .tlsPassthrough => f.tlsPassthroughEnabled

/-- The annotations of ingresses that need a feature. -/
def Feature.annotations : Feature → List String
  | plus =>
    ["appprotectdos.f5.com/app-protect-dos-resource", "nginx.com/health-checks",
      "nginx.com/health-checks-mandatory", "nginx.com/health-checks-mandatory-queue",
      "nginx.com/jwt-key", "nginx.com/jwt-login-url", "nginx.com/jwt-realm", "nginx.com/jwt-token",
      "nginx.com/slow-start", "nginx.com/sticky-cookie-services"]
  | snippets => ["nginx.org/location-snippets", "nginx.org/server-snippets"]
  | appProtect =>
    ["appprotect.f5.com/app-protect-enable", "appprotect.f5.com/app-protect-policy",
      "appprotect.f5.com/app-protect-security-log",
      "appprotect.f5.com/app-protect-security-log-enable"]
  | appProtectDos => ["appprotectdos.f5.com/app-protect-dos-resource"]
  | internalRoutes => ["nsm.nginx.com/internal-route"]
  | tlsPassthrough => []

namespace Object

/-- The value of an annotation that is read: those of ingresses are. -/
def annotation? (name : String) : Object → Option String
  | .ingress i => i.metadata.annotation? name
  | _ => none

/-- The snippets in the specification of an object. -/
def snippets : Object → List String
  | .virtualServer vs =>
    vs.spec.serverSnippets :: vs.spec.httpSnippets :: vs.spec.routes.map (·.locationSnippets)
  | .virtualServerRoute vsr => vsr.spec.subroutes.map (·.locationSnippets)
  | .transportServer ts => [ts.spec.serverSnippets, ts.spec.streamSnippets]
  | _ => []

/-- The references to protected resources in the specification of an object. -/
def protectedReferences : Object → List String
  | .virtualServer vs => vs.spec.dos :: vs.spec.routes.map (·.dos)
  | .virtualServerRoute vsr => vsr.spec.subroutes.map (·.dos)
  | _ => []

/-- The load balancing methods for requests that an object asks for. -/
def requestMethods : Object → List String
  | o@(.ingress _) => (o.annotation? "nginx.org/lb-method").toList
  | .virtualServer vs => vs.spec.upstreams.map (·.lbMethod)
  | .virtualServerRoute vsr => vsr.spec.upstreams.map (·.lbMethod)
  | _ => []

/-- The load balancing methods for streams that an object asks for. -/
def streamMethods : Object → List String
  | .transportServer ts => ts.spec.upstreams.map (·.loadBalancingMethod)
  | _ => []

/-- The listener that an object asks for. -/
def listener? : Object → Option ListenerRef
  | .transportServer ts => some ts.spec.listener
  | _ => none

/-- The object has something that needs the feature. There is a constructor for each sort of place
where that can be. -/
inductive Needs (o : Object) : Feature → Prop
  | annotation {feature : Feature} {name value : String} (hname : name ∈ feature.annotations)
      (hvalue : o.annotation? name = some value) : Needs o feature
  | snippet {s : String} (hs : s ∈ o.snippets) (hne : s ≠ "") : Needs o .snippets
  | protectedReference {r : String} (hr : r ∈ o.protectedReferences) (hne : r ≠ "") :
      Needs o .appProtectDos
  | requestMethod {m : String} (hm : m ∈ o.requestMethods)
      (hplus : Text.trimmed m ∈ plusHttpMethods) : Needs o .plus
  | streamMethod {m : String} (hm : m ∈ o.streamMethods)
      (hplus : Text.trimmed m ∈ plusStreamMethods) : Needs o .plus
  | listener {l : ListenerRef} (hl : o.listener? = some l)
      (h : l.name = ListenerRef.passthroughName ∨ l.protocol = ListenerRef.passthroughProtocol) :
      Needs o .tlsPassthrough

/-- The checks of the places where a feature can be needed find nothing wrong. It is made so that
the kinds of object need not be told apart any more. -/
structure Passes (f : Features) (o : Object) : Prop where
  rule : ∀ known ∈ knownAnnotations, ∀ value, o.annotation? known.1 = some value →
    ∀ rule ∈ known.2, ∃ c path, c.features = f ∧ Rule.error? c path value rule = none
  snippet : ∀ s ∈ o.snippets, ∃ path, snippetErrors f.snippetsEnabled path s = []
  protectedReference : ∀ r ∈ o.protectedReferences, ∃ path, dosErrors f path r = []
  requestMethod : ∀ m ∈ o.requestMethods, httpMethodComplaint f.isPlus m = none
  streamMethod : ∀ m ∈ o.streamMethods, streamMethodComplaint f.isPlus (Text.trimmed m) = none
  listener : ∀ l, o.listener? = some l → ∃ path, listenerRefErrors f path l = []

end Object

/-! ## 2. Every place is checked -/

namespace Validation

/-- The annotations of an ingress keep all of their rules. -/
theorem error?_eq_none_of_ingressErrors {f : Features} {i : Ingress} (h : ingressErrors f i = [])
    {known : String × List Rule} (hknown : known ∈ knownAnnotations) {value : String}
    (hvalue : i.metadata.annotation? known.1 = some value) {rule : Rule} (hrule : rule ∈ known.2) :
    ∃ c path, c.features = f ∧ Rule.error? c path value rule = none := by
  have hkept := (ingressErrors_eq_nil_iff.1 h).annotations known hknown value hvalue rule hrule
  exact ⟨ruleContext f i, .top "annotations", rfl, Rule.error?_eq_none_iff.2 hkept⟩

/-- An ingress with which nothing is wrong passes them: of the places it has annotations, and among
these is the one for the method. -/
theorem passes_ingress {f : Features} {i : Ingress} (h : ingressErrors f i = []) :
    (Object.ingress i).Passes f where
  rule _ hknown _ hvalue _ hrule := error?_eq_none_of_ingressErrors h hknown hvalue hrule
  snippet := by simp [Object.snippets]
  protectedReference := by simp [Object.protectedReferences]
  requestMethod m hm := by
    have hvalue : i.metadata.annotation? "nginx.org/lb-method" = some m := Option.mem_toList.1 hm
    have hknown : ("nginx.org/lb-method", [Rule.required, .lbMethod]) ∈ knownAnnotations := by
      decide
    obtain ⟨c, path, rfl, hnone⟩ := error?_eq_none_of_ingressErrors h hknown hvalue
      (List.mem_cons_of_mem _ (List.mem_singleton_self _))
    exact Option.map_eq_none_iff.1 hnone
  streamMethod := by simp [Object.streamMethods]
  listener := by simp [Object.listener?]

/-- The reference and the snippet of a route are checked. -/
theorem of_routeErrors {f : Features} {delegating : Delegating} {upstreams : List String}
    {list : Path} {routes : List Route}
    (h : checkEach (routeErrors f delegating upstreams list) [] routes = []) {r : Route}
    (hr : r ∈ routes) : (∃ path, dosErrors f path r.dos = []) ∧
      ∃ path, snippetErrors f.snippetsEnabled path r.locationSnippets = [] := by
  obtain ⟨earlier, i, hroute⟩ := exists_of_checkEach h hr
  simp only [routeErrors, List.append_eq_nil_iff] at hroute
  obtain ⟨⟨⟨-, hdos⟩, hsnippet⟩, -⟩ := hroute
  exact ⟨⟨_, hdos⟩, _, hsnippet⟩

/-- So is the method of an upstream. -/
theorem of_httpUpstreamErrors {f : Features} {list : Path} {upstreams : List HttpUpstream}
    (h : checkEach (httpUpstreamErrors f list) [] upstreams = []) {u : HttpUpstream}
    (hu : u ∈ upstreams) : httpMethodComplaint f.isPlus u.lbMethod = none := by
  obtain ⟨earlier, i, hupstream⟩ := exists_of_checkEach h hu
  simp only [httpUpstreamErrors, List.append_eq_nil_iff, List.map_eq_nil_iff,
    Option.toList_eq_nil_iff] at hupstream
  exact hupstream.2

/-- For a virtual server each place is in the list of one of its checks: its own snippets and
reference, the routes with theirs, and the upstreams with their methods. -/
theorem passes_virtualServer {f : Features} {vs : VirtualServer}
    (h : virtualServerErrors f vs = []) : (Object.virtualServer vs).Passes f := by
  simp only [virtualServerErrors, List.append_eq_nil_iff] at h
  obtain ⟨⟨⟨⟨⟨-, hupstreams⟩, hroutes⟩, hdos⟩, hserver⟩, hhttp⟩ := h
  -- A VirtualServer has no annotations with rules and no listeners: those fields are empty.
  refine
    { rule := by simp [Object.annotation?]
      snippet := fun s hs => ?_
      protectedReference := fun r hr => ?_
      requestMethod := fun m hm => ?_
      streamMethod := by simp [Object.streamMethods]
      listener := by simp [Object.listener?] }
  · obtain rfl | hs := List.mem_cons.1 hs
    · exact ⟨_, hserver⟩
    obtain rfl | hs := List.mem_cons.1 hs
    · exact ⟨_, hhttp⟩
    obtain ⟨route, hroute, rfl⟩ := List.mem_map.1 hs
    exact (of_routeErrors hroutes hroute).2
  · obtain rfl | hr := List.mem_cons.1 hr
    · exact ⟨_, hdos⟩
    obtain ⟨route, hroute, rfl⟩ := List.mem_map.1 hr
    exact (of_routeErrors hroutes hroute).1
  · obtain ⟨u, hu, rfl⟩ := List.mem_map.1 hm
    exact of_httpUpstreamErrors hupstreams hu

/-- A virtual server route has those of its subroutes and upstreams. -/
theorem passes_virtualServerRoute {f : Features} {vsr : VirtualServerRoute}
    (h : virtualServerRouteErrors f vsr = []) : (Object.virtualServerRoute vsr).Passes f := by
  simp only [virtualServerRouteErrors, List.append_eq_nil_iff] at h
  obtain ⟨⟨-, hupstreams⟩, hsubroutes⟩ := h
  refine
    { rule := by simp [Object.annotation?]
      snippet := fun s hs => ?_
      protectedReference := fun r hr => ?_
      requestMethod := fun m hm => ?_
      streamMethod := by simp [Object.streamMethods]
      listener := by simp [Object.listener?] }
  · obtain ⟨route, hroute, rfl⟩ := List.mem_map.1 hs
    exact (of_routeErrors hsubroutes hroute).2
  · obtain ⟨route, hroute, rfl⟩ := List.mem_map.1 hr
    exact (of_routeErrors hsubroutes hroute).1
  · obtain ⟨u, hu, rfl⟩ := List.mem_map.1 hm
    exact of_httpUpstreamErrors hupstreams hu

/-- And a transport server its own snippets, its methods and the listener. -/
theorem passes_transportServer {f : Features} {ts : TransportServer}
    (h : transportServerErrors f ts = []) : (Object.transportServer ts).Passes f := by
  simp only [transportServerErrors, List.append_eq_nil_iff] at h
  obtain ⟨⟨⟨⟨⟨⟨⟨hlistener, -⟩, hupstreams⟩, -⟩, -⟩, -⟩, hserver⟩, hstream⟩ := h
  refine
    { rule := by simp [Object.annotation?]
      snippet := fun s hs => ?_
      protectedReference := by simp [Object.protectedReferences]
      requestMethod := by simp [Object.requestMethods]
      streamMethod := fun m hm => ?_
      listener := fun l hl => ?_ }
  · obtain rfl | hs := List.mem_cons.1 hs
    · exact ⟨_, hserver⟩
    · exact ⟨_, List.mem_singleton.1 hs ▸ hstream⟩
  · obtain ⟨u, hu, rfl⟩ := List.mem_map.1 hm
    -- The check of an upstream knows the names before it; its part about the method does not.
    obtain ⟨earlier, i, hupstream⟩ := exists_of_checkEach hupstreams hu
    simp only [streamUpstreamErrors, streamMethodErrors, List.append_eq_nil_iff,
      List.map_eq_nil_iff, Option.toList_eq_nil_iff] at hupstream
    exact hupstream.2
  · obtain rfl := Option.some.inj hl
    exact ⟨_, hlistener⟩

end Validation

/-! ## 3. What a check that finds nothing wrong means -/

/-- The rule that says of an annotation that it needs the feature. No annotation needs TLS
passthrough. -/
def Feature.rule? : Feature → Option Rule
  | plus => some .plusOnly
  | snippets => some .snippets
  | appProtect => some .appProtectOnly
  | appProtectDos => some .appProtectDosOnly
  | internalRoutes => some .internalRoutesOnly
  | tlsPassthrough => none

/-- The annotations that need a feature are those with the rule. This ties the list to the table of
rules. -/
theorem Feature.annotations_eq (feature : Feature) :
    feature.annotations = (knownAnnotations.filter fun known =>
      feature.rule?.any known.2.contains).map Prod.fst := by
  cases feature <;> decide

namespace Validation

/-- A rule that asks for a feature is kept only where the feature is on. -/
theorem has_of_rule {feature : Feature} {rule : Rule} (hrule : feature.rule? = some rule)
    {c : RuleContext} {path : Path} {value : String} (h : Rule.error? c path value rule = none) :
    c.features.has feature = true := by
  cases feature with
  | tlsPassthrough => cases hrule
  | _ =>
    obtain rfl := Option.some.inj hrule
    simpa [Rule.error?, demand, Features.has] using h

/-- The methods for requests of the commercial build are none without it. -/
theorem isPlus_of_httpMethodComplaint {isPlus : Bool} {text : String}
    (h : httpMethodComplaint isPlus text = none) (hplus : Text.trimmed text ∈ plusHttpMethods) :
    isPlus = true := by
  -- none of them is listed otherwise or reads as a hash
  have hnone : ∀ m ∈ plusHttpMethods, isHttpMethod false m = false := by decide +kernel
  cases isPlus with
  | true => rfl
  | false => simp [httpMethodComplaint, hnone _ hplus] at h

/-- Neither are its methods for streams. -/
theorem isPlus_of_streamMethodComplaint {isPlus : Bool} {method : String}
    (h : streamMethodComplaint isPlus method = none) (hplus : method ∈ plusStreamMethods) :
    isPlus = true := by
  have hsome : ∀ m ∈ plusStreamMethods, (streamMethodComplaint false m).isSome = true := by
    decide +kernel
  cases isPlus with
  | true => rfl
  | false =>
    have hcomplaint := hsome method hplus
    rw [h] at hcomplaint
    cases hcomplaint

end Validation

namespace Object

variable {f : Features} {o : Object} {feature : Feature}

/-- What passes its checks needs no feature that is off. There is one case for each sort of
place. -/
theorem has_of_needs (h : o.Passes f) (hneeds : o.Needs feature) : f.has feature = true := by
  cases hneeds with
  | annotation hname hvalue =>
    -- A gated annotation is known, and its rule is the one that let the value through.
    rw [Feature.annotations_eq] at hname
    obtain ⟨known, hknown, rfl⟩ := List.mem_map.1 hname
    obtain ⟨hmem, hgated⟩ := List.mem_filter.1 hknown
    obtain ⟨rule, hrule, hin⟩ := (Option.any_eq_true ..).1 hgated
    obtain ⟨c, path, rfl, hnone⟩ := h.rule known hmem _ hvalue rule (by simpa using hin)
    exact has_of_rule hrule hnone
  | snippet hs hne =>
    obtain ⟨path, hpath⟩ := h.snippet _ hs
    exact enabled_of_snippetErrors hpath hne
  | protectedReference hr hne =>
    obtain ⟨path, hpath⟩ := h.protectedReference _ hr
    exact enabled_of_dosErrors hpath hne
  | requestMethod hm hplus => exact isPlus_of_httpMethodComplaint (h.requestMethod _ hm) hplus
  | streamMethod hm hplus => exact isPlus_of_streamMethodComplaint (h.streamMethod _ hm) hplus
  | listener hl hpassthrough =>
    obtain ⟨path, hpath⟩ := h.listener _ hl
    refine Store.enabled_of_listenerRefErrors hpath ?_
    rw [ListenerRef.isPassthrough, Bool.or_eq_true, beq_iff_eq, beq_iff_eq]
    exact hpassthrough

end Object

/-! ## 4. What is served -/

namespace Object

/-- What is let in passes its checks. Policies and global configurations have no place where a
feature is needed, so there is nothing to be shown of them. -/
theorem passes_of_admits {className : String} {f : Features} {o : Object}
    (h : (Admission.checked className f).admits o = true) : o.Passes f := by
  have hempty : ∀ {selected : Bool} {errors : List FieldError},
      (selected && errors.isEmpty) = true → errors = [] :=
    fun h => List.isEmpty_iff.1 (Bool.and_eq_true_iff.1 h).2
  cases o with
  | ingress i => exact passes_ingress (hempty h)
  | virtualServer vs => exact passes_virtualServer (hempty h)
  | virtualServerRoute vsr => exact passes_virtualServerRoute (hempty h)
  | transportServer ts => exact passes_transportServer (hempty h)
  | globalConfiguration | policy =>
    -- neither has any of the places
    constructor <;> simp [annotation?, snippets, protectedReferences, requestMethods,
      streamMethods, listener?]
  | _ => cases h

end Object

namespace Configuration

/-- Whatever is served, nothing that it is made of needs a feature that is off: after any events,
each ingress, minion, virtual server, virtual server route and transport server of a served resource
has only annotations, snippets, references, load balancing methods and listeners for which the
features are on. -/
theorem needed_features_on (className : String) (f : Features) (events : List Event) :
    ∀ r ∈ ((fresh f (.checked className f)).run events).resources, ∀ o ∈ r.parts,
      ∀ feature, o.Needs feature → f.has feature = true := by
  intro r hr o ho feature hneeds
  have hadmits : (Admission.checked className f).admits o = true :=
    (takenOn_of_mem_parts hr ho).admitted
  exact Object.has_of_needs (Object.passes_of_admits hadmits) hneeds

/-- A virtual server that leaves a path to the virtual server route `tea`. -/
def delegatingServer : VirtualServer :=
  let plain := plainServer "cafe" "cafe.example.com" 1 10
  { plain with spec := { plain.spec with routes := [⟨"/tea", "tea", none, [], "", ""⟩] } }

/-- The virtual server route `tea`, with a snippet. -/
def snippetRoute : VirtualServerRoute :=
  ⟨plainMeta "tea" 1 20, ⟨"", "cafe.example.com", [],
    [⟨"/tea", "", some ⟨"", none, some ⟨none, "", "tea"⟩, none⟩, [], "", "deny all;"⟩]⟩⟩

/-- A virtual server route with a snippet is taken up by a virtual server that was served before, so
snippets are on. -/
theorem snippets_on_of_route :
    let f := { Features.none with snippetsEnabled := true }
    let c := (fresh f (.checked "nginx" f)).run
      [.apply (.virtualServer delegatingServer), .apply (.virtualServerRoute snippetRoute)]
    ∃ r ∈ c.resources, .virtualServerRoute snippetRoute ∈ r.parts ∧
      (Object.virtualServerRoute snippetRoute).Needs .snippets ∧ f.has .snippets = true := by
  intro f c
  have hserved : .virtualServer ⟨delegatingServer, [snippetRoute], []⟩ ∈ c.resources := by
    decide +kernel
  have hpart : .virtualServerRoute snippetRoute ∈
      (Resource.virtualServer ⟨delegatingServer, [snippetRoute], []⟩).parts :=
    List.mem_cons_of_mem _ (List.mem_singleton_self _)
  have hneeds : (Object.virtualServerRoute snippetRoute).Needs .snippets :=
    .snippet (List.mem_singleton_self "deny all;") (by decide)
  exact ⟨_, hserved, hpart, hneeds,
    needed_features_on "nginx" f _ _ hserved _ hpart .snippets hneeds⟩

end Configuration

end Gatehouse
