import Gatehouse.Proofs.Format.Balancing
import Gatehouse.Proofs.Validation.Basic
import Gatehouse.Validation.TransportServer
import Mathlib.Tactic.MkIffOfInductiveProp

/-!
Which transport servers are accepted.

A transport server is taken for one with TLS passthrough when its listener looks like the built-in
one, by name or by protocol, and what is asked of the listener and of the host turns on that. What
it amounts to is that there are two ways to listen (`ListeningOk`): with the built-in listener and a
host, where passthrough is on, and with a listener of another name and protocol and no host. A
listener that has only the name or only the protocol of the built-in one is accepted in neither.

The checks of the listener and of the host have no errors together exactly when the server listens
in one of the two ways (`listening_iff`), and the check of each other part has none exactly when the
part has its property. As with virtual servers, an action may name any upstream, once the names of
all upstreams are known to be labels.
-/

set_option autoImplicit false

namespace Gatehouse.Validation

open Format

/-! ## 1. Listeners and hosts -/

/-- The two ways in which a transport server can listen: with the built-in listener for a host, or
with a declared one and without a host. -/
inductive ListeningOk (f : Features) (l : ListenerRef) (host : String) : Prop
  | passthrough (hon : f.tlsPassthroughEnabled = true) (hname : l.name = ListenerRef.passthroughName)
      (hprotocol : l.protocol = ListenerRef.passthroughProtocol) (hhost : IsSubdomain host)
  | declared (hname : l.name ≠ ListenerRef.passthroughName)
      (hprotocol : l.protocol ≠ ListenerRef.passthroughProtocol) (hlabel : IsLabel l.name)
      (haccepted : l.protocol = "TCP" ∨ l.protocol = "UDP") (hhost : host = "")

section Listeners

variable {f : Features} {path hostPath : Path} {l : ListenerRef} {host : String}

/-- A listener looks like the built-in one by its name or by its protocol; either is enough. -/
theorem isPassthrough_eq_true_iff : l.isPassthrough = true ↔
    l.name = ListenerRef.passthroughName ∨ l.protocol = ListenerRef.passthroughProtocol := by
  rw [ListenerRef.isPassthrough, Bool.or_eq_true, beq_iff_eq, beq_iff_eq]

/-- To look like another one it has to differ in both. -/
theorem isPassthrough_eq_false_iff : l.isPassthrough = false ↔
    l.name ≠ ListenerRef.passthroughName ∧ l.protocol ≠ ListenerRef.passthroughProtocol := by
  rw [← Bool.not_eq_true, isPassthrough_eq_true_iff, not_or]

/-- Two protocols can be declared. -/
theorem protocolErrors_eq_nil_iff {protocol : String} :
    protocolErrors path protocol = [] ↔ protocol = "TCP" ∨ protocol = "UDP" := by
  rw [protocolErrors]
  split
  · rename_i hempty
    rw [String.isEmpty_iff] at hempty
    rw [hempty]
    exact iff_of_false (List.cons_ne_nil _ _) (by decide)
  · rw [ite_nil_eq_nil_iff, Bool.or_eq_true, beq_iff_eq, beq_iff_eq]

/-- A listener that looks like the built-in one has to be it, and passthrough has to be on. -/
theorem passthroughErrors_eq_nil_iff : passthroughErrors f path l = [] ↔
    f.tlsPassthroughEnabled = true ∧ l.name = ListenerRef.passthroughName ∧
      l.protocol = ListenerRef.passthroughProtocol := by
  by_cases hon : f.tlsPassthroughEnabled = true <;>
    by_cases hprotocol : l.protocol = ListenerRef.passthroughProtocol <;>
    by_cases hname : l.name = ListenerRef.passthroughName <;>
    simp [passthroughErrors, hon, hprotocol, hname]

/-- The checks of the listener and of the host together. Both ask first whether the listener looks
like the built-in one, so they are in the same case. -/
theorem listening_iff : listenerRefErrors f path l = [] ∧ streamHostErrors hostPath l host = [] ↔
    ListeningOk f l host := by
  rw [listenerRefErrors, streamHostErrors]
  -- The two checks ask the same question of the listener first, and the cases answer it once.
  cases hbuiltin : l.isPassthrough with
  | true =>
    rw [if_pos rfl, if_pos rfl, passthroughErrors_eq_nil_iff, hostErrors_eq_nil_iff]
    constructor
    · rintro ⟨⟨hon, hname, hprotocol⟩, hhost⟩
      exact .passthrough hon hname hprotocol hhost
    · intro h
      cases h with
      | passthrough hon hname hprotocol hhost => exact ⟨⟨hon, hname, hprotocol⟩, hhost⟩
      | declared hname hprotocol _ _ _ =>
        rw [isPassthrough_eq_false_iff.2 ⟨hname, hprotocol⟩] at hbuiltin
        cases hbuiltin
  | false =>
    obtain ⟨hname, hprotocol⟩ := isPassthrough_eq_false_iff.1 hbuiltin
    rw [if_neg Bool.false_ne_true, if_neg Bool.false_ne_true, List.append_eq_nil_iff,
      labelErrors_eq_nil_iff, protocolErrors_eq_nil_iff, ite_nil_eq_nil_iff, String.isEmpty_iff]
    constructor
    · rintro ⟨⟨hlabel, haccepted⟩, hhost⟩
      exact .declared hname hprotocol hlabel haccepted hhost
    · intro h
      cases h with
      | passthrough _ hname' _ _ => exact absurd hname' hname
      | declared _ _ hlabel haccepted hhost => exact ⟨⟨hlabel, haccepted⟩, hhost⟩

instance : Decidable (ListeningOk f l host) :=
  decidable_of_iff _ (@listening_iff f (.top "") (.top "") l host)

-- the name alone does not make a listener the built-in one
example :
    let f := { Features.none with tlsPassthroughEnabled := true }
    ListeningOk f ⟨"tls-passthrough", "TLS_PASSTHROUGH"⟩ "app.example.com" ∧
      ¬ListeningOk f ⟨"tls-passthrough", "TCP"⟩ "app.example.com" := by decide +kernel

end Listeners

/-! ## 2. Upstreams -/

/-- An upstream with proper names, a port, limits that are none or not negative, a time limit, and a
method that is allowed. -/
@[mk_iff]
structure StreamUpstreamOk (f : Features) (u : StreamUpstream) : Prop where
  name : IsLabel u.name
  service : IsLabel u.service
  maxFails : ∀ n, u.maxFails = some n → 0 ≤ n.val
  maxConns : ∀ n, u.maxConns = some n → 0 ≤ n.val
  failTimeout : TimeLimitOk u.failTimeout
  port : 1 ≤ u.port.val ∧ u.port.val ≤ 65535
  method : IsStreamMethod f.isPlus (Text.trimmed u.loadBalancingMethod)

/-- Upstreams with different names, each of which is as it should be. Actions name them, so a name
may not be given twice. -/
@[mk_iff]
structure StreamUpstreamsOk (f : Features) (upstreams : List StreamUpstream) : Prop where
  each : ∀ u ∈ upstreams, StreamUpstreamOk f u
  distinct : (upstreams.map (·.name)).Nodup

/-- Settings for all upstreams. Datagrams are counted only for UDP, and whatever is counted is not
negative. -/
@[mk_iff]
structure UpstreamParametersOk (protocol : String) (p : UpstreamParameters) : Prop where
  udpRequests : ∀ n, p.udpRequests = some n → protocol = "UDP" ∧ 0 ≤ n.val
  udpResponses : ∀ n, p.udpResponses = some n → protocol = "UDP" ∧ 0 ≤ n.val
  connectTimeout : TimeLimitOk p.connectTimeout
  nextUpstreamTimeout : TimeLimitOk p.nextUpstreamTimeout
  nextUpstreamTries : 0 ≤ p.nextUpstreamTries.val

section Upstreams

variable {f : Features} {path : Path}

/-- A method is looked at without the blanks around it. -/
theorem streamMethodErrors_eq_nil_iff {text : String} :
    streamMethodErrors f path text = [] ↔ IsStreamMethod f.isPlus (Text.trimmed text) := by
  rw [streamMethodErrors, List.map_eq_nil_iff, Option.toList_eq_nil_iff,
    streamMethodComplaint_eq_none_iff]

/-- Nothing is wrong with an upstream when its parts are as they should be and its name is a new
one. -/
theorem streamUpstreamErrors_eq_nil_iff {earlier : List StreamUpstream} {i : Nat}
    {u : StreamUpstream} : streamUpstreamErrors f path earlier i u = [] ↔
      StreamUpstreamOk f u ∧ u.name ∉ earlier.map (·.name) := by
  simp only [streamUpstreamErrors, List.append_eq_nil_iff, uniqueLabelErrors_eq_nil_iff,
    labelErrors_eq_nil_iff, nonNegativeErrors_map_eq_nil_iff, timeErrors_eq_nil_iff,
    portErrors_eq_nil_iff, streamMethodErrors_eq_nil_iff, streamUpstreamOk_iff, and_assoc]
  constructor
  · rintro ⟨hname, hnew, hservice, hfails, hconns, htimeout, hleast, hmost, hmethod⟩
    exact ⟨hname, hservice, hfails, hconns, htimeout, hleast, hmost, hmethod, hnew⟩
  · rintro ⟨hname, hservice, hfails, hconns, htimeout, hleast, hmost, hmethod, hnew⟩
    exact ⟨hname, hnew, hservice, hfails, hconns, htimeout, hleast, hmost, hmethod⟩

theorem streamUpstreamsErrors_eq_nil_iff {upstreams : List StreamUpstream} :
    checkEach (streamUpstreamErrors f path) [] upstreams = [] ↔ StreamUpstreamsOk f upstreams := by
  rw [streamUpstreamsOk_iff]
  exact checkEach_eq_nil_iff_nodup fun _ _ _ _ => streamUpstreamErrors_eq_nil_iff

/-- Then all names are labels. -/
theorem StreamUpstreamsOk.isLabel_of_mem_names {upstreams : List StreamUpstream}
    (h : StreamUpstreamsOk f upstreams) : ∀ name ∈ upstreams.map (·.name), IsLabel name := by
  intro name hname
  obtain ⟨u, hu, rfl⟩ := List.mem_map.1 hname
  exact (h.each u hu).name

/-- Where the upstreams are as they should be, an action may name any of them. -/
theorem StreamUpstreamsOk.properNames_eq {upstreams : List StreamUpstream}
    (h : StreamUpstreamsOk f upstreams) :
    properNames (upstreams.map (·.name)) = upstreams.map (·.name) :=
  Validation.properNames_eq h.isLabel_of_mem_names

/-- Datagrams can be counted for UDP, and there is no negative count. -/
theorem datagramErrors_eq_nil_iff {protocol : String} {n? : Option Signed32} :
    datagramErrors protocol path n? = [] ↔ ∀ n, n? = some n → protocol = "UDP" ∧ 0 ≤ n.val := by
  rw [datagramErrors]
  by_cases hudp : protocol = "UDP"
  · rw [if_neg (by simp [hudp]), nonNegativeErrors_map_eq_nil_iff]
    simp only [hudp, true_and]
  · cases n? with
    | none => simp [nonNegativeErrors]
    | some n => simp [hudp]

theorem upstreamParametersErrors_eq_nil_iff {protocol : String} {p : UpstreamParameters} :
    upstreamParametersErrors protocol path p = [] ↔ UpstreamParametersOk protocol p := by
  simp only [upstreamParametersErrors, List.append_eq_nil_iff, datagramErrors_eq_nil_iff,
    timeErrors_eq_nil_iff, nonNegativeErrors_eq_nil_iff, Option.some.injEq, forall_eq',
    upstreamParametersOk_iff, and_assoc]

end Upstreams

/-! ## 3. Transport servers -/

/-- A transport server of which every part is as it should be. It says what the object is like,
without paths or texts of errors; that the check finds it out is `transportServer_accepted_iff`. -/
@[mk_iff]
structure TransportServerWellFormed (f : Features) (spec : TransportServerSpec) : Prop where
  listening : ListeningOk f spec.listener spec.host
  upstreams : StreamUpstreamsOk f spec.upstreams
  parameters : ∀ p, spec.upstreamParameters = some p →
    UpstreamParametersOk spec.listener.protocol p
  session : ∀ p, spec.sessionParameters = some p → TimeLimitOk p.timeout
  action : ∃ a, spec.action = some a ∧ a.pass ∈ spec.upstreams.map (·.name)
  serverSnippets : SnippetOk f spec.serverSnippets
  streamSnippets : SnippetOk f spec.streamSnippets

/-- Nothing passes to an upstream without a name, because no upstream is without one. So the check
for an empty name needs no condition of its own. -/
theorem streamActionErrors_eq_nil_iff {path : Path} {upstreams : List String}
    {action : Option StreamAction} (h : ∀ name ∈ upstreams, IsLabel name) :
    streamActionErrors path upstreams action = [] ↔ ∃ a, action = some a ∧ a.pass ∈ upstreams := by
  cases action with
  | none => simp [streamActionErrors]
  | some a =>
    rw [streamActionErrors]
    by_cases hempty : a.pass = ""
    · have hnot : a.pass ∉ upstreams := fun hmem => (h _ hmem).ne_empty hempty
      simp [hempty ▸ hnot, hempty]
    · simp [hempty]

/-- The verdict is right. Whatever features there are, a transport server has no errors exactly when
every part of it is as it should be. Only the snippets and the methods of NGINX Plus, and TLS
passthrough, depend on the features. -/
theorem transportServer_accepted_iff (f : Features) (ts : TransportServer) :
    transportServerErrors f ts = [] ↔ TransportServerWellFormed f ts.spec := by
  simp only [transportServerErrors, List.append_eq_nil_iff, listening_iff,
    streamUpstreamsErrors_eq_nil_iff, snippetErrors_eq_nil_iff, transportServerWellFormed_iff,
    SnippetOk, and_assoc]
  -- the action may only be looked at once the upstreams are known to be well formed
  refine and_congr_right fun _ => and_congr_right fun hupstreams => ?_
  rw [hupstreams.properNames_eq, streamActionErrors_eq_nil_iff hupstreams.isLabel_of_mem_names]
  refine and_congr ?_ (and_congr_left fun _ => ?_)
  · cases ts.spec.upstreamParameters with
    | none => simp
    | some p => simp [upstreamParametersErrors_eq_nil_iff]
  · cases ts.spec.sessionParameters with
    | none => simp
    | some p => simp [timeErrors_eq_nil_iff]

end Gatehouse.Validation
