import Gatehouse.Proofs.Format.Balancing
import Gatehouse.Proofs.Format.Escaped
import Gatehouse.Proofs.Validation.Basic
import Gatehouse.Validation.VirtualServer
import Mathlib.Tactic.MkIffOfInductiveProp

/-!
Which virtual servers and virtual server routes are accepted.

The verdict is put together from lists of errors: of policies, of upstreams, and of routes with
their actions, which may only name upstreams that are not wrong themselves. What the lists amount to
is said here part by part, as a property of the object that does not speak of errors
(`ServerWellFormed`, `ServerRouteWellFormed`). A check of a part has no errors exactly when the part
has its property. Only for the routes this takes that the names of all upstreams are labels: where
one is not, an action that names it is refused, but so is the object for the upstream.
-/

set_option autoImplicit false

namespace Gatehouse.Validation

open Format

/-! ## 1. Policies and upstreams -/

/-- A reference that could mean a policy. Whether there is such a policy is not asked, as it may
come later. -/
@[mk_iff]
structure PolicyRefOk (p : PolicyRef) : Prop where
  name : IsQualifiedName p.name
  space : p.space = "" ∨ IsSubdomain p.space

/-- References to policies, none of which is made twice. They are told apart as they are written. -/
@[mk_iff]
structure PoliciesOk (policies : List PolicyRef) : Prop where
  each : ∀ p ∈ policies, PolicyRefOk p
  distinct : policies.Nodup

/-- An upstream with proper names, a port, and a method that is allowed. -/
@[mk_iff]
structure UpstreamOk (f : Features) (u : HttpUpstream) : Prop where
  name : IsLabel u.name
  service : IsLabel u.service
  port : 1 ≤ u.port.val
  method : IsHttpMethod f.isPlus (Text.trimmed u.lbMethod)

/-- Upstreams with different names, each of which is as it should be. Routes name them, so a name
may not be given twice. -/
@[mk_iff]
structure UpstreamsOk (f : Features) (upstreams : List HttpUpstream) : Prop where
  each : ∀ u ∈ upstreams, UpstreamOk f u
  distinct : (upstreams.map (·.name)).Nodup

/-- A namespace has no slash, so the two names can be read off the joined key. -/
theorem PolicyRefOk.slash_notMem {p : PolicyRef} (h : PolicyRefOk p) : '/' ∉ p.space.toList := by
  rcases h.space with hspace | hspace
  · simp [hspace]
  · exact hspace.slash_notMem

/-- Such references are told apart by the pair of their names. -/
theorem policyKey_eq_iff {p q : PolicyRef} (hp : PolicyRefOk p) (hq : PolicyRefOk q) :
    policyKey q = policyKey p ↔ q = p := by
  refine ⟨fun h => ?_, congrArg policyKey⟩
  obtain ⟨hspace, hname⟩ := joinKey_inj hq.slash_notMem hp.slash_notMem h
  cases p
  cases q
  cases hspace
  cases hname
  rfl

section Policies

variable {path : Path} {earlier policies : List PolicyRef} {p : PolicyRef} {i : Nat}

/-- What is to be known of a reference besides itself is which ones come before it. -/
theorem policyErrors_eq_nil_iff (hearlier : ∀ q ∈ earlier, PolicyRefOk q) :
    policyErrors path earlier i p = [] ↔ PolicyRefOk p ∧ p ∉ earlier := by
  -- the key tells references apart only when both are well formed: a slash in a namespace would
  -- be taken for the one between namespace and name
  have hrepeated : PolicyRefOk p →
      ((earlier.any fun q => !q.name.isEmpty && policyKey q == policyKey p) = true ↔
        p ∈ earlier) := by
    intro hp
    rw [List.any_eq_true]
    constructor
    · rintro ⟨q, hq, hsame⟩
      rw [Bool.and_eq_true, beq_iff_eq, policyKey_eq_iff hp (hearlier q hq)] at hsame
      exact hsame.2 ▸ hq
    · exact fun hp' => ⟨p, hp', by simp [hp.name.ne_empty]⟩
  rw [policyErrors]
  split
  · rename_i hempty
    have hname : p.name = "" := by simpa using hempty
    simpa using fun h : PolicyRefOk p => absurd hname h.name.ne_empty
  · rw [List.append_eq_nil_iff, List.append_eq_nil_iff, invalidTexts_eq_nil_iff,
      qualifiedNameComplaints_eq_nil_iff, optionalSubdomainErrors_eq_nil_iff, ← policyRefOk_iff,
      ite_singleton_eq_nil_iff]
    exact and_congr_right fun hp => not_congr (hrepeated hp)

theorem policiesErrors_eq_nil_iff : policiesErrors path policies = [] ↔ PoliciesOk policies := by
  have hlist : policiesErrors path policies = [] ↔
      (∀ p ∈ policies, PolicyRefOk p) ∧ (policies.map id).Nodup := by
    refine checkEach_eq_nil_iff_nodup fun earlier i p hearlier => ?_
    rw [policyErrors_eq_nil_iff hearlier, List.map_id, id]
  rw [hlist, List.map_id, policiesOk_iff]

end Policies

section Upstreams

variable {f : Features} {path : Path} {earlier upstreams : List HttpUpstream} {u : HttpUpstream}
  {i : Nat}

/-- Nothing is wrong with an upstream when its parts are as they should be and its name is a new
one. -/
theorem httpUpstreamErrors_eq_nil_iff : httpUpstreamErrors f path earlier i u = [] ↔
    UpstreamOk f u ∧ u.name ∉ earlier.map (·.name) := by
  simp only [httpUpstreamErrors, List.append_eq_nil_iff, uniqueLabelErrors_eq_nil_iff,
    labelErrors_eq_nil_iff, portErrors_eq_nil_iff, List.map_eq_nil_iff, Option.toList_eq_nil_iff,
    httpMethodComplaint_eq_none_iff]
  constructor
  · rintro ⟨⟨⟨⟨hname, hnew⟩, hservice⟩, hport, -⟩, hmethod⟩
    exact ⟨⟨hname, hservice, hport, hmethod⟩, hnew⟩
  · rintro ⟨h, hnew⟩
    exact ⟨⟨⟨⟨h.name, hnew⟩, h.service⟩, h.port, u.port.property.2⟩, h.method⟩

theorem httpUpstreamsErrors_eq_nil_iff :
    checkEach (httpUpstreamErrors f path) [] upstreams = [] ↔ UpstreamsOk f upstreams := by
  rw [upstreamsOk_iff]
  exact checkEach_eq_nil_iff_nodup fun _ _ _ _ => httpUpstreamErrors_eq_nil_iff

end Upstreams

/-! ## 2. Actions -/

/-- A redirect that says where to, with one of four codes if it has one. Where it leads is not
looked at. -/
@[mk_iff]
structure RedirectOk (r : Redirect) : Prop where
  url : r.url ≠ ""
  code : ∀ code, r.code = some code → code.val ∈ [301, 302, 307, 308]

/-- An answer with a code of an answer, if it has one, and a body that can be written down. -/
@[mk_iff]
structure RespondOk (r : Respond) : Prop where
  code : ∀ code, r.code = some code → 200 ≤ code.val ∧ code.val ≤ 599
  body : Escaped r.body.toList

/-- An action of exactly one kind. The upstream that it passes requests to is one of those given.
Each constructor is a kind, so that there is exactly one need not be said. -/
inductive ActionOk (upstreams : List String) : RouteAction → Prop
  | pass {name : String} (hne : name ≠ "") (h : name ∈ upstreams) :
      ActionOk upstreams ⟨name, none, none, none⟩
  | redirect {r : Redirect} (h : RedirectOk r) : ActionOk upstreams ⟨"", some r, none, none⟩
  | respond {r : Respond} (h : RespondOk r) : ActionOk upstreams ⟨"", none, some r, none⟩
  | proxy {p : Proxy} (h : p.upstream ∈ upstreams) : ActionOk upstreams ⟨"", none, none, some p⟩

section Actions

variable {path : Path} {upstreams : List String} {a : RouteAction}

theorem redirectErrors_eq_nil_iff {r : Redirect} : redirectErrors path r = [] ↔ RedirectOk r := by
  rw [redirectErrors, redirectOk_iff, List.append_eq_nil_iff, ite_singleton_eq_nil_iff,
    String.isEmpty_iff]
  refine and_congr_right fun _ => ?_
  cases r.code with
  | none => simp
  | some code =>
    simp only [ite_nil_eq_nil_iff, List.contains_iff_mem, Option.some.injEq, forall_eq']

theorem respondErrors_eq_nil_iff {r : Respond} : respondErrors path r = [] ↔ RespondOk r := by
  rw [respondErrors, respondOk_iff, List.append_eq_nil_iff, ite_nil_eq_nil_iff, isEscaped_iff]
  refine and_congr_left fun _ => ?_
  cases r.code with
  | none => simp
  | some code => simp only [ite_nil_eq_nil_iff, Option.some.injEq, forall_eq']

/-- An action of one kind is one of four. The fields of the others are then empty, and the cases
below can be read from the constructors. -/
theorem kinds_eq_one_iff : a.kinds = 1 ↔
    (∃ name, name ≠ "" ∧ a = ⟨name, none, none, none⟩) ∨ (∃ r, a = ⟨"", some r, none, none⟩) ∨
      (∃ r, a = ⟨"", none, some r, none⟩) ∨ ∃ p, a = ⟨"", none, none, some p⟩ := by
  obtain ⟨pass, redirect, respond, proxy⟩ := a
  by_cases hpass : pass = "" <;> cases redirect <;> cases respond <;> cases proxy <;>
    simp [RouteAction.kinds, hpass]

/-- Conversely, what is an action in this sense is of one kind. -/
theorem ActionOk.kinds_eq_one (h : ActionOk upstreams a) : a.kinds = 1 := by
  rw [kinds_eq_one_iff]
  cases h with
  | pass hne => exact .inl ⟨_, hne, rfl⟩
  | redirect => exact .inr (.inl ⟨_, rfl⟩)
  | respond => exact .inr (.inr (.inl ⟨_, rfl⟩))
  | proxy => exact .inr (.inr (.inr ⟨_, rfl⟩))

/-- Nothing is wrong with an action when it is one. Passing requests and proxying them look for the
upstream among those given. -/
theorem actionErrors_eq_nil_iff : actionErrors path upstreams a = [] ↔ ActionOk upstreams a := by
  by_cases hone : a.kinds = 1
  · rw [actionErrors, if_pos hone, oneActionErrors]
    -- Exactly one kind is set, so the checks of the other kinds find nothing.
    rcases kinds_eq_one_iff.1 hone with ⟨name, hne, rfl⟩ | ⟨r, rfl⟩ | ⟨r, rfl⟩ | ⟨p, rfl⟩
    · have hplace : actionUpstream? path ⟨name, none, none, none⟩ =
          some (path.child "pass", name) := by simp [actionUpstream?, hne]
      simp only [hplace, List.append_nil, ite_nil_eq_nil_iff, List.contains_iff_mem]
      exact ⟨.pass hne, fun | .pass _ h => h⟩
    · show redirectErrors _ r ++ [] = [] ↔ _
      rw [List.append_nil, redirectErrors_eq_nil_iff]
      exact ⟨.redirect, fun | .redirect h => h⟩
    · show respondErrors _ r = [] ↔ _
      rw [respondErrors_eq_nil_iff]
      exact ⟨.respond, fun | .respond h => h⟩
    · show (if upstreams.contains p.upstream then [] else [_]) ++ [] ++ [] = [] ↔ _
      rw [List.append_nil, List.append_nil, ite_nil_eq_nil_iff, List.contains_iff_mem]
      exact ⟨.proxy, fun | .proxy h => h⟩
  · rw [actionErrors, if_neg hone]
    exact ⟨nofun, fun h => absurd h.kinds_eq_one hone⟩

end Actions

/-! ## 3. Routes -/

/-- A reference that could mean a virtual server route: a subdomain, after a slash and before that a
subdomain or nothing, or on its own. That there may be nothing before the slash is what the check
allows. -/
inductive IsRouteReference : String → Prop
  | name {name : String} (hname : IsSubdomain name) : IsRouteReference name
  | placed {space name : String} (hspace : space = "" ∨ IsSubdomain space)
      (hname : IsSubdomain name) : IsRouteReference (joinKey space name)

/-- A path of requests, or a pattern of paths, that can be written down. -/
@[mk_iff]
structure RoutePathOk (path : String) : Prop where
  start : path.toList.head? = some '/' ∨ path.toList.head? = some '~'
  escaped : Escaped path.toList

/-- A route that acts on its requests, or leaves its path to a virtual server route where it may;
not both. -/
inductive RouteTargetOk (delegating : Delegating) (upstreams : List String) (r : Route) : Prop
  | acts {a : RouteAction} (hroute : r.route = "") (haction : r.action = some a)
      (h : ActionOk upstreams a)
  | delegates (hallowed : delegating = .allowed) (hroute : r.route ≠ "") (haction : r.action = none)
      (h : IsRouteReference r.route)

/-- A protected resource is named only where there is a firewall for it, and then by a qualified
name. -/
def DosOk (f : Features) (reference : String) : Prop :=
  reference = "" ∨ f.appProtectDosEnabled = true ∧ IsQualifiedName reference

/-- A route of which every part is as it should be. The upstreams are those of the object that the
route stands in. -/
@[mk_iff]
structure RouteOk (f : Features) (delegating : Delegating) (upstreams : List String) (r : Route) :
    Prop where
  path : RoutePathOk r.path
  target : RouteTargetOk delegating upstreams r
  policies : PoliciesOk r.policies
  dos : DosOk f r.dos
  snippets : SnippetOk f r.locationSnippets

/-- Routes with different paths, each of which is as it should be. Whether they may leave their
paths to others depends on what they are the routes of. -/
@[mk_iff]
structure RoutesOk (f : Features) (delegating : Delegating) (upstreams : List String)
    (routes : List Route) : Prop where
  each : ∀ r ∈ routes, RouteOk f delegating upstreams r
  distinct : (routes.map (·.path)).Nodup

section Routes

variable {f : Features} {delegating : Delegating} {upstreams : List String} {path : Path}
  {r : Route}

theorem routePathErrors_eq_nil_iff {value : String} :
    routePathErrors path value = [] ↔ RoutePathOk value := by
  have hhead : ∀ c, [c].isPrefixOf value.toList = true ↔ value.toList.head? = some c := by
    intro c
    rw [List.isPrefixOf_iff_prefix, List.head?_eq_some_iff]
    exact ⟨fun ⟨rest, h⟩ => ⟨rest, h.symm⟩, fun ⟨rest, h⟩ => ⟨rest, h.symm⟩⟩
  have hstart : (Text.startsWith value "/" || Text.startsWith value "~") = true ↔
      value.toList.head? = some '/' ∨ value.toList.head? = some '~' := by
    rw [Bool.or_eq_true, ← hhead, ← hhead]
    rfl
  rw [routePathErrors, routePathOk_iff, ← hstart, ← isEscaped_iff]
  -- The empty path has an error of its own; any other is judged by its first character.
  by_cases hempty : value = ""
  · subst hempty
    exact ⟨nofun, fun h => absurd h.1 (by decide)⟩
  · rw [if_neg (by simpa using hempty)]
    cases Text.startsWith value "/" || Text.startsWith value "~" with
    | false => exact ⟨nofun, fun h => absurd h.1 Bool.false_ne_true⟩
    | true => simp

/-- The reference is taken apart at its first slash, and a name has none. -/
theorem routeReferenceErrors_eq_nil_iff {reference : String} :
    routeReferenceErrors path reference = [] ↔ IsRouteReference reference := by
  have hparts : routeReferenceErrors path reference = [] ↔
      ((splitReference "" reference).1 = "" ∨ IsSubdomain (splitReference "" reference).1) ∧
        IsSubdomain (splitReference "" reference).2 := by
    rw [routeReferenceErrors, List.append_eq_nil_iff, optionalSubdomainErrors_eq_nil_iff,
      invalidTexts_eq_nil_iff, subdomainComplaints_eq_nil_iff]
  rw [hparts, splitReference]
  -- neither namespace nor name has a slash, so that the first one is the one between them
  constructor
  · cases hsplit : Text.splitFirst '/' reference with
    | none => exact fun h => .name h.2
    | some parts =>
      rw [(Text.splitFirst_eq_some_iff.1 hsplit).1, ← String.append_assoc]
      exact fun h => .placed h.1 h.2
  · intro h
    cases h with
    | name hname =>
      rw [Text.splitFirst_eq_none_iff.2 hname.slash_notMem]
      exact ⟨.inl rfl, hname⟩
    | @placed space name hspace hname =>
      have hslash : '/' ∉ space.toList := by
        rcases hspace with rfl | hspace
        · simp
        · exact hspace.slash_notMem
      rw [splitFirst_joinKey hslash]
      exact ⟨hspace, hname⟩

theorem dosErrors_eq_nil_iff {reference : String} :
    dosErrors f path reference = [] ↔ DosOk f reference := by
  rw [dosErrors, DosOk]
  by_cases hempty : reference = ""
  · simp [hempty]
  · cases f.appProtectDosEnabled <;>
      simp [hempty, invalidTexts_eq_nil_iff, qualifiedNameComplaints_eq_nil_iff]

/-- Who names a protected resource without an error has the firewall for it. -/
theorem enabled_of_dosErrors {reference : String} (h : dosErrors f path reference = [])
    (hne : reference ≠ "") : f.appProtectDosEnabled = true :=
  ((dosErrors_eq_nil_iff.1 h).resolve_left hne).1

/-- A route acts or delegates. The cases are which of the two fields it has, and in each of them one
check is left. -/
theorem routeTargetErrors_eq_nil_iff : routeTargetErrors delegating path upstreams r = [] ↔
    RouteTargetOk delegating upstreams r := by
  -- what there is of an action leaves one way to be well formed
  have hacts : ∀ {a}, r.action = some a → (RouteTargetOk delegating upstreams r ↔
      r.route = "" ∧ ActionOk upstreams a) := by
    intro a haction
    constructor
    · rintro (⟨hroute, haction', h⟩ | ⟨-, -, hnone, -⟩)
      · obtain rfl := Option.some.inj (haction.symm.trans haction')
        exact ⟨hroute, h⟩
      · rw [haction] at hnone
        cases hnone
    · exact fun h => .acts h.1 haction h.2
  have hdelegates : r.action = none → (RouteTargetOk delegating upstreams r ↔
      delegating = .allowed ∧ r.route ≠ "" ∧ IsRouteReference r.route) := by
    intro hnone
    constructor
    · rintro (⟨-, haction, -⟩ | ⟨hallowed, hroute, -, h⟩)
      · rw [hnone] at haction
        cases haction
      · exact ⟨hallowed, hroute, h⟩
    · exact fun h => .delegates h.1 h.2.1 hnone h.2.2
  cases haction : r.action with
  | none =>
    rw [hdelegates haction]
    cases delegating <;> by_cases hroute : r.route = "" <;>
      simp [routeTargetErrors, haction, hroute, routeReferenceErrors_eq_nil_iff]
  | some a =>
    rw [hacts haction]
    cases delegating <;> by_cases hroute : r.route = "" <;>
      simp [routeTargetErrors, haction, hroute, actionErrors_eq_nil_iff]

/-- Nothing is wrong with a route when each of its parts passes and its path is a new one. -/
theorem routeErrors_eq_nil_iff {earlier : List Route} {i : Nat} :
    routeErrors f delegating upstreams path earlier i r = [] ↔
      RouteOk f delegating upstreams r ∧ r.path ∉ earlier.map (·.path) := by
  simp only [routeErrors, List.append_eq_nil_iff, routePathErrors_eq_nil_iff,
    routeTargetErrors_eq_nil_iff, policiesErrors_eq_nil_iff, dosErrors_eq_nil_iff,
    snippetErrors_eq_nil_iff, ite_singleton_eq_nil_iff, List.contains_iff_mem, routeOk_iff,
    SnippetOk, and_assoc]

/-- So with all routes, whose paths then differ. -/
theorem routesErrors_eq_nil_iff {routes : List Route} :
    checkEach (routeErrors f delegating upstreams path) [] routes = [] ↔
      RoutesOk f delegating upstreams routes := by
  rw [routesOk_iff]
  exact checkEach_eq_nil_iff_nodup fun _ _ _ _ => routeErrors_eq_nil_iff

end Routes

/-! ## 4. The objects -/

/-- A virtual server of which every part is as it should be. Whether the virtual server routes that
it leaves paths to are there is not asked. -/
@[mk_iff]
structure ServerWellFormed (f : Features) (spec : VirtualServerSpec) : Prop where
  host : IsSubdomain spec.host
  tls : ∀ t, spec.tls = some t → t.secret = "" ∨ IsSubdomain t.secret
  policies : PoliciesOk spec.policies
  upstreams : UpstreamsOk f spec.upstreams
  routes : RoutesOk f .allowed (spec.upstreams.map (·.name)) spec.routes
  dos : DosOk f spec.dos
  serverSnippets : SnippetOk f spec.serverSnippets
  httpSnippets : SnippetOk f spec.httpSnippets

/-- A virtual server route of which every part is as it should be, wherever it will be taken up. Its
own routes may not leave their paths to others. -/
@[mk_iff]
structure ServerRouteWellFormed (f : Features) (spec : VirtualServerRouteSpec) : Prop where
  host : IsSubdomain spec.host
  upstreams : UpstreamsOk f spec.upstreams
  subroutes : RoutesOk f .refused (spec.upstreams.map (·.name)) spec.subroutes

/-- A virtual server route fits a path of a host when it has the host, and all its subroutes lie
below the path. -/
@[mk_iff]
structure Fits (spec : VirtualServerRouteSpec) (host path : String) : Prop where
  host : spec.host = host
  below : ∀ r ∈ spec.subroutes, path.toList <+: r.path.toList

section Objects

variable {f : Features} {path : Path}

theorem serverTlsErrors_eq_nil_iff {tls : Option ServerTls} :
    serverTlsErrors path tls = [] ↔ ∀ t, tls = some t → t.secret = "" ∨ IsSubdomain t.secret := by
  cases tls with
  | none => simp [serverTlsErrors]
  | some t => simp only [serverTlsErrors, optionalSubdomainErrors_eq_nil_iff, Option.some.injEq,
      forall_eq']

/-- Where the upstreams are as they should be, an action may name any of them. This is what lets the
two conditions of an object be looked at one after the other. -/
theorem UpstreamsOk.properNames_eq {upstreams : List HttpUpstream} (h : UpstreamsOk f upstreams) :
    properNames (upstreams.map (·.name)) = upstreams.map (·.name) := by
  refine Validation.properNames_eq fun name hname => ?_
  obtain ⟨u, hu, rfl⟩ := List.mem_map.1 hname
  exact (h.each u hu).name

/-- The verdict about a virtual server. The errors of its routes are compared once the names of its
upstreams are known to be labels. -/
theorem virtualServerErrors_eq_nil_iff {vs : VirtualServer} :
    virtualServerErrors f vs = [] ↔ ServerWellFormed f vs.spec := by
  simp only [virtualServerErrors, List.append_eq_nil_iff, hostErrors_eq_nil_iff,
    serverTlsErrors_eq_nil_iff, policiesErrors_eq_nil_iff, httpUpstreamsErrors_eq_nil_iff,
    routesErrors_eq_nil_iff, dosErrors_eq_nil_iff, snippetErrors_eq_nil_iff, and_assoc,
    serverWellFormed_iff, SnippetOk]
  -- the routes may only be looked at once the upstreams are known to be well formed
  refine and_congr_right fun _ => and_congr_right fun _ => and_congr_right fun _ =>
    and_congr_right fun hupstreams => ?_
  rw [hupstreams.properNames_eq]

/-- The verdict about a virtual server route on its own, without the host and the path that it is to
take. -/
theorem virtualServerRouteErrors_eq_nil_iff {vsr : VirtualServerRoute} :
    virtualServerRouteErrors f vsr = [] ↔ ServerRouteWellFormed f vsr.spec := by
  simp only [virtualServerRouteErrors, List.append_eq_nil_iff, hostErrors_eq_nil_iff,
    httpUpstreamsErrors_eq_nil_iff, routesErrors_eq_nil_iff, and_assoc, serverRouteWellFormed_iff]
  refine and_congr_right fun _ => and_congr_right fun hupstreams => ?_
  rw [hupstreams.properNames_eq]

/-- What a host and a path ask of it besides. -/
theorem delegationErrors_eq_nil_iff {vsr : VirtualServerRoute} {host path : String} :
    delegationErrors vsr host path = [] ↔ Fits vsr.spec host path := by
  rw [delegationErrors, List.append_eq_nil_iff, ite_nil_eq_nil_iff, fits_iff]
  refine and_congr_right fun _ => checkEach_eq_nil_iff_forall fun _ _ r => ?_
  rw [belowErrors, ite_nil_eq_nil_iff, Text.startsWith, List.isPrefixOf_iff_prefix]

/-- The checks decide whether a virtual server route fits. -/
instance (spec : VirtualServerRouteSpec) (host path : String) : Decidable (Fits spec host path) :=
  decidable_of_iff (delegationErrors ⟨.blank, spec⟩ host path = []) delegationErrors_eq_nil_iff

/-- The checks decide whether a virtual server is well formed. -/
instance (spec : VirtualServerSpec) : Decidable (ServerWellFormed f spec) :=
  decidable_of_iff (virtualServerErrors f ⟨.blank, spec⟩ = []) virtualServerErrors_eq_nil_iff

/-- The checks decide whether a virtual server route is well formed. -/
instance (spec : VirtualServerRouteSpec) : Decidable (ServerRouteWellFormed f spec) :=
  decidable_of_iff (virtualServerRouteErrors f ⟨.blank, spec⟩ = [])
    virtualServerRouteErrors_eq_nil_iff

end Objects

/-- The verdict is right. A virtual server, or a virtual server route, has no errors exactly when
every part of it is as it should be; as one that takes a path of a host, a virtual server route has
none exactly when besides it fits the path. -/
theorem errors_eq_nil_iff_wellFormed (f : Features) :
    (∀ vs, virtualServerErrors f vs = [] ↔ ServerWellFormed f vs.spec) ∧
      (∀ vsr, virtualServerRouteErrors f vsr = [] ↔ ServerRouteWellFormed f vsr.spec) ∧
      ∀ vsr host path, delegatedErrors f vsr host path = [] ↔
        ServerRouteWellFormed f vsr.spec ∧ Fits vsr.spec host path := by
  refine ⟨fun _ => virtualServerErrors_eq_nil_iff, fun _ => virtualServerRouteErrors_eq_nil_iff,
    fun vsr host path => ?_⟩
  rw [delegatedErrors, List.append_eq_nil_iff, virtualServerRouteErrors_eq_nil_iff,
    delegationErrors_eq_nil_iff]

/-- A virtual server with one upstream, and one route that passes its requests on. -/
def passingServer (upstream : String) : VirtualServerSpec :=
  ⟨"", "cafe.example.com", none, [], [⟨"tea", "tea-svc", ⟨3000, by decide⟩, false, ""⟩],
    [⟨"/tea", "", some ⟨upstream, none, none, none⟩, [], "", ""⟩], "", "", ""⟩

-- an action may only name an upstream that there is
example : ServerWellFormed .none (passingServer "tea") ∧
    ¬ServerWellFormed .none (passingServer "milk") := by decide +kernel

end Gatehouse.Validation
