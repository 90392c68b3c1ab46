import Gatehouse.Proofs.Configuration.Provenance
import Gatehouse.Proofs.Validation.VirtualServer

/-!
How often a virtual server has a virtual server route.

Every route of a virtual server looks for its virtual server route by itself, and no check compares
the references of two routes. So a virtual server has a virtual server route once for every route
that leaves its path to it (`count_routes`). Two routes may do so, with the name alone or with the
namespace, when one of their paths begins with the other one, or when there are no subroutes that
had to lie below the paths (`Route.LeavesTo.nested`).
-/

set_option autoImplicit false

namespace Gatehouse

/-! ## 1. Routes that leave their paths -/

/-- What an object is called: its namespace and its name. -/
def Meta.names (m : Meta) : Option String × Option String := (m.space, m.name)

/-- Who is called the same has the same key. The converse does not hold, as an empty namespace is
not the same as none. -/
theorem Meta.key_eq_of_names_eq {m n : Meta} (h : m.names = n.names) : m.key = n.key := by
  obtain ⟨hspace, hname⟩ := Prod.mk.inj h
  rw [key, key, spaceOrEmpty, spaceOrEmpty, hspace, hname]

/-- A route of a virtual server leaves its path to a virtual server route, which it refers to and
which fits the path. -/
@[mk_iff]
structure Route.LeavesTo (vs : VirtualServer) (vsr : VirtualServerRoute) (r : Route) : Prop where
  refers : r.route ≠ ""
  key : qualify vs.metadata.spaceOrEmpty r.route = vsr.metadata.key
  fits : Validation.Fits vsr.spec vs.spec.host r.path

instance (vs : VirtualServer) (vsr : VirtualServerRoute) (r : Route) :
    Decidable (r.LeavesTo vs vsr) := decidable_of_iff _ (Route.leavesTo_iff vs vsr r).symm

/-- The paths that are left to one virtual server route are nested, if it has a subroute: the path
of the subroute begins with both of them. -/
theorem Route.LeavesTo.nested {vs : VirtualServer} {vsr : VirtualServerRoute} {q r : Route}
    (hq : q.LeavesTo vs vsr) (hr : r.LeavesTo vs vsr) (hne : vsr.spec.subroutes ≠ []) :
    q.path.toList <+: r.path.toList ∨ r.path.toList <+: q.path.toList := by
  obtain ⟨subroute, hsubroute⟩ := List.exists_mem_of_ne_nil _ hne
  exact List.prefix_or_prefix_of_prefix (hq.fits.below _ hsubroute) (hr.fits.below _ hsubroute)

/-- How many routes of a virtual server leave their paths to a virtual server route. -/
def delegations (vs : VirtualServer) (vsr : VirtualServerRoute) : Nat :=
  vs.spec.routes.countP fun r => r.LeavesTo vs vsr

/-- A virtual server has a virtual server route of the store once for every route that leaves its
path to it. They are told apart by what they are called, as the keys of the store are made of
that. -/
theorem count_routes {a : Admission} {s : Store} {vs : VirtualServer} {vsr : VirtualServerRoute}
    (hs : ∀ key v, s.virtualServerRoutes.get? key = some v → v.metadata.key = key)
    (hvsr : s.virtualServerRoutes.get? vsr.metadata.key = some vsr)
    (hfits : ∀ host path, a.delegatedErrors vsr host path = [] ↔
      Validation.Fits vsr.spec host path) :
    ((virtualServerResource a s vs).routes.map (·.metadata.names)).count vsr.metadata.names =
      delegations vs vsr := by
  rw [List.count, List.countP_map, countP_routes, delegations]
  refine List.countP_congr fun route _ => ?_
  rw [Bool.and_eq_true, Bool.not_eq_true', String.isEmpty_eq_false_iff, Option.any_eq_true,
    decide_eq_true_iff, Route.leavesTo_iff]
  refine and_congr_right fun _ => ?_
  constructor
  · rintro ⟨v, hv, hnames⟩
    obtain ⟨hget, hnone⟩ := route?_delegate_eq_some_iff.1 hv
    -- the store has one virtual server route of that name
    obtain rfl : v = vsr :=
      Table.eq_of_key_eq hs hget hvsr (Meta.key_eq_of_names_eq (beq_iff_eq.1 hnames))
    exact ⟨(hs _ v hget).symm, (hfits ..).1 hnone⟩
  · rintro ⟨hkey, hfit⟩
    have hget : s.virtualServerRoutes.get? (qualify vs.metadata.spaceOrEmpty route.route) =
        some vsr := hkey ▸ hvsr
    exact ⟨vsr, route?_delegate_eq_some_iff.2 ⟨hget, (hfits ..).2 hfit⟩, beq_self_eq_true _⟩

namespace Configuration

/-! ## 2. After a run -/

/-- A virtual server resource has the virtual server routes that its routes leave their paths to:
only such as are taken on, and each of these once for every route that does. So it has none twice
exactly when there are no two routes that leave their paths to the same one. -/
structure ListedAsDelegated (a : Admission) (events : List Event) (x : VirtualServerResource) :
    Prop where
  /-- What is listed is taken on. -/
  taken : ∀ vsr ∈ x.routes, TakenOn a events (.virtualServerRoute vsr)
  /-- What is taken on is listed as often as paths are left to it. -/
  count : ∀ vsr, TakenOn a events (.virtualServerRoute vsr) →
    (x.routes.map (·.metadata.names)).count vsr.metadata.names = delegations x.server vsr
  /-- So nothing is listed twice exactly when no two paths are left to the same one. -/
  once : (x.routes.map (·.metadata.names)).Nodup ↔
    ∀ vsr, TakenOn a events (.virtualServerRoute vsr) → delegations x.server vsr ≤ 1

section Run

variable {className : String} {f : Features} {events : List Event}

/-- What is taken on has no errors of its own, so that only the path is left to check. -/
theorem delegatedErrors_eq_nil_iff_of_takenOn {vsr : VirtualServerRoute}
    (h : TakenOn (.checked className f) events (.virtualServerRoute vsr)) (host path : String) :
    Validation.delegatedErrors f vsr host path = [] ↔ Validation.Fits vsr.spec host path := by
  obtain ⟨-, -, hvalid⟩ :=
    admitted_run.virtualServerRoute _ vsr ((takenOn_virtualServerRoute_iff (f := f)).1 h)
  rw [Validation.delegatedErrors, List.append_eq_nil_iff, Validation.delegationErrors_eq_nil_iff]
  exact and_iff_right hvalid

theorem routes_of_mem_resources {a : Admission} {x : VirtualServerResource}
    (hx : .virtualServer x ∈ ((fresh f a).run events).resources) :
    x.routes = (virtualServerResource a ((fresh f a).run events).store x.server).routes := by
  obtain ⟨h, hget⟩ := exists_host_of_mem_resources settled_run hx (by simp)
  obtain ⟨-, vs, -, hserver, hroutes⟩ := exists_virtualServer (mem_resources_of_hosts hget)
  rw [hserver, hroutes, admission_run]

/-- After any events, the resource of a virtual server lists its virtual server routes as they are
delegated to: once for every route that leaves its path to one. A reader that needs each of them
once has to see to that itself. -/
theorem listed_as_delegated (className : String) (f : Features) (events : List Event)
    (x : VirtualServerResource)
    (hx : .virtualServer x ∈ ((fresh f (.checked className f)).run events).resources) :
    ListedAsDelegated (.checked className f) events x := by
  have hroutes := routes_of_mem_resources hx
  have htaken : ∀ vsr ∈ x.routes,
      TakenOn (.checked className f) events (.virtualServerRoute vsr) := by
    intro vsr hvsr
    rw [hroutes] at hvsr
    exact (mem_routes_run_iff.1 hvsr).1
  have hcount : ∀ vsr, TakenOn (.checked className f) events (.virtualServerRoute vsr) →
      (x.routes.map (·.metadata.names)).count vsr.metadata.names = delegations x.server vsr := by
    intro vsr hvsr
    rw [hroutes]
    exact count_routes (fun key v hv => (admitted_run.virtualServerRoute key v hv).1)
      (takenOn_virtualServerRoute_iff.1 hvsr) (delegatedErrors_eq_nil_iff_of_takenOn hvsr)
  refine ⟨htaken, hcount, ?_⟩
  rw [List.nodup_iff_count_le_one]
  -- A name that no route bears is counted zero times, so only the routes need a look.
  constructor
  · intro honce vsr hvsr
    rw [← hcount vsr hvsr]
    exact honce _
  · intro honce names
    by_cases hmem : names ∈ x.routes.map (·.metadata.names)
    · obtain ⟨vsr, hvsr, rfl⟩ := List.mem_map.1 hmem
      rw [hcount vsr (htaken vsr hvsr)]
      exact honce vsr (htaken vsr hvsr)
    · rw [List.count_eq_zero.2 hmem]
      exact Nat.zero_le 1

end Run

/-- A virtual server route for one kind of tea. -/
def greenTea : VirtualServerRoute :=
  ⟨plainMeta "tea" 1 10, ⟨"", "cafe.example.com", [⟨"tea", "tea-svc", ⟨8090, by decide⟩, false, ""⟩],
    [⟨"/tea/green", "", some ⟨"tea", none, none, none⟩, [], "", ""⟩]⟩⟩

/-- A virtual server that leaves two paths to virtual server routes. -/
def twoPathServer (path reference other otherReference : String) : VirtualServer :=
  let plain := plainServer "cafe" "cafe.example.com" 1 10
  { plain with
    spec := { plain.spec with
      routes := [⟨path, reference, none, [], "", ""⟩, ⟨other, otherReference, none, [], "", ""⟩] } }

/-- A virtual server route that two routes refer to is listed once when it fits one path only. -/
theorem listed_once :
    let a := Admission.checked "nginx" Features.none
    let vs := twoPathServer "/tea" "tea" "/coffee" "shop/tea"
    let events : List Event := [.apply (.virtualServerRoute greenTea), .apply (.virtualServer vs)]
    let c := (fresh Features.none a).run events
    let x := virtualServerResource a c.store vs
    .virtualServer x ∈ c.resources ∧ TakenOn a events (.virtualServerRoute greenTea) ∧
      (x.routes.map (·.metadata.names)).count greenTea.metadata.names = 1 := by
  intro a vs events c x
  have hx : .virtualServer x ∈ c.resources := by decide +kernel
  have htaken : TakenOn a events (.virtualServerRoute greenTea) :=
    (takenOn_virtualServerRoute_iff (f := Features.none)).2 (by decide +kernel)
  have hdelegations : delegations vs greenTea = 1 := by decide +kernel
  have hlisted := listed_as_delegated "nginx" Features.none events x hx
  exact ⟨hx, htaken, (hlisted.count greenTea htaken).trans hdelegations⟩

/-- A virtual server route that fits both paths is listed twice. Nothing refuses the two references,
as each of the routes has a path of its own. -/
theorem listed_twice :
    let a := Admission.checked "nginx" Features.none
    let vs := twoPathServer "/tea" "tea" "/tea/green" "shop/tea"
    let events : List Event := [.apply (.virtualServerRoute greenTea), .apply (.virtualServer vs)]
    let c := (fresh Features.none a).run events
    let x := virtualServerResource a c.store vs
    .virtualServer x ∈ c.resources ∧ x.routes = [greenTea, greenTea] ∧
      ¬(x.routes.map (·.metadata.names)).Nodup := by
  decide +kernel

end Configuration

end Gatehouse
