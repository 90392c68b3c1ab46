import Gatehouse.Proofs.Configuration.Parts
import Gatehouse.Proofs.Plan.Rendered

/-!
Where what is served comes from.

A served resource embeds other objects: a master its minions, a virtual server its virtual server
routes. An event about one of these has another key than the resource that embeds it, so a stale
version could survive in the resource if an event edited the store and left what was decided from it
alone. It does not, because after every event everything is as decided from the store
(`settled_run`). What remains is to read the store: which minions a master is merged with
(`mem_mergedWith_iff`, `increasing_mergedWith`) and which virtual server routes a virtual server has
(`mem_routes_iff`). Nothing is used of the checks, so all of this holds for any admission.
-/

set_option autoImplicit false

namespace Gatehouse

/-! ## 1. Minions -/

/-- The host of the first rule, when there is a rule. An empty host is a host here; having no rule
is told apart from it. -/
def Ingress.firstHost? (i : Ingress) : Option String := i.rules.head?.map (·.hostOrEmpty)

/-- To compare these is to compare the hosts of two ingresses that have rules. -/
theorem Ingress.firstHost?_eq_iff {i j : Ingress} (hj : j.rules ≠ []) :
    i.firstHost? = j.firstHost? ↔ i.rules ≠ [] ∧ i.firstHost = j.firstHost := by
  obtain ⟨rule, rules, hrules⟩ := List.exists_cons_of_ne_nil hj
  cases hi : i.rules <;> simp [firstHost?, firstHost, hi, hrules]

section Minions

variable {a : Admission} {passthrough : Bool} {s : Store}

/-- The minions that an ingress with rules is merged with are the stored ones that have its first
host. -/
theorem mem_mergedWith_iff {i j : Ingress} (hj : j.rules ≠ []) :
    i ∈ s.mergedWith j ↔ j.isMaster = true ∧ (∃ key, s.ingresses.get? key = some i) ∧
      i.isMinion = true ∧ i.firstHost? = j.firstHost? := by
  rw [Store.mergedWith, Ingress.firstHost?_eq_iff hj]
  by_cases hmaster : j.isMaster
  · rw [if_pos hmaster, Store.minionsFor, List.mem_filter, mem_minions_iff]
    simp [hmaster, and_assoc]
  · simp [hmaster]

/-- The minions of a host are in the order of their keys, without repetition. -/
theorem increasing_minionsFor
    (hs : ∀ key i, s.ingresses.get? key = some i → i.metadata.key = key) (host : String) :
    ((s.minionsFor host).map (·.metadata.key)).Pairwise (· < ·) := by
  have hall : (s.ingresses.values.map (·.metadata.key)).Pairwise (· < ·) := by
    rw [Table.map_values_eq_keys hs, Table.keys, List.pairwise_map]
    exact s.ingresses.increasing
  -- choosing among the stored ingresses keeps their order
  have hsub : (s.minionsFor host).Sublist s.ingresses.values :=
    List.filter_sublist.trans List.filter_sublist
  exact hall.sublist (hsub.map _)

/-- So are those of a master, and an ingress that is none has none. -/
theorem increasing_mergedWith
    (hs : ∀ key i, s.ingresses.get? key = some i → i.metadata.key = key) (j : Ingress) :
    ((s.mergedWith j).map (·.metadata.key)).Pairwise (· < ·) := by
  rw [Store.mergedWith]
  split
  · exact increasing_minionsFor hs j.firstHost
  · exact List.Pairwise.nil

/-- The minions of an ingress of the plan are those that it is merged with. -/
theorem map_ingress_minions {r : IngressResource}
    (hr : Resource.ingress r ∈ (hostPlan a passthrough s).resources) :
    r.minions.map (·.ingress) = s.mergedWith r.ingress := by
  obtain ⟨key, i, -, -, heq⟩ := exists_ingressResource hr
  rw [ingressResource_eq] at heq
  rw [heq]
  exact (map_decidedMinions id _).trans (List.map_id _)

/-- What has a host has a rule with it. So a served master is one that minions can be found for. -/
theorem rules_ne_nil_of_hosts {h : String} {r : IngressResource}
    (hr : (hostPlan a passthrough s).hosts.get? h = some (.ingress r)) : r.ingress.rules ≠ [] := by
  have hmem : h ∈ r.ingress.hosts := mem_hosts_of_hosts hr
  -- the hosts of an ingress are those of its rules
  intro hnone
  rw [Ingress.hosts, hnone] at hmem
  cases hmem

end Minions

namespace Configuration

/-! ## 2. What is taken on -/

section Run

variable {f : Features} {a : Admission} {events : List Event}

theorem takenOn_ingress_iff {i : Ingress} : TakenOn a events (.ingress i) ↔
    ((fresh f a).run events).store.ingresses.get? i.metadata.key = some i := by
  rw [takenOn_iff (f := f)]
  -- what is found at the place is what the table has, as an object
  show Option.map Object.ingress _ = Option.map Object.ingress (some i) ↔ _
  exact (Option.map_injective fun _ _ => Object.ingress.inj).eq_iff

theorem takenOn_virtualServerRoute_iff {vsr : VirtualServerRoute} :
    TakenOn a events (.virtualServerRoute vsr) ↔
      ((fresh f a).run events).store.virtualServerRoutes.get? vsr.metadata.key = some vsr := by
  rw [takenOn_iff (f := f)]
  show Option.map Object.virtualServerRoute _ = Option.map Object.virtualServerRoute (some vsr) ↔ _
  exact (Option.map_injective fun _ _ => Object.virtualServerRoute.inj).eq_iff

/-- The minions that an ingress with rules is merged with are those that are taken on and have its
first host. -/
theorem mem_mergedWith_run_iff {i j : Ingress} (hj : j.rules ≠ []) :
    i ∈ ((fresh f a).run events).store.mergedWith j ↔ j.isMaster = true ∧
      TakenOn a events (.ingress i) ∧ i.isMinion = true ∧ i.firstHost? = j.firstHost? := by
  have hstored : (∃ key, ((fresh f a).run events).store.ingresses.get? key = some i) ↔
      TakenOn a events (.ingress i) := by
    rw [takenOn_ingress_iff (f := f)]
    refine ⟨fun ⟨key, hkey⟩ => ?_, fun h => ⟨_, h⟩⟩
    rw [(admitted_run.ingress key i hkey).1]
    exact hkey
  rw [mem_mergedWith_iff hj, hstored]

/-- The virtual server routes of a virtual server are those that are taken on under a reference of
it and fit the path. -/
theorem mem_routes_run_iff {vs : VirtualServer} {vsr : VirtualServerRoute} :
    vsr ∈ (virtualServerResource a ((fresh f a).run events).store vs).routes ↔
      TakenOn a events (.virtualServerRoute vsr) ∧ ∃ route ∈ vs.spec.routes, route.route ≠ "" ∧
        qualify vs.metadata.spaceOrEmpty route.route = vsr.metadata.key ∧
        a.delegatedErrors vsr vs.spec.host route.path = [] := by
  rw [mem_routes_iff, takenOn_virtualServerRoute_iff (f := f)]
  constructor
  · rintro ⟨route, hroute, hne, hget, hfits⟩
    -- it lies under its own key, which is the reference
    obtain ⟨hkey, -⟩ := admitted_run.virtualServerRoute _ vsr hget
    exact ⟨hkey.symm ▸ hget, route, hroute, hne, hkey.symm, hfits⟩
  · rintro ⟨hget, route, hroute, hne, hkey, hfits⟩
    exact ⟨route, hroute, hne, hkey.symm ▸ hget, hfits⟩

end Run

/-! ## 3. Provenance -/

/-- Where a resource comes from. The objects that it is made of are taken on. The minions of a
master are all those that are taken on and have its first host, each once, in the order of their
keys. The virtual server routes of a virtual server are those that are taken on under a reference of
one of its routes and fit the path. -/
structure Provenance (a : Admission) (events : List Event) (r : Resource) : Prop where
  parts : ∀ o ∈ r.parts, TakenOn a events o
  minions : ∀ x, r = .ingress x → ∀ i, i ∈ x.minions.map (·.ingress) ↔
    x.ingress.isMaster = true ∧ TakenOn a events (.ingress i) ∧ i.isMinion = true ∧
      i.firstHost? = x.ingress.firstHost?
  order : ∀ x, r = .ingress x → (x.minions.map (·.ingress.metadata.key)).Pairwise (· < ·)
  routes : ∀ x, r = .virtualServer x → ∀ vsr, vsr ∈ x.routes ↔
    TakenOn a events (.virtualServerRoute vsr) ∧ ∃ route ∈ x.server.spec.routes,
      route.route ≠ "" ∧ qualify x.server.metadata.spaceOrEmpty route.route = vsr.metadata.key ∧
        a.delegatedErrors vsr x.server.spec.host route.path = []

/-- Nothing stale is served and nothing is left out: after any events and with any admission, every
object that a served resource is made of is the one that was applied last under its kind and key,
was not deleted since and is let in, the minions of a master are all that there are for its host,
and the virtual server routes of a virtual server are those that it refers to and that fit. -/
theorem provenance_of_served (f : Features) (a : Admission) (events : List Event) :
    ∀ r ∈ ((fresh f a).run events).resources, Provenance a events r := by
  intro r hr
  have hadmitted : ((fresh f a).run events).store.Admitted a := admitted_run
  -- what embeds other objects has a host
  have hhost := exists_host_of_mem_resources settled_run hr
  refine ⟨fun o ho => takenOn_of_mem_parts hr ho, ?_, ?_, ?_⟩
  · rintro x rfl i
    obtain ⟨h, hget⟩ := hhost (by simp)
    rw [map_ingress_minions (mem_resources_of_hosts hget)]
    -- so it has a rule, and a first host to compare with
    exact mem_mergedWith_run_iff (rules_ne_nil_of_hosts hget)
  · rintro x rfl
    obtain ⟨h, hget⟩ := hhost (by simp)
    have hkeys := increasing_mergedWith (fun key i hi => (hadmitted.ingress key i hi).1) x.ingress
    rw [← map_ingress_minions (mem_resources_of_hosts hget), List.map_map] at hkeys
    exact hkeys
  · rintro x rfl vsr
    obtain ⟨h, hget⟩ := hhost (by simp)
    obtain ⟨-, vs, -, rfl, hroutes⟩ := exists_virtualServer (mem_resources_of_hosts hget)
    rw [hroutes, admission_run]
    exact mem_routes_run_iff

/-- A minion comes again after its master, in another version, and is served in that version. The
master is not applied again. -/
theorem provenance_of_updated_minion :
    let a := Admission.unchecked ""
    let events : List Event := [.apply (.ingress (shopMaster "1")),
      .apply (.ingress (shopMinion "1")), .apply (.ingress (shopMinion "2"))]
    let c := (fresh Features.none a).run events
    ∃ r, .ingress r ∈ c.resources ∧ r.minions.map (·.ingress) = [shopMinion "2"] ∧
      Provenance a events (.ingress r) := by
  intro a events c
  let master : IngressResource :=
    { ingressResource c.store (shopMaster "1") with
      validHosts := Table.ofList [("shop.example.com", true)] }
  have hserved : .ingress master ∈ c.resources := by decide +kernel
  have hminions : master.minions.map (·.ingress) = [shopMinion "2"] := by decide +kernel
  exact ⟨master, hserved, hminions, provenance_of_served Features.none a events _ hserved⟩

end Configuration

end Gatehouse
