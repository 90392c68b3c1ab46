import Gatehouse.Proofs.Configuration.Copy
import Gatehouse.Proofs.Plan.Ownership
import Gatehouse.Proofs.Plan.Problems

/-!
Every object is served or reported.

What is served is decided by the contests for hosts and listeners, and what is reported by passes
that look at the outcome, each in its own way. That the two fit together is shown for each kind of
object by comparing three things: what the object has to be part of to be served (`Serves`), the
verdict of the plan about it, and the problem that stands under its key. An object then is
`Accounted` for: it is served exactly when no problem stands, and a problem that stands has a reason
that fits the object.
-/

set_option autoImplicit false

namespace Gatehouse.Configuration

/-! ## 1. Served and reported -/

/-- The problem stands under the key, with the hosts or with the listeners. The two tables are kept
apart because they are decided apart, and no key is in both of them. -/
def Stands (c : Configuration) (key : String) (q : Problem) : Prop :=
  c.hostProblems.get? key = some q ∨ c.listenerProblems.get? key = some q

/-- The object has a part in what is served: as the main object of a resource, as a minion of a
master, or as a virtual server route that a virtual server delegates to. -/
def Serves (c : Configuration) : Object → Prop
  | .ingress i =>
    if i.isMinion then
      ∃ r, Resource.ingress r ∈ c.resources ∧ r.isMaster = true ∧ ∃ m ∈ r.minions, m.ingress = i
    else ∃ r, Resource.ingress r ∈ c.resources ∧ r.ingress = i
  | .virtualServer vs => ∃ r, Resource.virtualServer r ∈ c.resources ∧ r.server = vs
  | .virtualServerRoute vsr => ∃ r, Resource.virtualServer r ∈ c.resources ∧ vsr ∈ r.routes
  | .transportServer ts => ∃ r, Resource.transportServer r ∈ c.resources ∧ r.server = ts
  | _ => False

/-- Why an object may be not served. A virtual server route has two reasons, by whether some virtual
server has its host. -/
def reasonsFor : Object → List Reason
  | .ingress i => if i.isMinion then [.noIngressMasterFound] else [.rejected]
  | .virtualServerRoute _ => [.ignored, .noVirtualServerFound]
  | _ => [.rejected]

/-- The object, which has the key, is served exactly when no problem stands under the key, and a
problem that stands has a reason that fits the object. -/
structure Accounted (c : Configuration) (o : Object) (key : String) : Prop where
  served_iff : c.Serves o ↔ ¬∃ q, c.Stands key q
  reason : ∀ q, c.Stands key q → q.reason ∈ reasonsFor o

/-- The kinds of object that are served, on their own or as a part of another one. -/
def servedKinds : List Kind := [.ingress, .virtualServer, .virtualServerRoute, .transportServer]

/-- An object is accounted for when its verdict is what stands, and is none just when it is
served. -/
theorem accounted_of_verdict {c : Configuration} {o : Object} {key : String} {q? : Option Problem}
    (hstands : ∀ q, c.Stands key q ↔ q? = some q) (hserves : c.Serves o ↔ q? = none)
    (hreason : ∀ q, q? = some q → q.reason ∈ reasonsFor o) : Accounted c o key where
  served_iff := by
    rw [hserves, Option.eq_none_iff_forall_ne_some]
    simp only [hstands, not_exists, ne_eq]
  reason q hq := hreason q ((hstands q).1 hq)

/-! ## 2. Settled configurations -/

section Settled

variable {c : Configuration} (hc : c.Settled) (hs : c.store.Sound)

include hc

/-- What stands is what the plans of the store have as problems. -/
theorem stands_iff {key : String} {q : Problem} :
    c.Stands key q ↔
      ((hostPlan c.admission c.passthrough c.store).problems c.store).get? key = some q ∨
        (listenerPlan c.store).problems.get? key = some q := by
  rw [Stands, hc.hostProblems_eq, hc.listenerProblems_eq]

include hs

/-- What is served has a host or is a transport server on a listener. -/
theorem mem_resources_iff_plan {r : Resource} :
    r ∈ c.resources ↔
      (∃ h, (hostPlan c.admission c.passthrough c.store).hosts.get? h = some r) ∨
        ∃ t n, (listenerPlan c.store).listeners.get? n = some t ∧ r = .transportServer t := by
  rw [mem_resources_iff (holding_of_settled hc hs), holders_of_settled hc, Slot.exists_iff]
  refine or_congr_right ?_
  simp only [Store.holders, holdersOf_listener_iff]
  exact exists_comm

/-- For an object that is judged with the hosts, the verdict is what stands. -/
theorem stands_iff_of_mem_verdicts {key : String} {q? : Option Problem}
    (h : (key, q?) ∈ (hostPlan c.admission c.passthrough c.store).verdicts c.store)
    (hnot : ∀ r ∈ (listenerPlan c.store).servers, r.key ≠ key) (q : Problem) :
    c.Stands key q ↔ q? = some q := by
  rw [stands_iff hc, hostProblems_get?_of_mem hs h]
  constructor
  · rintro (heq | hq)
    · exact heq
    · obtain ⟨r, hr, hkey, -⟩ := exists_server_of_listenerProblems hq
      exact absurd hkey (hnot r hr)
  · exact .inl

/-- A claimant for hosts is accounted for when being served means that a resource with its key is
served. Its verdict looks at the hosts that it has, so the two fit. -/
theorem accounted_of_claimant {x : Resource} (hx : Claimant c.admission c.passthrough c.store x)
    {o : Object} (hreasons : reasonsFor o = [.rejected])
    (hserves : c.Serves o ↔ ∃ r ∈ c.resources, r.key = x.key) : Accounted c o x.key := by
  obtain ⟨r, hr, hkey, -⟩ := exists_resource hx
  rw [← hkey] at hserves ⊢
  have hmem : (r.key, (hostPlan c.admission c.passthrough c.store).resourceProblem? r) ∈
      (hostPlan c.admission c.passthrough c.store).verdicts c.store :=
    List.mem_append_left _ (List.mem_append_left _ (List.mem_map.2 ⟨r, hr, rfl⟩))
  -- the verdict looks at the resource, being served at the table of hosts
  have hnone : (hostPlan c.admission c.passthrough c.store).resourceProblem? r = none ↔
      ∃ h, (hostPlan c.admission c.passthrough c.store).hosts.get? h = some r := by
    rw [← isServed_iff hs hr, HostPlan.resourceProblem?]
    split <;> simp [*]
  refine accounted_of_verdict
    (stands_iff_of_mem_verdicts hc hs hmem fun t ht => (key_ne_of_servers hs hr ht).symm) ?_ ?_
  · rw [hserves, hnone]
    constructor
    · rintro ⟨r', hr', hsame⟩
      rcases (mem_resources_iff_plan hc hs).1 hr' with ⟨h, hget⟩ | ⟨t, n, ht, rfl⟩
      · exact ⟨h, eq_of_key_eq hs (mem_resources_of_hosts hget) hr hsame ▸ hget⟩
      · exact absurd hsame.symm (key_ne_of_servers hs hr (mem_servers_of_listeners ht))
    · rintro ⟨h, hget⟩
      exact ⟨r, (mem_resources_iff_plan hc hs).2 (.inl ⟨h, hget⟩), rfl⟩
  · intro q hq
    rw [HostPlan.resourceProblem?] at hq
    split at hq
    · cases hq
    · rw [hreasons, ← Option.some.inj hq]
      simp [Problem.warning]

/-! ## 3. The kinds -/

/-- An ingress that is not a minion is a claimant. Whether it is a master makes no difference to
this. -/
theorem accounted_mainIngress {key : String} {i : Ingress}
    (hi : c.store.ingresses.get? key = some i) (hmain : i.isMinion = false) :
    Accounted c (.ingress i) (joinKey Kind.ingress.name key) := by
  have hxkey : (Resource.ingress (ingressResource c.store i)).key =
      joinKey Kind.ingress.name key := by
    simp [Resource.key, Resource.kind, Resource.metadata, hs.ingress_key key i hi]
  rw [← hxkey]
  refine accounted_of_claimant hc hs (.ingress key i hi hmain) (by simp [reasonsFor, hmain]) ?_
  simp only [Serves, hmain, Bool.false_eq_true, if_false]
  constructor
  · rintro ⟨r, hr, rfl⟩
    exact ⟨_, hr, by simp [Resource.key, Resource.kind, Resource.metadata]⟩
  · -- a served resource with the key is built from the ingress that the store has there
    rintro ⟨q, hq, hkey⟩
    obtain ⟨hkind, hmeta⟩ := Kind.joinKey_inj hkey
    cases q with
    | virtualServer v => cases hkind
    | transportServer t => cases hkind
    | ingress r =>
      rcases (mem_resources_iff_plan hc hs).1 hq with ⟨h, hget⟩ | ⟨t, n, -, hr⟩
      · obtain ⟨other, j, hj, -, hrj, -⟩ := exists_ingress (mem_resources_of_hosts hget)
        refine ⟨r, hq, hrj.trans (Table.eq_of_key_eq hs.ingress_key hj hi ?_)⟩
        simpa [Resource.metadata, hrj] using hmeta
      · cases hr

/-- So is a virtual server. -/
theorem accounted_virtualServer {key : String} {vs : VirtualServer}
    (hvs : c.store.virtualServers.get? key = some vs) :
    Accounted c (.virtualServer vs) (joinKey Kind.virtualServer.name key) := by
  have hxkey : (Resource.virtualServer (virtualServerResource c.admission c.store vs)).key =
      joinKey Kind.virtualServer.name key := by
    simp [Resource.key, Resource.kind, Resource.metadata, virtualServerResource,
      hs.virtualServer_key key vs hvs]
  rw [← hxkey]
  refine accounted_of_claimant hc hs (.virtualServer key vs hvs) rfl ?_
  constructor
  · rintro ⟨r, hr, rfl⟩
    exact ⟨_, hr, rfl⟩
  · -- again, the store has one virtual server under the key
    rintro ⟨q, hq, hkey⟩
    obtain ⟨hkind, hmeta⟩ := Kind.joinKey_inj hkey
    cases q with
    | ingress r => cases hkind
    | transportServer t => cases hkind
    | virtualServer r =>
      rcases (mem_resources_iff_plan hc hs).1 hq with ⟨h, hget⟩ | ⟨t, n, -, hr⟩
      · obtain ⟨other, ws, hws, hrws, -⟩ := exists_virtualServer (mem_resources_of_hosts hget)
        refine ⟨r, hq, hrws.trans (Table.eq_of_key_eq hs.virtualServer_key hws hvs ?_)⟩
        simpa [Resource.metadata, hrws, virtualServerResource] using hmeta
      · cases hr

/-- The main object of a served transport server is the one that the store has under its key. -/
theorem exists_transportServer {t : TransportServerResource}
    (ht : Resource.transportServer t ∈ c.resources) :
    ∃ key, c.store.transportServers.get? key = some t.server := by
  rcases (mem_resources_iff_plan hc hs).1 ht with ⟨h, hget⟩ | ⟨t', n, ht', heq⟩
  · obtain ⟨key, hkey, -⟩ := of_transportServer_mem_resources (mem_resources_of_hosts hget)
    exact ⟨key, hkey⟩
  · obtain rfl := Resource.transportServer.inj heq
    exact (stored_of_mem_servers (mem_servers_of_listeners ht')).1

/-- A transport server is served exactly when a resource with its key is. -/
theorem serves_transportServer_iff {key : String} {ts : TransportServer}
    (hts : c.store.transportServers.get? key = some ts) :
    c.Serves (.transportServer ts) ↔
      ∃ r ∈ c.resources, r.key = joinKey Kind.transportServer.name key := by
  have hkey : ts.metadata.key = key := hs.transportServer_key key ts hts
  constructor
  · rintro ⟨t, ht, rfl⟩
    exact ⟨_, ht, by simp [Resource.key, Resource.kind, Resource.metadata, hkey]⟩
  · rintro ⟨q, hq, hqkey⟩
    obtain ⟨hkind, hmeta⟩ := Kind.joinKey_inj hqkey
    cases q with
    | ingress r => cases hkind
    | virtualServer r => cases hkind
    | transportServer t =>
      obtain ⟨other, hother⟩ := exists_transportServer hc hs hq
      exact ⟨t, hq, Table.eq_of_key_eq hs.transportServer_key hother hts (hmeta.trans hkey.symm)⟩

/-- A transport server that asks for the built-in listener is accounted for with the hosts. -/
theorem accounted_passthrough {key : String} {ts : TransportServer}
    (hts : c.store.transportServers.get? key = some ts)
    (hpass : ts.spec.listener.isPassthrough = true) (hon : c.passthrough = true) :
    Accounted c (.transportServer ts) (joinKey Kind.transportServer.name key) := by
  have hserves := serves_transportServer_iff hc hs hts
  have hxkey : (Resource.transportServer ⟨ts, 0, []⟩).key =
      joinKey Kind.transportServer.name key := by
    simp [Resource.key, Resource.kind, Resource.metadata, hs.transportServer_key key ts hts]
  rw [← hxkey] at hserves ⊢
  exact accounted_of_claimant hc hs (.transportServer key ts hts hpass hon) rfl hserves

/-- For a transport server on a listener, the verdict of the listeners is what stands. -/
theorem stands_iff_of_mem_servers {r : TransportServerResource}
    (hr : r ∈ (listenerPlan c.store).servers) (q : Problem) :
    c.Stands r.key q ↔ (listenerPlan c.store).problem? r = some q := by
  rw [stands_iff hc, listenerProblems_get?_of_mem hs hr]
  constructor
  · rintro (hq | hq)
    · -- no object with this key is judged with the hosts
      exact absurd rfl (key_ne_of_verdicts hs hr (mem_verdicts_of_hostProblems hq))
    · exact hq
  · exact .inr

/-- A transport server that asks for another listener is accounted for with the listeners. It is no
claimant for hosts, so the hosts say nothing about its key. -/
theorem accounted_listening {key : String} {ts : TransportServer}
    (hts : c.store.transportServers.get? key = some ts)
    (hpass : ts.spec.listener.isPassthrough = false) :
    Accounted c (.transportServer ts) (joinKey Kind.transportServer.name key) := by
  have hserves := serves_transportServer_iff hc hs hts
  have hlistening : ts ∈ c.store.listeningServers := by
    refine mem_listeningServers_iff.2 ⟨⟨key, hts⟩, fun hprotocol => ?_⟩
    rw [(hs.passthrough_iff key ts hts).2 hprotocol] at hpass
    cases hpass
  -- The resource built for the server is what the listener plan speaks of.
  rw [← map_server_servers] at hlistening
  obtain ⟨r, hr, rfl⟩ := List.mem_map.1 hlistening
  have hrkey : r.key = joinKey Kind.transportServer.name key :=
    congrArg (joinKey _) (hs.transportServer_key key r.server hts)
  rw [← hrkey] at hserves ⊢
  refine accounted_of_verdict (stands_iff_of_mem_servers hc hs hr) ?_ ?_
  · rw [hserves, listenerProblem?_eq_none_iff hs hr]
    -- No host is held under the key of a TransportServer, so the holder is one of the listeners.
    constructor
    · rintro ⟨q, hq, hsame⟩
      rcases (mem_resources_iff_plan hc hs).1 hq with ⟨h, hget⟩ | ⟨t, n, ht, rfl⟩
      · exact absurd hsame (key_ne_of_servers hs (mem_resources_of_hosts hget) hr)
      · exact ⟨n, server_eq_of_key_eq hs (mem_servers_of_listeners ht) hr hsame ▸ ht⟩
    · rintro ⟨n, hget⟩
      exact ⟨_, (mem_resources_iff_plan hc hs).2 (.inr ⟨r, n, hget, rfl⟩), rfl⟩
  · intro q hq
    rw [(of_listenerProblem? hq).2]
    simp [reasonsFor]

/-- A minion is judged by whether its host has a master, and it is a part of that master then. -/
theorem accounted_minion {key : String} {i : Ingress}
    (hi : c.store.ingresses.get? key = some i) (hminion : i.isMinion = true) :
    Accounted c (.ingress i) (joinKey Kind.ingress.name key) := by
  have himem : i ∈ c.store.minions := mem_minions_iff.2 ⟨⟨key, hi⟩, hminion⟩
  rw [← hs.ingress_key key i hi]
  have hmem : (joinKey Kind.ingress.name i.metadata.key,
      (hostPlan c.admission c.passthrough c.store).minionProblem? i) ∈
        (hostPlan c.admission c.passthrough c.store).verdicts c.store :=
    List.mem_append_left _ (List.mem_append_right _ (List.mem_map.2 ⟨i, himem, rfl⟩))
  have hnot : ∀ r ∈ (listenerPlan c.store).servers,
      r.key ≠ joinKey Kind.ingress.name i.metadata.key := fun r _ heq =>
    nomatch (Kind.joinKey_inj heq).1
  refine accounted_of_verdict (stands_iff_of_mem_verdicts hc hs hmem hnot) ?_ ?_
  · -- the verdict asks for a master with the host of the minion
    have hnone : (hostPlan c.admission c.passthrough c.store).minionProblem? i = none ↔
        (hostPlan c.admission c.passthrough c.store).hasMaster i.firstHost = true := by
      rw [HostPlan.minionProblem?]
      split <;> simp [*]
    rw [hnone, hasMaster_iff hs himem]
    simp only [Serves, hminion, if_true]
    constructor
    · rintro ⟨r, hr, hmaster, hm⟩
      rcases (mem_resources_iff_plan hc hs).1 hr with ⟨h, hget⟩ | ⟨t, n, -, heq⟩
      · exact ⟨h, r, hget, hmaster, hm⟩
      · cases heq
    · rintro ⟨h, r, hget, hmaster, hm⟩
      exact ⟨r, (mem_resources_iff_plan hc hs).2 (.inl ⟨h, hget⟩), hmaster, hm⟩
  · intro q hq
    rw [HostPlan.minionProblem?] at hq
    split at hq
    · cases hq
    · rw [← Option.some.inj hq]
      simp [Problem.warning, reasonsFor, hminion]

/-- A virtual server route is judged by whether the virtual server that has its host delegates to
it. -/
theorem accounted_route (ha : c.admission.KeepsHosts) {key : String} {vsr : VirtualServerRoute}
    (hvsr : c.store.virtualServerRoutes.get? key = some vsr) :
    Accounted c (.virtualServerRoute vsr) (joinKey Kind.virtualServerRoute.name key) := by
  have hmem : (joinKey Kind.virtualServerRoute.name key,
      (hostPlan c.admission c.passthrough c.store).routeProblem? vsr) ∈
        (hostPlan c.admission c.passthrough c.store).verdicts c.store := by
    refine List.mem_append_right _ (List.mem_map.2 ⟨vsr, Table.mem_values_iff.2 ⟨key, hvsr⟩, ?_⟩)
    rw [hs.virtualServerRoute_key key vsr hvsr]
  -- Routes are judged with the hosts: no problem of a listener has such a key.
  have hnot : ∀ r ∈ (listenerPlan c.store).servers,
      r.key ≠ joinKey Kind.virtualServerRoute.name key := fun r _ heq =>
    nomatch (Kind.joinKey_inj heq).1
  refine accounted_of_verdict (stands_iff_of_mem_verdicts hc hs hmem hnot) ?_ ?_
  · rw [routeProblem?_eq_none_iff ha hs hvsr]
    constructor
    · rintro ⟨r, hr, hroute⟩
      rcases (mem_resources_iff_plan hc hs).1 hr with ⟨h, hget⟩ | ⟨t, n, -, heq⟩
      · exact ⟨h, r, hget, hroute⟩
      · cases heq
    · rintro ⟨h, r, hget, hroute⟩
      exact ⟨r, (mem_resources_iff_plan hc hs).2 (.inl ⟨h, hget⟩), hroute⟩
  · intro q hq
    rw [HostPlan.routeProblem?] at hq
    split at hq
    · split at hq
      · cases hq
      · rw [← Option.some.inj hq]
        simp [Problem.warning, reasonsFor]
    · rw [← Option.some.inj hq]
      simp [Problem.warning, reasonsFor]

omit hc in
/-- A claimant for hosts is made from an object of the store. These make the first of the three
sorts of verdict. -/
theorem exists_object_of_claimant {x : Resource}
    (hx : Claimant c.admission c.passthrough c.store x) :
    ∃ kind ∈ servedKinds, ∃ key o,
      c.store.find? (kind, key) = some o ∧ x.key = joinKey kind.name key := by
  rcases hx with ⟨key, i, hi, -⟩ | ⟨key, vs, hvs⟩ | ⟨key, ts, hts, -, -⟩
  · refine ⟨.ingress, by simp [servedKinds], key, .ingress i, by simp [Store.find?, hi], ?_⟩
    simp [Resource.key, Resource.kind, Resource.metadata, hs.ingress_key key i hi]
  · refine ⟨.virtualServer, by simp [servedKinds], key, .virtualServer vs,
      by simp [Store.find?, hvs], ?_⟩
    simp [Resource.key, Resource.kind, Resource.metadata, virtualServerResource,
      hs.virtualServer_key key vs hvs]
  · refine ⟨.transportServer, by simp [servedKinds], key, .transportServer ts,
      by simp [Store.find?, hts], ?_⟩
    simp [Resource.key, Resource.kind, Resource.metadata, hs.transportServer_key key ts hts]

omit hc in
/-- Every verdict that comes with the hosts is about an object of the store. It need not be one that
tells of a problem. -/
theorem exists_object_of_mem_verdicts {key : String} {q? : Option Problem}
    (h : (key, q?) ∈ (hostPlan c.admission c.passthrough c.store).verdicts c.store) :
    ∃ kind ∈ servedKinds, ∃ key' o,
      c.store.find? (kind, key') = some o ∧ key = joinKey kind.name key' := by
  -- The verdicts are those of the claimants, of the minions and of the routes, in this order.
  rcases List.mem_append.1 h with h | h
  · rcases List.mem_append.1 h with h | h
    · obtain ⟨r, hr, heq⟩ := List.mem_map.1 h
      obtain ⟨rfl, -⟩ := Prod.mk.inj heq
      obtain ⟨i, hi⟩ := List.mem_iff_getElem?.1 hr
      obtain ⟨x, hx, -, rfl⟩ := exists_claimant hi
      rw [Resource.key_decided]
      exact exists_object_of_claimant hs hx
    · obtain ⟨i, hi, heq⟩ := List.mem_map.1 h
      obtain ⟨rfl, -⟩ := Prod.mk.inj heq
      obtain ⟨⟨key, hkey⟩, -⟩ := mem_minions_iff.1 hi
      refine ⟨.ingress, by simp [servedKinds], key, .ingress i, by simp [Store.find?, hkey], ?_⟩
      rw [hs.ingress_key key i hkey]
  · obtain ⟨vsr, hvsr, heq⟩ := List.mem_map.1 h
    obtain ⟨rfl, -⟩ := Prod.mk.inj heq
    obtain ⟨key, hkey⟩ := Table.mem_values_iff.1 hvsr
    refine ⟨.virtualServerRoute, by simp [servedKinds], key, .virtualServerRoute vsr,
      by simp [Store.find?, hkey], ?_⟩
    rw [hs.virtualServerRoute_key key vsr hkey]

/-- Every problem is about an object of the store. So nothing is told of what is gone. -/
theorem exists_object_of_stands {key : String} {q : Problem} (h : c.Stands key q) :
    ∃ kind ∈ servedKinds, ∃ key' o,
      c.store.find? (kind, key') = some o ∧ key = joinKey kind.name key' := by
  rcases (stands_iff hc).1 h with hq | hq
  · exact exists_object_of_mem_verdicts hs (mem_verdicts_of_hostProblems hq)
  · obtain ⟨r, hr, rfl, -⟩ := exists_server_of_listenerProblems hq
    obtain ⟨⟨key, hkey⟩, -⟩ := stored_of_mem_servers hr
    refine ⟨.transportServer, by simp [servedKinds], key, .transportServer r.server,
      by simp [Store.find?, hkey], ?_⟩
    rw [← hs.transportServer_key key r.server hkey]
    rfl

end Settled

/-! ## 4. Runs -/

/-- After any events, every ingress, virtual server, virtual server route and transport server of
the store is served or has a problem standing under its key, and never both; the problem of a minion
is that it has no master, that of a virtual server route that no virtual server takes it, and that
of any other object that it is rejected. No problem stands under another key. -/
theorem served_or_reported (className : String) (f : Features) (events : List Event) :
    let c := (fresh f (.checked className f)).run events
    (∀ kind ∈ servedKinds, ∀ key o, c.store.find? (kind, key) = some o →
      Accounted c o (joinKey kind.name key)) ∧
    ∀ key q, c.Stands key q → ∃ kind ∈ servedKinds, ∃ key' o,
      c.store.find? (kind, key') = some o ∧ key = joinKey kind.name key' := by
  intro c
  have hc : c.Settled := settled_run
  have hs : c.store.Sound := sound_run
  refine ⟨fun kind hkind key o ho => ?_, fun key q hq => exists_object_of_stands hc hs hq⟩
  simp only [servedKinds, List.mem_cons, List.not_mem_nil, or_false] at hkind
  rcases hkind with rfl | rfl | rfl | rfl <;>
    obtain ⟨object, hget, rfl⟩ := Option.map_eq_some_iff.1 ho
  · by_cases hminion : object.isMinion
    · exact accounted_minion hc hs hget hminion
    · exact accounted_mainIngress hc hs hget (by simpa using hminion)
  · exact accounted_virtualServer hc hs hget
  · have ha : c.admission = .checked className f := admission_run
    exact accounted_route hc hs (ha ▸ Admission.keepsHosts_checked className f) hget
  · by_cases hpass : object.spec.listener.isPassthrough
    · -- without passthrough no such transport server is let in
      have hadmitted : c.store.Admitted (.checked className f) := admitted_run
      have herrors := (hadmitted.transportServer key object hget).2.2
      have hon : c.passthrough = f.tlsPassthroughEnabled := passthrough_run
      refine accounted_passthrough hc hs hget hpass ?_
      rw [hon]
      exact Store.enabled_of_listenerRefErrors (Store.listenerRefErrors_eq_nil herrors) hpass
    · exact accounted_listening hc hs hget (by simpa using hpass)

end Gatehouse.Configuration
