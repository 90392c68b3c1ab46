import Gatehouse.Proofs.Plan.Listeners
import Gatehouse.Proofs.Validation.GlobalConfiguration
import Mathlib.Data.List.Count

/-!
Who has a host or a listener, and what the others are told.

A host is had by one of the claimants that ask for it, and by nobody that is junior to another one
of them (`exists_hosts_iff`, `not_wins_of_hosts`). Nothing is told by accident either: the contest
turns every claim into a holding or into one loss, a loss is told once, and no other warning reads
like it. So what a resource is told about a host and its having the host add up to how often it asks
for it (`count_hostTaken`). The listeners are decided by a contest of the same kind, and the same is
shown for them (`exists_listeners_iff`, `not_wins_of_listeners`, `count_listenerTaken`).

Claimants are a matter of the plans. Who asks for what is also said of the objects themselves
(`Store.AsksForHost`, `Store.AsksForListener`), and with what the checks of the kinds know of an
object, the sums come down to one warning or none for each resource that is built
(`count_hostTaken_of_built`, `count_listenerTaken_of_built`).
-/

set_option autoImplicit false

namespace Gatehouse

/-! ## 1. Hosts -/

/-- Different hosts are told about in different words, so warnings about one host can be counted. -/
theorem hostTaken_injective : Function.Injective hostTaken := by
  intro g h heq
  simpa [hostTaken] using heq

theorem nodup_resources {a : Admission} {passthrough : Bool} {s : Store} (hs : s.Sound) :
    (hostPlan a passthrough s).resources.Nodup :=
  List.Nodup.of_map _ (nodup_keys_resources hs)

section Hosts

variable {a : Admission} {passthrough : Bool} {s : Store}

/-- A number holds a host in the contest exactly when the resource with the number has the host.
What is known of contests goes over to the table by this. -/
theorem isHolder_iff_hosts (hs : s.Sound) {i : Nat} {r : Resource}
    (hr : (hostPlan a passthrough s).resources[i]? = some r) {h : String} :
    (hostContest (hostClaimants a passthrough s)).isHolder i h = true ↔
      (hostPlan a passthrough s).hosts.get? h = some r :=
  Standing.isHolder_iff_get?_holding (nodup_resources hs) hr

theorem mem_hosts_of_hosts {h : String} {r : Resource}
    (hr : (hostPlan a passthrough s).hosts.get? h = some r) : h ∈ r.hosts := by
  obtain ⟨g, heq, hmem⟩ := mem_hosts_of_serves (mem_resources_of_hosts hr) (serves_of_hosts hr)
  exact Slot.host.inj heq ▸ hmem

/-- A host is had when someone asks for it. So no host that is wanted is left without a resource,
and none is served that nobody asks for. -/
theorem exists_hosts_iff {h : String} :
    (∃ r, (hostPlan a passthrough s).hosts.get? h = some r) ↔
      ∃ x, Claimant a passthrough s x ∧ h ∈ x.hosts := by
  constructor
  · rintro ⟨r, hr⟩
    obtain ⟨i, -, hi⟩ := hosts_get?_iff.1 hr
    obtain ⟨x, hx, -, rfl⟩ := exists_claimant hi
    exact ⟨x, hx, by simpa using mem_hosts_of_hosts hr⟩
  · rintro ⟨x, hx, hwants⟩
    obtain ⟨i, hi⟩ := List.mem_iff_getElem?.1 (mem_hostClaimants_iff.2 hx)
    obtain ⟨j, hj⟩ : ∃ j, (hostContest (hostClaimants a passthrough s)).isHolder j h = true :=
      exists_isHolder hi hwants
    -- the holder is a claimant, so it has been decided
    obtain ⟨y, hy, -⟩ := wants_of_isHolder hj
    exact ⟨_, hosts_get?_iff.2 ⟨j, hj, by rw [getElem?_resources, hy, Option.map_some]⟩⟩

/-- Nobody who asks for a host is senior to the one who has it. Who that is among equals is left to
the order of the claimants. -/
theorem not_wins_of_hosts {h : String} {r x : Resource}
    (hr : (hostPlan a passthrough s).hosts.get? h = some r) (hx : Claimant a passthrough s x)
    (hwants : h ∈ x.hosts) : x.wins r = false := by
  obtain ⟨i, hi, hri⟩ := hosts_get?_iff.1 hr
  obtain ⟨y, -, hy, rfl⟩ := exists_claimant hri
  obtain ⟨j, hj⟩ := List.mem_iff_getElem?.1 (mem_hostClaimants_iff.2 hx)
  rw [Resource.wins, Resource.metadata_decided]
  exact not_wins_of_isHolder hy hi hj hwants

/-- Before the hosts are decided, nobody is told that one is taken: there are only warnings about
virtual server routes. -/
theorem hostTaken_notMem_of_claimant {x : Resource} (hx : Claimant a passthrough s x) (h : String) :
    hostTaken h ∉ x.warnings := by
  rcases hx with ⟨key, i, hi, hmain⟩ | ⟨key, vs, hvs⟩ | ⟨key, ts, hts, hpass, hon⟩
  · have hnone : (ingressResource s i).warnings = [] := by
      unfold ingressResource
      split <;> rfl
    simp [Resource.warnings, hnone]
  · intro hmem
    obtain ⟨d, -, hd⟩ := List.mem_filterMap.1 hmem
    -- the texts begin with different letters
    have hhead : ∀ text, d.warning? = some text → text.toList.head? = some 'V' := by
      intro text htext
      cases d with
      | found vsr => cases htext
      | missing key => simp [← Option.some.inj htext]
      | unfit key errors => simp [← Option.some.inj htext]
    have := hhead _ hd
    simp [hostTaken] at this
  · simp [Resource.warnings]

theorem warnings_decided (st : Standing) (n : Nat) (r : Resource) :
    (r.decided st n).warnings = r.warnings ++ (st.lost n).map hostTaken := by
  cases r <;> rfl

/-- Every time that a resource asks for a host, it has the host or is told once that it is taken.
The sum is that of the contest, read in warnings. -/
theorem count_hostTaken (hs : s.Sound) {r : Resource}
    (hr : r ∈ (hostPlan a passthrough s).resources) (h : String) :
    r.warnings.count (hostTaken h) +
      (if (hostPlan a passthrough s).hosts.get? h = some r then 1 else 0) = r.hosts.count h := by
  obtain ⟨i, hi⟩ := List.mem_iff_getElem?.1 hr
  obtain ⟨x, hx, hxi, rfl⟩ := exists_claimant hi
  have hlost : (x.decided (hostContest (hostClaimants a passthrough s)) i).warnings.count
      (hostTaken h) = ((hostContest (hostClaimants a passthrough s)).lost i).count h := by
    rw [warnings_decided, List.count_append,
      List.count_eq_zero.2 (hostTaken_notMem_of_claimant hx h), Nat.zero_add,
      List.count_map_of_injective _ _ hostTaken_injective]
  rw [hlost, Resource.hosts_decided]
  exact count_lost_add_holding (nodup_resources hs) hxi hi h

/-- An ingress has a mark for each of its hosts, which says whether it has the host. An ingress that
lost all of its hosts has marks too, though it is not served. -/
theorem get?_validHosts_iff (hs : s.Sound) {i : IngressResource}
    (hr : Resource.ingress i ∈ (hostPlan a passthrough s).resources) {h : String} {mark : Bool} :
    i.validHosts.get? h = some mark ↔ h ∈ i.ingress.hosts ∧
      (mark = true ↔ (hostPlan a passthrough s).hosts.get? h = some (.ingress i)) := by
  obtain ⟨n, hn⟩ := List.mem_iff_getElem?.1 hr
  obtain ⟨x, hx, -, hdecided⟩ := exists_claimant hn
  cases x with
  | virtualServer v => cases hdecided
  | transportServer t => cases hdecided
  | ingress j =>
    have hheld := isHolder_iff_hosts hs hn (h := h)
    obtain rfl := Resource.ingress.inj hdecided
    rw [← hheld, ← Bool.eq_iff_iff]
    exact Table.get?_ofList_map_iff

end Hosts

/-! ## 2. Listeners -/

theorem listenerTaken_injective : Function.Injective listenerTaken := by
  intro m n heq
  simpa [listenerTaken] using heq

section Listeners

variable {s : Store}

theorem nodup_servers (hs : s.Sound) : (listenerPlan s).servers.Nodup :=
  List.Nodup.of_map _ (nodup_keys_servers hs)

theorem getElem?_listeningResources {i : Nat} {x : TransportServerResource} :
    (s.listeningServers.map (listeningResource s))[i]? = some x ↔
      ∃ ts, s.listeningServers[i]? = some ts ∧ x = listeningResource s ts := by
  rw [List.getElem?_map, Option.map_eq_some_iff]
  simp only [eq_comm]

/-- A listener has a transport server when one claims it. A listener that is not declared is claimed
by nobody. -/
theorem exists_listeners_iff {n : String} :
    (∃ r, (listenerPlan s).listeners.get? n = some r) ↔
      ∃ ts ∈ s.listeningServers, n ∈ claimedListener s (listeningResource s ts) := by
  constructor
  · rintro ⟨r, hr⟩
    obtain ⟨i, hi, -⟩ := listeners_get?_iff.1 hr
    obtain ⟨x, hx, hwants⟩ := wants_of_isHolder hi
    obtain ⟨ts, hts, rfl⟩ := getElem?_listeningResources.1 hx
    exact ⟨ts, List.mem_of_getElem? hts, hwants⟩
  · rintro ⟨ts, hts, hwants⟩
    obtain ⟨i, hi⟩ := List.mem_iff_getElem?.1 hts
    obtain ⟨j, hj⟩ : ∃ j, (listenerContest s).isHolder j n = true :=
      exists_isHolder (getElem?_listeningResources.2 ⟨ts, hi, rfl⟩) hwants
    obtain ⟨y, hy, -⟩ := wants_of_isHolder hj
    obtain ⟨us, hus, -⟩ := getElem?_listeningResources.1 hy
    exact ⟨_, listeners_get?_iff.2 ⟨j, hj, by rw [getElem?_servers, hus, Option.map_some]⟩⟩

theorem mem_claimedListener_of_listeners {n : String} {r : TransportServerResource}
    (hr : (listenerPlan s).listeners.get? n = some r) : n ∈ claimedListener s r := by
  obtain ⟨i, hi, hri⟩ := listeners_get?_iff.1 hr
  obtain ⟨x, hx, hwants⟩ := wants_of_isHolder hi
  obtain ⟨ts, hts, rfl⟩ := getElem?_listeningResources.1 hx
  rw [getElem?_servers, hts, Option.map_some] at hri
  -- the claim looks at the object only
  exact Option.some.inj hri ▸ hwants

/-- Nobody who claims a listener is senior to the one who has it. -/
theorem not_wins_of_listeners {n : String} {r : TransportServerResource}
    (hr : (listenerPlan s).listeners.get? n = some r) {ts : TransportServer}
    (hts : ts ∈ s.listeningServers) (hwants : n ∈ claimedListener s (listeningResource s ts)) :
    ts.metadata.wins r.server.metadata = false := by
  obtain ⟨i, hi, hri⟩ := listeners_get?_iff.1 hr
  obtain ⟨us, hus, hserver, -⟩ := exists_listeningServer hri
  obtain ⟨j, hj⟩ := List.mem_iff_getElem?.1 hts
  have hnot := not_wins_of_isHolder (getElem?_listeningResources.2 ⟨us, hus, rfl⟩) hi
    (getElem?_listeningResources.2 ⟨ts, hj, rfl⟩) hwants
  rw [hserver]
  exact hnot

/-- A transport server that claims a listener has it or is told once that it is taken, and one that
does not claim it is not told. There is at most one listener that it claims. -/
theorem count_listenerTaken (hs : s.Sound) {r : TransportServerResource}
    (hr : r ∈ (listenerPlan s).servers) (n : String) :
    r.warnings.count (listenerTaken n) +
      (if (listenerPlan s).listeners.get? n = some r then 1 else 0) =
        (claimedListener s r).count n := by
  obtain ⟨i, hi⟩ := List.mem_iff_getElem?.1 hr
  have hbuilt := hi
  rw [getElem?_servers, Option.map_eq_some_iff] at hbuilt
  obtain ⟨ts, hts, rfl⟩ := hbuilt
  have hlost : (((listenerContest s).lost i).map listenerTaken).count (listenerTaken n) =
      ((listenerContest s).lost i).count n :=
    List.count_map_of_injective _ _ listenerTaken_injective n
  rw [hlost]
  exact count_lost_add_holding (nodup_servers hs) (getElem?_listeningResources.2 ⟨ts, hts, rfl⟩) hi n

end Listeners

/-! ## 3. Who asks for what -/

namespace Store

/-- The object is taken on and wants the host: an ingress that is not a minion has a rule for it, a
virtual server or, with passthrough, a transport server on the built-in listener has it as its
host. -/
inductive AsksForHost (passthrough : Bool) (s : Store) (host : String) : Object → Prop
  | ingress (key : String) (i : Ingress) (h : s.ingresses.get? key = some i)
      (hmain : i.isMinion = false) (hhost : host ∈ i.hosts) :
      AsksForHost passthrough s host (.ingress i)
  | virtualServer (key : String) (vs : VirtualServer) (h : s.virtualServers.get? key = some vs)
      (hhost : vs.spec.host = host) : AsksForHost passthrough s host (.virtualServer vs)
  | transportServer (key : String) (ts : TransportServer)
      (h : s.transportServers.get? key = some ts) (hpass : ts.spec.listener.isPassthrough = true)
      (hon : passthrough = true) (hhost : ts.spec.host = host) :
      AsksForHost passthrough s host (.transportServer ts)

/-- The transport server is taken on and asks for the listener, which is declared with the protocol
that it asks for. A listener of the same name and another protocol is not the one it means. -/
structure AsksForListener (s : Store) (listener : String) (ts : TransportServer) : Prop where
  stored : ∃ key, s.transportServers.get? key = some ts
  named : ts.spec.listener.name = listener
  declared : ∃ g, s.globalConfiguration = some g ∧ ∃ l ∈ g.spec.listeners,
    l.name = listener ∧ l.protocol = ts.spec.listener.protocol

/-- The resources that the plans of a store come to, those that have nothing among them. -/
def built (a : Admission) (passthrough : Bool) (s : Store) : List Resource :=
  (hostPlan a passthrough s).resources ++ (listenerPlan s).servers.map .transportServer

end Store

section Asking

variable {a : Admission} {passthrough : Bool} {s : Store}

/-- What is asked for is a matter of the object. -/
theorem Resource.hosts_eq_of_object_eq {r q : Resource} (h : r.object = q.object) :
    r.hosts = q.hosts := by
  cases r <;> cases q <;> simp_all [object, hosts]

/-- Who asks for a host is the object of a claimant that wants it. There is one constructor for each
kind of claimant. -/
theorem asksForHost_iff (a : Admission) {h : String} {o : Object} :
    s.AsksForHost passthrough h o ↔
      ∃ x, Claimant a passthrough s x ∧ h ∈ x.hosts ∧ x.object = o := by
  constructor
  · rintro (⟨key, i, hi, hmain, hhost⟩ | ⟨key, vs, hvs, rfl⟩ | ⟨key, ts, hts, hpass, hon, rfl⟩)
    · exact ⟨_, .ingress key i hi hmain, by simpa [Resource.hosts] using hhost,
        by simp [Resource.object]⟩
    · exact ⟨_, .virtualServer key vs hvs, List.mem_singleton.2 rfl, rfl⟩
    · exact ⟨_, .transportServer key ts hts hpass hon, List.mem_singleton.2 rfl, rfl⟩
  · rintro ⟨x, hx, hwants, rfl⟩
    rcases hx with ⟨key, i, hi, hmain⟩ | ⟨key, vs, hvs⟩ | ⟨key, ts, hts, hpass, hon⟩
    · rw [Resource.object, ingressResource_ingress]
      exact .ingress key i hi hmain (by simpa [Resource.hosts] using hwants)
    · exact .virtualServer key vs hvs (List.mem_singleton.1 hwants).symm
    · exact .transportServer key ts hts hpass hon (List.mem_singleton.1 hwants).symm

/-- What a resource of the plan asks for is what its object asks for. -/
theorem asksForHost_object_iff {r : Resource} (hr : r ∈ (hostPlan a passthrough s).resources)
    {h : String} : s.AsksForHost passthrough h r.object ↔ h ∈ r.hosts := by
  obtain ⟨i, hi⟩ := List.mem_iff_getElem?.1 hr
  obtain ⟨x, hx, -, rfl⟩ := exists_claimant hi
  rw [Resource.object_decided, Resource.hosts_decided, asksForHost_iff a]
  constructor
  · rintro ⟨y, -, hwants, hobject⟩
    rw [← Resource.hosts_eq_of_object_eq hobject]
    exact hwants
  · intro hwants
    exact ⟨x, hx, hwants, rfl⟩

/-- What is built comes from the plan of the hosts or from that of the listeners. -/
theorem mem_built_iff {r : Resource} :
    r ∈ s.built a passthrough ↔ r ∈ (hostPlan a passthrough s).resources ∨
      ∃ t ∈ (listenerPlan s).servers, r = .transportServer t := by
  rw [Store.built, List.mem_append, List.mem_map]
  simp only [eq_comm]

theorem ingress_mem_built_iff {r : IngressResource} :
    Resource.ingress r ∈ s.built a passthrough ↔
      Resource.ingress r ∈ (hostPlan a passthrough s).resources := by
  rw [mem_built_iff]
  simp

theorem virtualServer_mem_built_iff {r : VirtualServerResource} :
    Resource.virtualServer r ∈ s.built a passthrough ↔
      Resource.virtualServer r ∈ (hostPlan a passthrough s).resources := by
  rw [mem_built_iff]
  simp

/-- A transport server of the plan of the hosts asks for the built-in listener, and is told about
hosts only. -/
theorem of_transportServer_mem_resources {t : TransportServerResource}
    (ht : Resource.transportServer t ∈ (hostPlan a passthrough s).resources) :
    ∃ key, s.transportServers.get? key = some t.server ∧
      t.server.spec.listener.isPassthrough = true ∧ passthrough = true ∧ t.port = 0 ∧
      ∃ lost : List String, t.warnings = lost.map hostTaken := by
  obtain ⟨i, hi⟩ := List.mem_iff_getElem?.1 ht
  obtain ⟨x, hx, -, hdecided⟩ := exists_claimant hi
  rcases hx with ⟨key, j, hj, hmain⟩ | ⟨key, vs, hvs⟩ | ⟨key, ts, hts, hpass, hon⟩
  · cases hdecided
  · cases hdecided
  · obtain rfl := Resource.transportServer.inj hdecided
    exact ⟨key, hts, hpass, hon, rfl, _, List.nil_append _⟩

/-- A transport server of the plan of the listeners has the port that is declared, and is told about
listeners only. -/
theorem of_mem_servers {t : TransportServerResource} (ht : t ∈ (listenerPlan s).servers) :
    t.server ∈ s.listeningServers ∧ t.port = (listeningResource s t.server).port ∧
      ∃ lost : List String, t.warnings = lost.map listenerTaken := by
  obtain ⟨i, hi⟩ := List.mem_iff_getElem?.1 ht
  rw [getElem?_servers, Option.map_eq_some_iff] at hi
  obtain ⟨ts, hts, rfl⟩ := hi
  exact ⟨List.mem_of_getElem? hts, rfl, _, rfl⟩

/-- Every transport server is built: it contests hosts when it asks for the built-in listener, and
listeners when it does not. -/
theorem exists_built_transportServer (hs : s.Sound) {key : String} {ts : TransportServer}
    (hts : s.transportServers.get? key = some ts)
    (hon : ts.spec.listener.isPassthrough = true → passthrough = true) :
    ∃ t, Resource.transportServer t ∈ s.built a passthrough ∧ t.server = ts := by
  -- By what it listens on: with TLS passthrough it claims a host, otherwise a listener.
  by_cases hpass : ts.spec.listener.isPassthrough = true
  · have hx : Claimant a passthrough s (.transportServer ⟨ts, 0, []⟩) :=
      .transportServer key ts hts hpass (hon hpass)
    obtain ⟨r, hr, -, hobject⟩ := exists_resource hx
    cases r with
    | transportServer t =>
      exact ⟨t, mem_built_iff.2 (.inl hr), Object.transportServer.inj hobject⟩
    | ingress r => cases hobject
    | virtualServer r => cases hobject
  · have hlistening : ts ∈ s.listeningServers :=
      mem_listeningServers_iff.2 ⟨⟨key, hts⟩, fun hprotocol =>
        hpass ((hs.passthrough_iff key ts hts).2 hprotocol)⟩
    rw [← map_server_servers] at hlistening
    obtain ⟨t, ht, hserver⟩ := List.mem_map.1 hlistening
    exact ⟨t, mem_built_iff.2 (.inr ⟨t, ht, rfl⟩), hserver⟩

/-! ## 4. What is told -/

/-- What is told about hosts and about listeners differs in the first letter. -/
theorem hostTaken_ne_listenerTaken (h n : String) : hostTaken h ≠ listenerTaken n := by
  intro heq
  have hhead := congrArg (fun text => text.toList.head?) heq
  simp [hostTaken, listenerTaken] at hhead

/-- What is wanted once is had or told once to be taken; of what is not wanted, nothing is told.
This turns the sums of the contests into what is said of a single resource. -/
theorem told_of_add_eq {wants held : Prop} [Decidable wants] [Decidable held] {told : Nat}
    (h : told + (if held then 1 else 0) = if wants then 1 else 0) :
    (wants → told = if held then 0 else 1) ∧ (¬wants → told = 0) := by
  constructor
  · intro hwants
    rw [if_pos hwants] at h
    split_ifs at h ⊢ <;> omega
  · intro hnot
    rw [if_neg hnot] at h
    omega

/-- A resource asks for no host twice when no ingress does. The other kinds have one host at
most. -/
theorem nodup_hosts_of_mem_resources
    (hnodup : ∀ key i, s.ingresses.get? key = some i → i.hosts.Nodup) {r : Resource}
    (hr : r ∈ (hostPlan a passthrough s).resources) : r.hosts.Nodup := by
  obtain ⟨i, hi⟩ := List.mem_iff_getElem?.1 hr
  obtain ⟨x, hx, -, rfl⟩ := exists_claimant hi
  rw [Resource.hosts_decided]
  rcases hx with ⟨key, j, hj, hmain⟩ | ⟨key, vs, hvs⟩ | ⟨key, ts, hts, hpass, hon⟩
  · simpa [Resource.hosts] using hnodup key j hj
  · exact List.nodup_singleton _
  · exact List.nodup_singleton _

/-- A built resource has a host that it asks for, or is told once that it is taken; about other
hosts it is told nothing. A transport server on a listener is built as well, and is told about no
host. -/
theorem count_hostTaken_of_built (hs : s.Sound)
    (hnodup : ∀ key i, s.ingresses.get? key = some i → i.hosts.Nodup) {r : Resource}
    (hr : r ∈ s.built a passthrough) (h : String) :
    (s.AsksForHost passthrough h r.object → r.warnings.count (hostTaken h) =
      if (hostPlan a passthrough s).hosts.get? h = some r then 0 else 1) ∧
    (¬s.AsksForHost passthrough h r.object → r.warnings.count (hostTaken h) = 0) := by
  rcases mem_built_iff.1 hr with hplan | ⟨t, ht, rfl⟩
  · have hcount := count_hostTaken hs hplan h
    rw [(nodup_hosts_of_mem_resources hnodup hplan).count] at hcount
    rw [asksForHost_object_iff hplan]
    exact told_of_add_eq hcount
  · -- it is bound to a listener or to nothing, and told about listeners only
    have hpass := not_passthrough_of_servers hs ht
    obtain ⟨-, -, lost, hwarnings⟩ := of_mem_servers ht
    refine ⟨fun hasks => ?_, fun _ => ?_⟩
    · cases hasks with
      | transportServer key ts hts hpass' hon hhost =>
        rw [hpass] at hpass'
        cases hpass'
    · rw [List.count_eq_zero, Resource.warnings, hwarnings, List.mem_map]
      rintro ⟨n, -, heq⟩
      exact hostTaken_ne_listenerTaken h n heq.symm

/-! ## 5. Declared listeners -/

/-- A listener that is found is one that the global configuration declares under that name and
protocol. -/
theorem declaredListener?_eq_some {asked : ListenerRef} {l : Listener}
    (h : s.declaredListener? asked = some l) :
    ∃ g, s.globalConfiguration = some g ∧ l ∈ g.spec.listeners ∧ l.name = asked.name ∧
      l.protocol = asked.protocol := by
  obtain ⟨g, hg, hfind⟩ := Option.bind_eq_some_iff.1 h
  have hmatches := List.find?_some hfind
  rw [Bool.and_eq_true, beq_iff_eq, beq_iff_eq] at hmatches
  exact ⟨g, hg, List.mem_of_find?_eq_some hfind, hmatches⟩

/-- One is found exactly when there is one with the name and the protocol. Several may have the
name, as long as nothing is asked of the global configuration; the first that fits is taken. -/
theorem declaredListener?_isSome_iff {asked : ListenerRef} :
    (s.declaredListener? asked).isSome ↔
      ∃ g, s.globalConfiguration = some g ∧ ∃ l ∈ g.spec.listeners,
        l.name = asked.name ∧ l.protocol = asked.protocol := by
  rw [Option.isSome_iff_exists]
  constructor
  · rintro ⟨l, hl⟩
    obtain ⟨g, hg, hmem, hmatches⟩ := declaredListener?_eq_some hl
    exact ⟨g, hg, l, hmem, hmatches⟩
  · rintro ⟨g, hg, l, hmem, hmatches⟩
    have hfound : (g.spec.listeners.find? fun l =>
        l.name == asked.name && l.protocol == asked.protocol).isSome :=
      List.find?_isSome.2 ⟨l, hmem, by simp [hmatches]⟩
    rw [Store.declaredListener?, hg]
    exact Option.isSome_iff_exists.1 hfound

section Declared

variable {f : Features}
  (hg : ∀ g, s.globalConfiguration = some g → Validation.globalConfigurationErrors f g = [])

include hg

/-- A transport server that asks for a declared listener claims it, and no other one does. In this
section the global configuration has no errors, so it declares nothing with the protocol of the
built-in listener. -/
theorem asksForListener_iff {n : String} {ts : TransportServer} :
    s.AsksForListener n ts ↔
      ts ∈ s.listeningServers ∧ n ∈ claimedListener s (listeningResource s ts) := by
  have hclaims : n ∈ claimedListener s (listeningResource s ts) ↔
      ts.spec.listener.name = n ∧ (s.declaredListener? ts.spec.listener).isSome :=
    mem_claimedListener_iff
  rw [hclaims, declaredListener?_isSome_iff, mem_listeningServers_iff]
  constructor
  · rintro ⟨hstored, rfl, g, hgc, l, hl, hmatches⟩
    -- the built-in listener is not declared
    refine ⟨⟨hstored, ?_⟩, rfl, g, hgc, l, hl, hmatches⟩
    rw [← hmatches.2]
    exact Validation.protocol_of_globalConfigurationErrors (hg g hgc) hl
  · rintro ⟨⟨hstored, -⟩, rfl, hdeclared⟩
    exact ⟨hstored, rfl, hdeclared⟩

/-- A transport server that asks for a declared listener has its port. The protocol need not be
given again, since in a global configuration without errors the names of the listeners differ. -/
theorem port_of_asksForListener {t : TransportServerResource} (ht : t ∈ (listenerPlan s).servers)
    {n : String} (hasks : s.AsksForListener n t.server) {g : GlobalConfiguration}
    (hgc : s.globalConfiguration = some g) {l : Listener} (hl : l ∈ g.spec.listeners)
    (hname : l.name = n) : t.port = l.port.val := by
  obtain ⟨-, hport, -⟩ := of_mem_servers ht
  obtain ⟨found, hfound⟩ := Option.isSome_iff_exists.1
    (mem_claimedListener_iff.1 ((asksForListener_iff hg).1 hasks).2).2
  obtain ⟨g', hgc', hmem, hfoundName, -⟩ := declaredListener?_eq_some hfound
  obtain rfl := Option.some.inj (hgc.symm.trans hgc')
  -- the names of declared listeners differ
  have hsame : l = found :=
    List.inj_on_of_nodup_map (Validation.globalConfigurationErrors_eq_nil_iff.1 (hg g hgc)).names hl
      hmem (by rw [hname, hfoundName]; exact hasks.named.symm)
  have hfound' : s.declaredListener? t.server.spec.listener = some found := hfound
  rw [hport, listeningResource, hfound', hsame]
  rfl

/-- Without a declared listener there is no port. -/
theorem port_of_not_asksForListener {t : TransportServerResource}
    (ht : t ∈ (listenerPlan s).servers)
    (hnot : ∀ n, ¬s.AsksForListener n t.server) : t.port = 0 := by
  obtain ⟨hlistening, hport, -⟩ := of_mem_servers ht
  have hnone : s.declaredListener? t.server.spec.listener = none := by
    by_contra hsome
    refine hnot t.server.spec.listener.name ((asksForListener_iff hg).2 ⟨hlistening, ?_⟩)
    exact mem_claimedListener_iff.2 ⟨rfl, Option.isSome_iff_ne_none.2 hsome⟩
  rw [hport, listeningResource, hnone]
  rfl

/-- A built transport server is told once that the listener it asks for is taken, unless it has it;
about other listeners it is told nothing. One that contests hosts is built as well, and is told
about hosts only. -/
theorem count_listenerTaken_of_built (hs : s.Sound) {t : TransportServerResource}
    (ht : Resource.transportServer t ∈ s.built a passthrough) (n : String) :
    (s.AsksForListener n t.server → t.warnings.count (listenerTaken n) =
      if (listenerPlan s).listeners.get? n = some t then 0 else 1) ∧
    (¬s.AsksForListener n t.server → t.warnings.count (listenerTaken n) = 0) := by
  rcases mem_built_iff.1 ht with hplan | ⟨t', ht', heq⟩
  · -- it asks for the built-in listener, and is told about hosts only
    obtain ⟨key, hkey, hpass, -, -, lost, hwarnings⟩ := of_transportServer_mem_resources hplan
    refine ⟨fun hasks => ?_, fun _ => ?_⟩
    · have hlistening := ((asksForListener_iff hg).1 hasks).1
      exact absurd ((hs.passthrough_iff key _ hkey).1 hpass)
        (mem_listeningServers_iff.1 hlistening).2
    · rw [List.count_eq_zero, hwarnings, List.mem_map]
      rintro ⟨h, -, heq⟩
      exact hostTaken_ne_listenerTaken h n heq
  · obtain rfl := Resource.transportServer.inj heq
    have hcount := count_listenerTaken hs ht' n
    have hclaims : n ∈ claimedListener s t ↔ s.AsksForListener n t.server := by
      rw [asksForListener_iff hg]
      exact ⟨fun hwants => ⟨(of_mem_servers ht').1, hwants⟩, And.right⟩
    have hnodup : (claimedListener s t).Nodup := by
      rw [claimedListener]
      cases s.declaredListener? t.server.spec.listener with
      | none => exact List.nodup_nil
      | some l => exact List.nodup_singleton _
    rw [hnodup.count] at hcount
    rw [← hclaims]
    exact told_of_add_eq hcount

end Declared

end Asking

end Gatehouse
