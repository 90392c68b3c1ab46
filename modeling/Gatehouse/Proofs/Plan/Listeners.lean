import Gatehouse.Plan.Listeners
import Gatehouse.Proofs.Contest
import Gatehouse.Proofs.Plan.Hosts

/-!
The plan of the listeners: the table of listeners and the transport servers tell the same.

A transport server claims the listener that it asks for, when one is declared under that name and
protocol, so it can be bound to no other (`name_of_listeners`). None of them asks for the built-in
listener, which is what keeps a transport server from holding a host and a listener at once.
-/

set_option autoImplicit false

namespace Gatehouse

section ListenerPlan

variable {s : Store}

/-! ## 1. The transport servers of the plan -/

/-- The transport servers that contest listeners are those with another protocol than the built-in
listener. -/
theorem mem_listeningServers_iff {ts : TransportServer} :
    ts ∈ s.listeningServers ↔ (∃ key, s.transportServers.get? key = some ts) ∧
      ts.spec.listener.protocol ≠ ListenerRef.passthroughProtocol := by
  rw [Store.listeningServers, List.mem_filter, Table.mem_values_iff, bne_iff_ne]

/-- The contest of the transport servers of a store for the declared listeners. -/
abbrev listenerContest (s : Store) : Standing :=
  contest (·.server.metadata) (claimedListener s) (s.listeningServers.map (listeningResource s))

/-- A transport server of the plan is one that asks for a listener, with the port of the declared
listener and the warnings of the contest. -/
theorem getElem?_servers (i : Nat) :
    (listenerPlan s).servers[i]? = (s.listeningServers[i]?).map fun ts =>
      { listeningResource s ts with
        warnings := ((listenerContest s).lost i).map listenerTaken } := by
  simp [listenerPlan, List.getElem?_map, List.getElem?_zipIdx, Option.map_map, Function.comp_def]

/-- So a resource of the plan is about one of them and has the port that was read for it. -/
theorem exists_listeningServer {i : Nat} {r : TransportServerResource}
    (hr : (listenerPlan s).servers[i]? = some r) :
    ∃ ts, s.listeningServers[i]? = some ts ∧ r.server = ts ∧
      r.port = (listeningResource s ts).port := by
  rw [getElem?_servers, Option.map_eq_some_iff] at hr
  obtain ⟨ts, hts, rfl⟩ := hr
  exact ⟨ts, hts, rfl, rfl⟩

/-- In particular its object is one of them. -/
theorem mem_listeningServers_of_mem {r : TransportServerResource}
    (hr : r ∈ (listenerPlan s).servers) : r.server ∈ s.listeningServers := by
  obtain ⟨i, hi⟩ := List.mem_iff_getElem?.1 hr
  obtain ⟨ts, hts, rfl, -⟩ := exists_listeningServer hi
  exact List.mem_of_getElem? hts

/-- A transport server of the plan is stored, and has another protocol than the built-in
listener. -/
theorem stored_of_mem_servers {r : TransportServerResource} (hr : r ∈ (listenerPlan s).servers) :
    (∃ key, s.transportServers.get? key = some r.server) ∧
      r.server.spec.listener.protocol ≠ ListenerRef.passthroughProtocol :=
  mem_listeningServers_iff.1 (mem_listeningServers_of_mem hr)

/-- The plan has every such transport server, in their order. -/
theorem map_server_servers :
    (listenerPlan s).servers.map (·.server) = s.listeningServers := by
  refine List.ext_getElem? fun i => ?_
  rw [List.getElem?_map, getElem?_servers, Option.map_map]
  exact Option.map_id'

theorem nodup_keys_servers (hs : s.Sound) :
    ((listenerPlan s).servers.map TransportServerResource.key).Nodup := by
  have hkeys : (s.listeningServers.map fun ts => ts.metadata.key).Nodup :=
    (Table.nodup_map_values hs.transportServer_key).sublist (List.filter_sublist.map _)
  rw [← map_server_servers, List.map_map] at hkeys
  exact nodup_joinKey .transportServer hkeys

/-! ## 2. The table of listeners -/

theorem listeners_get?_iff {n : String} {r : TransportServerResource} :
    (listenerPlan s).listeners.get? n = some r ↔
      ∃ i, (listenerContest s).isHolder i n = true ∧ (listenerPlan s).servers[i]? = some r :=
  Standing.get?_holding_iff

theorem mem_servers_of_listeners {n : String} {r : TransportServerResource}
    (hr : (listenerPlan s).listeners.get? n = some r) : r ∈ (listenerPlan s).servers := by
  obtain ⟨i, -, hi⟩ := listeners_get?_iff.1 hr
  exact List.mem_of_getElem? hi

/-- The listener that is claimed is the one that is asked for. Nothing is claimed when no listener
of that name and protocol is declared. -/
theorem mem_claimedListener_iff {r : TransportServerResource} {n : String} :
    n ∈ claimedListener s r ↔
      r.server.spec.listener.name = n ∧ (s.declaredListener? r.server.spec.listener).isSome := by
  rw [claimedListener, Option.mem_toList, Option.map_eq_some_iff, Option.isSome_iff_exists]
  -- listeners are looked up by their name
  have hname : ∀ l, s.declaredListener? r.server.spec.listener = some l →
      l.name = r.server.spec.listener.name := by
    intro l hl
    obtain ⟨g, -, hfind⟩ := Option.bind_eq_some_iff.1 hl
    have := List.find?_some hfind
    simp only [Bool.and_eq_true, beq_iff_eq] at this
    exact this.1
  constructor
  · rintro ⟨l, hl, rfl⟩
    exact ⟨(hname l hl).symm, l, hl⟩
  · rintro ⟨rfl, l, hl⟩
    exact ⟨l, hl, hname l hl⟩

/-- A transport server is bound to the listener that it asks for, or to none. -/
theorem name_of_listeners {n : String} {r : TransportServerResource}
    (hr : (listenerPlan s).listeners.get? n = some r) : r.server.spec.listener.name = n := by
  obtain ⟨i, hi, hri⟩ := listeners_get?_iff.1 hr
  obtain ⟨ts, hts, hserver, -⟩ := exists_listeningServer hri
  obtain ⟨x, hx, hwants⟩ := wants_of_isHolder hi
  rw [List.getElem?_map, hts] at hx
  obtain rfl := Option.some.inj hx
  -- it claims nothing but the listener that it asks for
  rw [hserver]
  exact (mem_claimedListener_iff.1 hwants).1

/-- None of them asks for the built-in listener, since in a sound store that listener is asked for
exactly by those that have its protocol. -/
theorem not_passthrough_of_servers (hs : s.Sound) {r : TransportServerResource}
    (hr : r ∈ (listenerPlan s).servers) : r.server.spec.listener.isPassthrough = false := by
  obtain ⟨⟨key, hkey⟩, hprotocol⟩ := stored_of_mem_servers hr
  by_contra hpass
  exact hprotocol ((hs.passthrough_iff key _ hkey).1 (by simpa using hpass))

/-- A transport server that is bound to a listener serves it, and nothing else. -/
theorem serves_iff_of_listeners (hs : s.Sound) {n : String} {r : TransportServerResource}
    (hr : (listenerPlan s).listeners.get? n = some r) {slot : Slot} :
    (Resource.transportServer r).serves slot = true ↔ slot = .listener n := by
  have hpass := not_passthrough_of_servers hs (mem_servers_of_listeners hr)
  have hname := name_of_listeners hr
  rcases slot with h | m
  · simp [Resource.serves, hpass]
  · simp [Resource.serves, hpass, hname, eq_comm]

theorem server_eq_of_key_eq (hs : s.Sound) {r q : TransportServerResource}
    (hr : r ∈ (listenerPlan s).servers) (hq : q ∈ (listenerPlan s).servers) (hkey : r.key = q.key) :
    r = q :=
  List.inj_on_of_nodup_map (nodup_keys_servers hs) hr hq hkey

/-- No resource holds a host and a listener, since the transport servers among the claimants of
hosts are those that ask for the built-in listener. -/
theorem key_ne_of_servers (hs : s.Sound) {a : Admission} {passthrough : Bool}
    {r : Resource} {q : TransportServerResource}
    (hr : r ∈ (hostPlan a passthrough s).resources) (hq : q ∈ (listenerPlan s).servers) :
    r.key ≠ q.key := by
  intro hkey
  obtain ⟨i, hi⟩ := List.mem_iff_getElem?.1 hr
  obtain ⟨x, hx, -, rfl⟩ := exists_claimant hi
  obtain ⟨hkind, hmeta⟩ := Kind.joinKey_inj hkey
  rcases hx with ⟨key, j, hj, hmain⟩ | ⟨key, vs, hvs⟩ | ⟨key, ts, hts, hpass, hon⟩
  · cases hkind
  · cases hkind
  · -- both would be the same transport server
    obtain ⟨⟨key', hkey'⟩, -⟩ := stored_of_mem_servers hq
    have hsame : ts = q.server := Table.eq_of_key_eq hs.transportServer_key hts hkey' (by
      simpa [Resource.decided, Resource.metadata] using hmeta)
    rw [hsame, not_passthrough_of_servers hs hq] at hpass
    cases hpass

end ListenerPlan

end Gatehouse
