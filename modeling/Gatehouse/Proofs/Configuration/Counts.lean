import Gatehouse.Proofs.Configuration.Lookups
import Gatehouse.Proofs.Plan.Ownership

/-!
The numbers of transport servers are those of what is served.

The counts are taken of slots: of the hosts and of the listeners that transport servers have, with
those over UDP as the rest of the listeners. What is served lists every resource once, whatever it
has. The two agree because a transport server has one slot (`nodup_keys_transport`), so that the
transport servers that are served are the holders of the slots in another order
(`perm_transportServers`), and because the checks leave no other protocols: on a host that of the
built-in listener (`of_hosting`), on a listener TCP or UDP (`protocol_of_listening`). Without these
checks a transport server with an unknown protocol would be counted as one over UDP.
-/

set_option autoImplicit false

namespace Gatehouse.Configuration

/-- The resource is a transport server that asks for a listener with the protocol. -/
def listensBy (protocol : String) : Resource → Bool
  | .transportServer t => t.server.spec.listener.protocol == protocol
  | _ => false

theorem eq_of_listensBy {protocol other : String} {r : Resource}
    (h : listensBy protocol r = true) (hother : listensBy other r = true) : protocol = other := by
  cases r with
  | transportServer t => exact (beq_iff_eq.1 h).symm.trans (beq_iff_eq.1 hother)
  | _ => cases h

/-! ## 1. Slots and what is served -/

section Slots

variable {c : Configuration}

/-- The hosts that transport servers have, as their holders. -/
abbrev hosting (c : Configuration) : List Resource := c.hosts.values.filter isTransport

/-- The listeners, as their holders. -/
abbrev listening (c : Configuration) : List Resource := (asResources c.listeners).values

/-- What is served is a table by keys, so no key is there twice. -/
theorem nodup_keys_served : (c.resources.map Resource.key).Nodup :=
  Table.nodup_map_values fun _ _ hget => (of_get?_servedBy hget).2

/-- No transport server has two slots. Otherwise the slots would be more than the transport
servers. -/
theorem nodup_slots (hc : Holding c.holders) : (c.hosting ++ c.listening).Nodup := by
  have hhosting : c.hosting.Nodup := by
    refine List.Nodup.of_map Resource.key ?_
    exact nodup_keys_transport hc .host (fun _ _ => Slot.host.inj) fun _ _ hget => hget
  have hlistening : c.listening.Nodup := List.Nodup.of_map Resource.key (nodup_keys_listening hc)
  refine List.nodup_append.2 ⟨hhosting, hlistening, ?_⟩
  intro r hr q hq heq
  obtain ⟨h, hh⟩ := mem_hosting_iff.1 (List.mem_filter.1 hr).1
  obtain ⟨n, hn⟩ := mem_listening_iff.1 hq
  rw [← heq] at hn
  -- nothing serves a host and a listener
  cases Resource.isHost_eq_of_serves (hc.serves _ _ hh) (hc.serves _ _ hn)

/-- The transport servers that are served are those that have a slot. Both lists have no
repetitions, so it is enough that they have the same members. -/
theorem perm_transportServers (hc : Holding c.holders) :
    (c.resources.filter isTransport).Perm (c.hosting ++ c.listening) := by
  have hserved : (c.resources.filter isTransport).Nodup :=
    (List.Nodup.of_map _ nodup_keys_served).filter _
  refine (List.perm_ext_iff_of_nodup hserved (nodup_slots hc)).2 fun r => ?_
  rw [hosting, listening, ← filter_isTransport_listening, List.mem_append, List.mem_filter,
    List.mem_filter, List.mem_filter, ← or_and_right, mem_resources_iff hc, mem_hosting_iff,
    mem_listening_iff, Slot.exists_iff]

/-- So they can be counted slot by slot. -/
theorem countP_isTransport (hc : Holding c.holders) :
    c.resources.countP isTransport = c.hosting.length + c.listening.length := by
  rw [List.countP_eq_length_filter, (perm_transportServers hc).length_eq, List.length_append]

/-- Served resources that listen by a protocol are counted slot by slot. -/
theorem countP_listensBy (hc : Holding c.holders) (protocol : String) :
    c.resources.countP (listensBy protocol) =
      c.hosting.countP (listensBy protocol) + c.listening.countP (listensBy protocol) := by
  rw [← List.countP_append, ← (perm_transportServers hc).countP_eq, List.countP_filter]
  refine List.countP_congr fun r _ => ?_
  cases r <;> simp [listensBy, isTransport]

end Slots

/-! ## 2. Protocols -/

section Protocols

variable {className : String} {f : Features} {c : Configuration} (hc : c.Settled)
  (ha : c.store.Admitted (.checked className f))

include hc ha

/-- A transport server has a host only with passthrough, and by the protocol of the built-in
listener. -/
theorem of_hosting {r : Resource} (hr : r ∈ c.hosting) :
    c.passthrough = true ∧ listensBy ListenerRef.passthroughProtocol r = true := by
  obtain ⟨hheld, htransport⟩ := List.mem_filter.1 hr
  obtain ⟨h, hh⟩ := Table.mem_values_iff.1 hheld
  rw [hc.hosts_eq] at hh
  cases r with
  | transportServer t =>
    obtain ⟨key, hkey, hpass, hon, -⟩ :=
      of_transportServer_mem_resources (mem_resources_of_hosts hh)
    have hprotocol := (ha.sound.passthrough_iff key _ hkey).1 hpass
    exact ⟨hon, beq_iff_eq.2 hprotocol⟩
  | _ => cases htransport

/-- A transport server is bound to a listener by TCP or by UDP. A global configuration with any
other protocol is refused, and one that is not declared is bound to nothing. -/
theorem protocol_of_listening {r : Resource} (hr : r ∈ c.listening) :
    listensBy "TCP" r = true ∨ listensBy "UDP" r = true := by
  obtain ⟨n, hn⟩ := mem_listening_iff.1 hr
  obtain ⟨t, ht, rfl⟩ := holders_listener_iff.1 hn
  rw [hc.listeners_eq] at ht
  have hmem := mem_servers_of_listeners ht
  obtain ⟨⟨key, hkey⟩, -⟩ := stored_of_mem_servers hmem
  have herrors := Store.listenerRefErrors_eq_nil (ha.transportServer key _ hkey).2.2
  -- it does not look like one for the built-in listener, so its protocol is checked
  rw [Validation.listenerRefErrors, not_passthrough_of_servers ha.sound hmem,
    if_neg Bool.false_ne_true, List.append_eq_nil_iff,
    Validation.protocolErrors_eq_nil_iff] at herrors
  exact herrors.2.imp beq_iff_eq.2 beq_iff_eq.2

/-- Without passthrough no transport server has a host. -/
theorem hosting_eq_nil (hoff : c.passthrough = false) : c.hosting = [] := by
  refine List.eq_nil_iff_forall_not_mem.2 fun r hr => ?_
  rw [(of_hosting hc ha hr).1] at hoff
  cases hoff

/-- What is bound to a listener and does not listen by TCP listens by UDP. The rest of the listeners
is therefore the number of those over UDP. -/
theorem countP_tcp_add_countP_udp :
    c.listening.countP (listensBy "TCP") + c.listening.countP (listensBy "UDP") =
      c.listening.length := by
  rw [List.length_eq_countP_add_countP (listensBy "TCP")]
  congr 1
  refine List.countP_congr fun r hr => ?_
  rw [decide_eq_true_iff]
  constructor
  · intro hudp htcp
    exact absurd (eq_of_listensBy hudp htcp) (by decide)
  · exact (protocol_of_listening hc ha hr).resolve_left

/-- The protocol of the built-in listener leads to hosts only. -/
theorem countP_resources_passthrough (hholding : Holding c.holders) :
    c.resources.countP (listensBy ListenerRef.passthroughProtocol) = c.hosting.length := by
  have hhosting : c.hosting.countP (listensBy ListenerRef.passthroughProtocol) =
      c.hosting.length := List.countP_eq_length.2 fun r hr => (of_hosting hc ha hr).2
  have hlistening : c.listening.countP (listensBy ListenerRef.passthroughProtocol) = 0 := by
    refine List.countP_eq_zero.2 fun r hr hby => ?_
    rcases protocol_of_listening hc ha hr with htcp | hudp
    · exact absurd (eq_of_listensBy hby htcp) (by decide)
    · exact absurd (eq_of_listensBy hby hudp) (by decide)
  rw [countP_listensBy hholding, hhosting, hlistening, Nat.add_zero]

/-- Every other protocol leads to listeners only. -/
theorem countP_resources_of_ne (hholding : Holding c.holders) {protocol : String}
    (hne : protocol ≠ ListenerRef.passthroughProtocol) :
    c.resources.countP (listensBy protocol) = c.listening.countP (listensBy protocol) := by
  have hhosting : c.hosting.countP (listensBy protocol) = 0 := by
    refine List.countP_eq_zero.2 fun r hr hby => hne ?_
    exact eq_of_listensBy hby (of_hosting hc ha hr).2
  rw [countP_listensBy hholding, hhosting, Nat.zero_add]

end Protocols

/-! ## 3. The counts -/

/-- The counts are taken of the slots. The number of those over UDP is what is left of the listeners
when those over TCP are taken away. -/
theorem transportCounts_of_slots {c : Configuration}
    (hoff : c.passthrough = false → c.hosting = []) :
    c.transportCounts =
      { passthrough := c.hosting.length
        tcp := c.listening.countP (listensBy "TCP")
        udp := c.listening.length - c.listening.countP (listensBy "TCP") } := by
  have hpassthrough : (if c.passthrough then c.hosting.length else 0) = c.hosting.length := by
    by_cases hon : c.passthrough
    · rw [if_pos hon]
    · rw [if_neg hon, hoff (by simpa using hon), List.length_nil]
  have hvalues : c.listening = c.listeners.values.map .transportServer := Table.values_map ..
  have htcp : c.listening.countP (listensBy "TCP") =
      (c.listeners.values.filter fun r => r.server.spec.listener.protocol == "TCP").length := by
    rw [hvalues, List.countP_map, List.countP_eq_length_filter]
    rfl
  rw [transportCounts, htcp, hpassthrough, hvalues, List.length_map]

/-- After any events, the transport servers that are counted are those that are served, by the
protocol with which they ask for their listener; and every transport server that is served is
counted. -/
theorem transportCounts_agree (className : String) (f : Features) (events : List Event) :
    let c := (fresh f (.checked className f)).run events
    c.transportCounts.passthrough =
        c.resources.countP (listensBy ListenerRef.passthroughProtocol) ∧
      c.transportCounts.tcp = c.resources.countP (listensBy "TCP") ∧
      c.transportCounts.udp = c.resources.countP (listensBy "UDP") ∧
      c.transportCounts.passthrough + c.transportCounts.tcp + c.transportCounts.udp =
        c.resources.countP isTransport := by
  intro c
  have hc : c.Settled := settled_run
  have ha : c.store.Admitted (.checked className f) := admitted_run
  have hholding : Holding c.holders := holding_run
  have hlength := countP_tcp_add_countP_udp hc ha
  rw [transportCounts_of_slots (hosting_eq_nil hc ha),
    countP_resources_passthrough hc ha hholding, countP_resources_of_ne hc ha hholding (by decide),
    countP_resources_of_ne hc ha hholding (by decide), countP_isTransport hholding]
  -- UDP is counted as what is left of the listeners, so no subtraction loses anything.
  refine ⟨rfl, rfl, ?_, ?_⟩
  · show c.listening.length - c.listening.countP (listensBy "TCP") = _
    omega
  · show c.hosting.length + c.listening.countP (listensBy "TCP") +
      (c.listening.length - c.listening.countP (listensBy "TCP")) = _
    omega

end Gatehouse.Configuration
