import Gatehouse.Proofs.Configuration.Copy
import Gatehouse.Proofs.Plan.Ownership

/-!
Who has which host and which listener after any events, and what the others are told.

A configuration is settled, so its tables are those of the plans of its store, and what holds of a
contest holds of them. The checks of the kinds add what a contest does not know. The hosts of an
ingress differ from each other, so it asks for a host once and is told once when it goes without.
The names and the ports of declared listeners differ, so no port is bound twice
(`eq_of_port_eq`); since all ports are read off the global configuration that there is now, that
is so right after any change of it.
-/

set_option autoImplicit false

namespace Gatehouse.Configuration

/-- The resources as they are built from the store, those that have nothing among them. -/
def built (c : Configuration) : List Resource := c.store.built c.admission c.passthrough

/-! ## 1. Hosts -/

/-- Who has a host, and what is said about that. The fields speak of the store and of the built
resources, never of the contest by which the hosts were given away. -/
structure HostOwnership (c : Configuration) (h : String) : Prop where
  /-- Someone has the host when someone asks for it. -/
  held_iff : (∃ r, c.hosts.get? h = some r) ↔ ∃ o, c.store.AsksForHost c.passthrough h o
  /-- Who has it asks for it. -/
  asks : ∀ r, c.hosts.get? h = some r → c.store.AsksForHost c.passthrough h r.object
  /-- Nobody who asks for it is senior to who has it. -/
  senior : ∀ r, c.hosts.get? h = some r → ∀ o, c.store.AsksForHost c.passthrough h o →
    o.metadata.wins r.metadata = false
  /-- Who has it is senior to everyone who asks for it and was created at another time or has
  another identifier. -/
  strict : ∀ r, c.hosts.get? h = some r → ∀ o, c.store.AsksForHost c.passthrough h o →
    (o.metadata.created, o.metadata.uid) ≠ (r.metadata.created, r.metadata.uid) →
    r.metadata.wins o.metadata = true
  /-- Who has it is a built resource, and so is everyone who asks for it. -/
  built_of_held : ∀ r, c.hosts.get? h = some r → r ∈ c.built
  built_of_asks : ∀ o, c.store.AsksForHost c.passthrough h o → ∃ r ∈ c.built, r.object = o
  /-- Who asks for it and does not have it is told so once. -/
  told : ∀ r ∈ c.built, c.store.AsksForHost c.passthrough h r.object → c.hosts.get? h ≠ some r →
    r.warnings.count (hostTaken h) = 1
  /-- Who has it, or does not ask for it, is told nothing. -/
  untold : ∀ r ∈ c.built,
    (c.store.AsksForHost c.passthrough h r.object → c.hosts.get? h = some r) →
    r.warnings.count (hostTaken h) = 0
  /-- An ingress has a mark for the host when it asks for it, and the mark says whether it has it. -/
  mark : ∀ i, .ingress i ∈ c.built → ∀ valid,
    i.validHosts.get? h = some valid ↔
      h ∈ i.ingress.hosts ∧ (valid = true ↔ c.hosts.get? h = some (.ingress i))

section Hosts

variable {c : Configuration} (hc : c.Settled) (hs : c.store.Sound)
  (hnodup : ∀ key i, c.store.ingresses.get? key = some i → i.hosts.Nodup)

include hc hs hnodup

/-- The parts are those of the contest for hosts, with the store in the place of the claimants. Each
field is one lemma about the plan, read through the fixpoint. -/
theorem hostOwnership (h : String) : HostOwnership c h := by
  have hhosts : c.hosts = (hostPlan c.admission c.passthrough c.store).hosts := hc.hosts_eq
  -- a claimant of the contest for everyone who asks
  have hclaimant : ∀ o, c.store.AsksForHost c.passthrough h o →
      ∃ x, Claimant c.admission c.passthrough c.store x ∧ h ∈ x.hosts ∧ x.object = o :=
    fun o => (asksForHost_iff c.admission).1
  have hmem : ∀ r, c.hosts.get? h = some r →
      r ∈ (hostPlan c.admission c.passthrough c.store).resources := fun r hr =>
    mem_resources_of_hosts (hhosts ▸ hr)
  have hsenior : ∀ r, c.hosts.get? h = some r → ∀ o, c.store.AsksForHost c.passthrough h o →
      o.metadata.wins r.metadata = false := by
    intro r hr o ho
    obtain ⟨x, hx, hwants, rfl⟩ := hclaimant o ho
    rw [Resource.metadata_object]
    exact not_wins_of_hosts (hhosts ▸ hr) hx hwants
  constructor
  case held_iff =>
    rw [hhosts, exists_hosts_iff]
    constructor
    · rintro ⟨x, hx, hwants⟩
      exact ⟨x.object, (asksForHost_iff c.admission).2 ⟨x, hx, hwants, rfl⟩⟩
    · rintro ⟨o, ho⟩
      obtain ⟨x, hx, hwants, -⟩ := hclaimant o ho
      exact ⟨x, hx, hwants⟩
  case asks =>
    intro r hr
    exact (asksForHost_object_iff (hmem r hr)).2 (mem_hosts_of_hosts (hhosts ▸ hr))
  case senior => exact hsenior
  case strict =>
    intro r hr o ho hne
    exact Meta.wins_of_not_wins (hsenior r hr o ho) hne
  case built_of_held =>
    intro r hr
    exact mem_built_iff.2 (.inl (hmem r hr))
  case built_of_asks =>
    intro o ho
    obtain ⟨x, hx, -, rfl⟩ := hclaimant o ho
    obtain ⟨r, hr, -, hobject⟩ := exists_resource hx
    exact ⟨r, mem_built_iff.2 (.inl hr), hobject⟩
  case told =>
    intro r hr hasks hnot
    rw [(count_hostTaken_of_built hs hnodup hr h).1 hasks, ← hhosts, if_neg hnot]
  case untold =>
    intro r hr hheld
    by_cases hasks : c.store.AsksForHost c.passthrough h r.object
    · rw [(count_hostTaken_of_built hs hnodup hr h).1 hasks, ← hhosts, if_pos (hheld hasks)]
    · exact (count_hostTaken_of_built hs hnodup hr h).2 hasks
  case mark =>
    intro i hi valid
    rw [hhosts]
    exact get?_validHosts_iff hs (ingress_mem_built_iff.1 hi)

end Hosts

/-- After any events, every host that an ingress other than a minion, a virtual server or, with
passthrough, a transport server on the built-in listener asks for is had by one of those that ask
for it, to whom no other one of them is senior. Each of the others is told so once, and nobody else
is told anything about the host; an ingress says of its hosts, and of no others, whether it has
them. -/
theorem host_ownership (className : String) (f : Features) (events : List Event) (h : String) :
    HostOwnership ((fresh f (.checked className f)).run events) h := by
  have hadmitted : ((fresh f (.checked className f)).run events).store.Admitted
      (.checked className f) := admitted_run
  exact hostOwnership settled_run sound_run (fun key i hi =>
    Validation.nodup_hosts_of_ingressErrors (hadmitted.ingress key i hi).2.2) h

/-! ## 2. Listeners -/

/-- Who is bound to a listener, and what is said about that. It has the fields of `HostOwnership`
that make sense for listeners, and the port besides; there are no marks, as a transport server asks
for one listener only. -/
structure ListenerOwnership (c : Configuration) (n : String) : Prop where
  /-- Someone is bound to the listener when it is declared and someone asks for it. -/
  held_iff : (∃ t, c.listeners.get? n = some t) ↔ ∃ ts, c.store.AsksForListener n ts
  /-- Who is bound to it asks for it. -/
  asks : ∀ t, c.listeners.get? n = some t → c.store.AsksForListener n t.server
  /-- Nobody who asks for it is senior to who is bound to it. -/
  senior : ∀ t, c.listeners.get? n = some t → ∀ ts, c.store.AsksForListener n ts →
    ts.metadata.wins t.server.metadata = false
  /-- The port is the one that is declared now. -/
  port : ∀ t, c.listeners.get? n = some t → ∀ g, c.store.globalConfiguration = some g →
    ∀ l ∈ g.spec.listeners, l.name = n → t.port = l.port.val
  /-- Who is bound to it is a built resource, and so is everyone who asks for it. -/
  built_of_held : ∀ t, c.listeners.get? n = some t → .transportServer t ∈ c.built
  built_of_asks : ∀ ts, c.store.AsksForListener n ts →
    ∃ t, .transportServer t ∈ c.built ∧ t.server = ts
  /-- Who asks for it and is not bound to it is told so once. -/
  told : ∀ t, .transportServer t ∈ c.built → c.store.AsksForListener n t.server →
    c.listeners.get? n ≠ some t → t.warnings.count (listenerTaken n) = 1
  /-- Who is bound to it, or does not ask for it, is told nothing. -/
  untold : ∀ t, .transportServer t ∈ c.built →
    (c.store.AsksForListener n t.server → c.listeners.get? n = some t) →
    t.warnings.count (listenerTaken n) = 0

section Listeners

variable {f : Features} {c : Configuration} (hc : c.Settled) (hs : c.store.Sound)
  (hg : ∀ g, c.store.globalConfiguration = some g → Validation.globalConfigurationErrors f g = [])

include hc hg

/-- Who is bound to a listener asks for it, since it is declared as it asks. -/
theorem asksForListener_of_listeners {n : String} {t : TransportServerResource}
    (ht : c.listeners.get? n = some t) : c.store.AsksForListener n t.server := by
  rw [hc.listeners_eq] at ht
  have hlistening := mem_listeningServers_of_mem (mem_servers_of_listeners ht)
  have hwants : n ∈ claimedListener c.store t := mem_claimedListener_of_listeners ht
  exact (asksForListener_iff hg).2 ⟨hlistening, hwants⟩

/-- Who is bound to a listener has the port of a declared listener of that name. -/
theorem exists_listener_of_listeners {n : String} {t : TransportServerResource}
    (ht : c.listeners.get? n = some t) :
    ∃ g, c.store.globalConfiguration = some g ∧
      ∃ l ∈ g.spec.listeners, l.name = n ∧ t.port = l.port.val := by
  have hasks := asksForListener_of_listeners hc hg ht
  obtain ⟨g, hgc, l, hl, hname, -⟩ := hasks.declared
  rw [hc.listeners_eq] at ht
  exact ⟨g, hgc, l, hl, hname,
    port_of_asksForListener hg (mem_servers_of_listeners ht) hasks hgc hl hname⟩

include hs

/-- The parts are those of the contest for listeners. There is a port to be accounted for in
addition, which comes from the declaration. -/
theorem listenerOwnership (n : String) : ListenerOwnership c n := by
  have hlisteners : c.listeners = (listenerPlan c.store).listeners := hc.listeners_eq
  have hmem : ∀ t, c.listeners.get? n = some t → t ∈ (listenerPlan c.store).servers :=
    fun t ht => mem_servers_of_listeners (hlisteners ▸ ht)
  have hasks : ∀ t, c.listeners.get? n = some t → c.store.AsksForListener n t.server :=
    fun t ht => asksForListener_of_listeners hc hg ht
  constructor
  case held_iff =>
    rw [hlisteners, exists_listeners_iff]
    constructor
    · rintro ⟨ts, hts, hwants⟩
      exact ⟨ts, (asksForListener_iff hg).2 ⟨hts, hwants⟩⟩
    · rintro ⟨ts, hasks⟩
      obtain ⟨hts, hwants⟩ := (asksForListener_iff hg).1 hasks
      exact ⟨ts, hts, hwants⟩
  case asks => exact hasks
  case senior =>
    intro t ht ts hts
    obtain ⟨hlistening, hwants⟩ := (asksForListener_iff hg).1 hts
    exact not_wins_of_listeners (hlisteners ▸ ht) hlistening hwants
  case port =>
    intro t ht g hgc l hl hname
    exact port_of_asksForListener hg (hmem t ht) (hasks t ht) hgc hl hname
  case built_of_held =>
    intro t ht
    exact mem_built_iff.2 (.inr ⟨t, hmem t ht, rfl⟩)
  case built_of_asks =>
    intro ts hts
    have hlistening := ((asksForListener_iff hg).1 hts).1
    rw [← map_server_servers] at hlistening
    obtain ⟨t, ht, hserver⟩ := List.mem_map.1 hlistening
    exact ⟨t, mem_built_iff.2 (.inr ⟨t, ht, rfl⟩), hserver⟩
  case told =>
    intro t ht hasks hnot
    -- A warning counts once for whoever asks and does not hold, and zero times otherwise.
    rw [(count_listenerTaken_of_built hg hs ht n).1 hasks, ← hlisteners, if_neg hnot]
  case untold =>
    intro t ht hheld
    by_cases hasks : c.store.AsksForListener n t.server
    · rw [(count_listenerTaken_of_built hg hs ht n).1 hasks, ← hlisteners, if_pos (hheld hasks)]
    · exact (count_listenerTaken_of_built hg hs ht n).2 hasks

omit hs in
/-- No port is bound twice. The ports are those of declared listeners, and of these no two have the
same. -/
theorem eq_of_port_eq {n m : String} {t u : TransportServerResource}
    (ht : c.listeners.get? n = some t) (hu : c.listeners.get? m = some u) (hport : t.port = u.port) :
    n = m := by
  obtain ⟨g, hgc, l, hl, rfl, htport⟩ := exists_listener_of_listeners hc hg ht
  obtain ⟨g', hgc', k, hk, rfl, huport⟩ := exists_listener_of_listeners hc hg hu
  obtain rfl := Option.some.inj (hgc.symm.trans hgc')
  -- the ports of declared listeners differ
  have hsame : l = k :=
    List.inj_on_of_nodup_map (Validation.globalConfigurationErrors_eq_nil_iff.1 (hg g hgc)).ports hl
      hk (by rw [← htport, ← huport, hport])
  rw [hsame]

/-- A transport server that asks for no declared listener has no port and is bound to nothing; it
can be served only when it asks for the built-in listener. -/
theorem of_not_asksForListener {t : TransportServerResource}
    (ht : Resource.transportServer t ∈ c.built)
    (hnot : ∀ n, ¬c.store.AsksForListener n t.server) :
    t.port = 0 ∧ (∀ n u, c.listeners.get? n = some u → u.server ≠ t.server) ∧
      (t.server.spec.listener.isPassthrough = false → .transportServer t ∉ c.resources) := by
  have hunbound : ∀ n u, c.listeners.get? n = some u → u.server ≠ t.server := by
    intro n u hu hserver
    exact hnot n (hserver ▸ asksForListener_of_listeners hc hg hu)
  refine ⟨?_, hunbound, fun hpass hserved => ?_⟩
  · rcases mem_built_iff.1 ht with hplan | ⟨t', ht', heq⟩
    · obtain ⟨-, -, -, -, hport, -⟩ := of_transportServer_mem_resources hplan
      exact hport
    · obtain rfl := Resource.transportServer.inj heq
      exact port_of_not_asksForListener hg ht' hnot
  · -- without a listener it would have to have a host
    obtain ⟨h | n, hslot⟩ := (mem_resources_iff (holding_of_settled hc hs)).1 hserved
    · have hhost : (hostPlan c.admission c.passthrough c.store).hosts.get? h =
          some (.transportServer t) := hc.hosts_eq ▸ hslot
      obtain ⟨-, -, hpass', -⟩ := of_transportServer_mem_resources (mem_resources_of_hosts hhost)
      rw [hpass] at hpass'
      cases hpass'
    · obtain ⟨u, hu, heq⟩ := holders_listener_iff.1 hslot
      exact hunbound n u hu (congrArg _ (Resource.transportServer.inj heq).symm)

end Listeners

/-- After any events, every listener that is declared, and that a transport server asks for with its
protocol, is bound to one of those that ask for it, to whom no other one of them is senior, with the
port that is declared now; each of the others is told so once. No port is bound twice, every bound
port is in the range of ports and is not forbidden, and a transport server without a declared
listener has no port, is bound to nothing, and is not served unless it asks for the built-in
listener. -/
theorem listener_safety (className : String) (f : Features) (events : List Event) :
    let c := (fresh f (.checked className f)).run events
    (∀ n, ListenerOwnership c n) ∧
    (∀ n m t u, c.listeners.get? n = some t → c.listeners.get? m = some u → n ≠ m →
      t.port ≠ u.port) ∧
    (∀ n t, c.listeners.get? n = some t →
      1 ≤ t.port ∧ t.port ≤ 65535 ∧ t.port ∉ f.forbiddenListenerPorts) ∧
    (∀ key ts, c.store.transportServers.get? key = some ts →
      ∃ t, .transportServer t ∈ c.built ∧ t.server = ts) ∧
    ∀ t, .transportServer t ∈ c.built → (∀ n, ¬c.store.AsksForListener n t.server) →
      t.port = 0 ∧ (∀ n u, c.listeners.get? n = some u → u.server ≠ t.server) ∧
        (t.server.spec.listener.isPassthrough = false → .transportServer t ∉ c.resources) := by
  intro c
  have hc : c.Settled := settled_run
  have hs : c.store.Sound := sound_run
  have hadmitted : c.store.Admitted (.checked className f) := admitted_run
  have hg : ∀ g, c.store.globalConfiguration = some g →
      Validation.globalConfigurationErrors f g = [] := hadmitted.globalConfiguration
  refine ⟨listenerOwnership hc hs hg, ?_, ?_, ?_, fun t => of_not_asksForListener hc hs hg⟩
  · intro n m t u ht hu hne hport
    exact hne (eq_of_port_eq hc hg ht hu hport)
  · intro n t ht
    obtain ⟨g, hgc, l, hl, -, hport⟩ := exists_listener_of_listeners hc hg ht
    rw [hport]
    exact Validation.port_of_globalConfigurationErrors (hg g hgc) hl
  · intro key ts hts
    have herrors := Store.listenerRefErrors_eq_nil (hadmitted.transportServer key ts hts).2.2
    have hpassthrough : c.passthrough = f.tlsPassthroughEnabled := passthrough_run
    refine exists_built_transportServer hs hts fun hpass => ?_
    -- without passthrough no transport server on the built-in listener is let in
    rw [hpassthrough]
    exact Store.enabled_of_listenerRefErrors herrors hpass

end Gatehouse.Configuration
