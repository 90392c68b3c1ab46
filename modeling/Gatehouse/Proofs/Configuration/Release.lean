import Gatehouse.Proofs.Configuration.Copy
import Gatehouse.Proofs.Plan.Releases

/-!
When a consumer that follows an answer sees a host or a listener at two resources.

The answer to an event mentions the resources in an order that does not look at who takes what from
whom. `no_double_claim_iff` says when this order is right. Two things can go wrong. A host passes
from a resource that keeps or gets another host to one that gives up a host itself, and does so
first: then the one that takes it is put first (`double_claim_of_move` is a run in which that
happens). Or a transport server moves from a listener to a host while another one waits for the
listener: then the listeners are told before the hosts. Nothing else can go wrong. A transport
server that moves from one listener to another is the object that the event is about, so no other
one moves at the same time (`place_of_moved`), and whoever takes its listener has not been mentioned
before.
-/

set_option autoImplicit false

namespace Gatehouse.Configuration

open Change (mentioned Before)

/-! ## 1. Transport servers that move -/

/-- A transport server that is bound to a listener is in the store, under its key, and asks for
it. -/
theorem find?_of_listeners {c : Configuration} (hc : c.Settled) (hs : c.store.Sound) {n : String}
    {t : TransportServerResource} (ht : c.listeners.get? n = some t) :
    c.store.find? (.transportServer, t.server.metadata.key) = some (.transportServer t.server) ∧
      t.server.spec.listener.name = n := by
  rw [hc.listeners_eq] at ht
  obtain ⟨⟨key, hkey⟩, -⟩ := stored_of_mem_servers (mem_servers_of_listeners ht)
  refine ⟨?_, name_of_listeners ht⟩
  rw [hs.transportServer_key key _ hkey]
  exact congrArg (Option.map Object.transportServer) hkey

/-- A transport server that is bound to another listener than before is the object that the event is
about. It is bound to the listener that it names, and only its own event makes it name another
one. -/
theorem place_of_moved {c : Configuration} {e : Event} (hc : c.Settled) (hs : c.store.Sound)
    (hnext : (c.step e).1.store.Sound) {n m : String} {t u : TransportServerResource}
    (ht : c.listeners.get? n = some t) (hu : (c.step e).1.listeners.get? m = some u)
    (hkey : t.key = u.key) (hmoved : n ≠ m) :
    e.place = (.transportServer, t.server.metadata.key) := by
  obtain ⟨hbefore, htname⟩ := find?_of_listeners hc hs ht
  obtain ⟨hafter, huname⟩ := find?_of_listeners (settled_step hc e) hnext hu
  have hmeta : t.server.metadata.key = u.server.metadata.key := (Kind.joinKey_inj hkey).2
  by_contra hplace
  rw [store_step, Store.find?_after, ← hmeta, if_neg hplace, hbefore] at hafter
  have hsame : t.server = u.server := Object.transportServer.inj (Option.some.inj hafter)
  exact hmoved (by rw [← htname, ← huname, hsame])

/-! ## 2. The order of an answer -/

/-- The resource with the key has a host. A resource may have lost one host and kept another one,
which is when the order of the changes matters. -/
def HasHost (c : Configuration) (key : String) : Prop :=
  ∃ h r, c.hosts.get? h = some r ∧ r.key = key

/-- The transport server with the key is bound to a listener. It cannot have a host at the same
time, but it may have had one before the event. -/
def HasListener (c : Configuration) (key : String) : Prop :=
  ∃ n t, c.listeners.get? n = some t ∧ t.key = key

/-- To have a host is to be served on the side of the hosts. -/
theorem hasHost_iff {c : Configuration} {key : String} :
    c.HasHost key ↔ Served (sideOf true c.holders) key := by
  constructor
  · rintro ⟨h, r, hr, hkey⟩
    exact ⟨.host h, r, hr, hkey⟩
  · rintro ⟨slot, r, hr, hkey⟩
    obtain ⟨h, rfl⟩ := (lists_hosts c).only slot r hr
    exact ⟨h, r, hr, hkey⟩

theorem hasListener_iff {c : Configuration} {key : String} :
    c.HasListener key ↔ Served (sideOf false c.holders) key := by
  constructor
  · rintro ⟨n, t, ht, hkey⟩
    have hr : c.holders (.listener n) = some (.transportServer t) :=
      holders_listener_iff.2 ⟨t, ht, rfl⟩
    exact ⟨.listener n, .transportServer t, hr, hkey⟩
  · rintro ⟨slot, r, hr, hkey⟩
    obtain ⟨n, rfl⟩ := (lists_listeners c).only slot r hr
    obtain ⟨t, ht, rfl⟩ := holders_listener_iff.1 (sideOf_eq_some_iff.1 hr).2
    exact ⟨n, t, ht, hkey⟩

/-- Who is served has one or the other. -/
theorem served_iff {c : Configuration} {key : String} :
    Served c.holders key ↔ c.HasHost key ∨ c.HasListener key := by
  rw [served_iff_sides true, hasHost_iff, hasListener_iff]
  rfl

section Order

variable {c : Configuration} {e : Event} (hc : c.Settled) (hs : c.store.Sound)
  (hnext : (c.step e).1.store.Sound)

include hc hs hnext

/-- A host passes on from a resource that has another host now. Both are put by the changes of the
hosts, so their order is that in which they give up hosts. -/
theorem before_iff_of_host {h : String} {q r : Resource} (hq : c.holders (.host h) = some q)
    (hr : (c.step e).1.holders (.host h) = some r) (hne : q.key ≠ r.key)
    (hstill : (c.step e).1.HasHost q.key) :
    Before Resource.key (c.step e).2.changes q.key r.key ↔
      (releases c.hosts (c.step e).1.hosts).idxOf q.key <
        (releases c.hosts (c.step e).1.hosts).idxOf r.key := by
  have hbefore : Holding c.holders := holding_of_settled hc hs
  have hsettled : (c.step e).1.Settled := settled_step hc e
  have hafter : Holding (c.step e).1.holders := holding_of_settled hsettled hnext
  have hleads := leads_hostChanges hbefore hsettled hnext
  have hreleases : q.key ∈ releases c.hosts (c.step e).1.hosts :=
    mem_releases_of_passed (lists_hosts c) (lists_hosts _) hq hr hne
  rw [Before, Change.mentioned_congr (changes_step c e), ← Before, allChanges,
    Leads.before_both_iff_of_host hbefore hafter
      (leads_listenerChanges hbefore hsettled hnext) hleads hq hr hne rfl (hasHost_iff.1 hstill)]
  exact before_holderChanges_iff (hleads.onlyPut (hasHost_iff.1 hstill))
    (hleads.onlyPut ⟨.host h, r, hr, rfl⟩) hreleases

/-- A host passes on from a resource that has a listener now. -/
theorem before_of_host {h : String} {q r : Resource} (hq : c.holders (.host h) = some q)
    (hr : (c.step e).1.holders (.host h) = some r) (hne : q.key ≠ r.key)
    (hmoved : (c.step e).1.HasListener q.key) :
    Before Resource.key (c.step e).2.changes q.key r.key := by
  have hbefore : Holding c.holders := holding_of_settled hc hs
  have hsettled : (c.step e).1.Settled := settled_step hc e
  rw [Before, Change.mentioned_congr (changes_step c e)]
  exact Leads.before_both_of_host hbefore (holding_of_settled hsettled hnext)
    (leads_listenerChanges hbefore hsettled hnext) (leads_hostChanges hbefore hsettled hnext)
    hq hr hne rfl (hasListener_iff.1 hmoved)

/-- A transport server that takes the listener of one that moves to another listener does not give
up a listener itself. Only one of them is the object of the event. -/
theorem notMem_releases_of_taker {n : String} {t u : TransportServerResource}
    (ht : c.listeners.get? n = some t) (hu : (c.step e).1.listeners.get? n = some u)
    (hne : t.key ≠ u.key) (hstill : (c.step e).1.HasListener t.key) :
    u.key ∉ releases (asResources c.listeners) (asResources (c.step e).1.listeners) := by
  intro hin
  obtain ⟨slot, q, hq, -, hukey⟩ :=
    (mem_releases_iff (lists_listeners c) (lists_listeners (c.step e).1)).1 hin
  obtain ⟨m, rfl⟩ := (lists_listeners c).only slot q hq
  obtain ⟨p, hp, rfl⟩ := holders_listener_iff.1 (sideOf_eq_some_iff.1 hq).2
  have hmn : m ≠ n := by
    rintro rfl
    rw [ht] at hp
    obtain rfl := Option.some.inj hp
    exact hne hukey
  -- both would have moved
  have hplace : e.place = (.transportServer, p.server.metadata.key) :=
    place_of_moved hc hs hnext hp hu hukey hmn
  obtain ⟨k, v, hv, hvkey⟩ := hstill
  have hnk : n ≠ k := by
    rintro rfl
    rw [hu] at hv
    obtain rfl := Option.some.inj hv
    exact hne hvkey.symm
  have hplace' : e.place = (.transportServer, t.server.metadata.key) :=
    place_of_moved hc hs hnext ht hv hvkey.symm hnk
  have hsame : p.server.metadata.key = t.server.metadata.key :=
    congrArg Prod.snd (hplace.symm.trans hplace')
  have hkey : t.key = p.key := congrArg (joinKey _) hsame.symm
  exact hne (hkey.trans hukey)

/-- A listener passes on from a transport server that has another listener now. It is mentioned
where the listener is released, and the one that takes the listener only where that one is put. -/
theorem before_of_listener {n : String} {t u : TransportServerResource}
    (ht : c.listeners.get? n = some t) (hu : (c.step e).1.listeners.get? n = some u)
    (hne : t.key ≠ u.key) (hstill : (c.step e).1.HasListener t.key) :
    Before Resource.key (c.step e).2.changes t.key u.key := by
  have hbefore : Holding c.holders := holding_of_settled hc hs
  have hsettled : (c.step e).1.Settled := settled_step hc e
  have hafter : Holding (c.step e).1.holders := holding_of_settled hsettled hnext
  have hleads := leads_listenerChanges hbefore hsettled hnext
  have hq : c.holders (.listener n) = some (.transportServer t) :=
    holders_listener_iff.2 ⟨t, ht, rfl⟩
  have hr : (c.step e).1.holders (.listener n) = some (.transportServer u) :=
    holders_listener_iff.2 ⟨u, hu, rfl⟩
  have hreleases : t.key ∈ releases (asResources c.listeners)
      (asResources (c.step e).1.listeners) :=
    mem_releases_of_passed (lists_listeners c) (lists_listeners _) hq hr hne
  have hnone := notMem_releases_of_taker hc hs hnext ht hu hne hstill
  have hserved := hasListener_iff.1 hstill
  rw [Before, Change.mentioned_congr (changes_step c e)]
  refine (Leads.before_both_iff_of_listener hbefore hafter hleads hq hr hne rfl hserved).2 ?_
  -- The holder is named by the listeners' own releases and the taker is not: it comes first.
  refine (before_holderChanges_iff (hleads.onlyPut hserved)
    (hleads.onlyPut ⟨.listener n, .transportServer u, hr, rfl⟩) hreleases).2 ?_
  show (releases _ _).idxOf t.key < (releases _ _).idxOf u.key
  rw [List.idxOf_of_notMem hnone]
  exact List.idxOf_lt_length_of_mem hreleases

/-- A listener passes on from a transport server that has a host now. Its removal by the listeners
is dropped, as the hosts put it, and what the hosts put comes after what the listeners put. -/
theorem not_before_of_listener {n : String} {t u : TransportServerResource}
    (ht : c.listeners.get? n = some t) (hu : (c.step e).1.listeners.get? n = some u)
    (hne : t.key ≠ u.key) (hmoved : (c.step e).1.HasHost t.key) :
    ¬Before Resource.key (c.step e).2.changes t.key u.key := by
  have hbefore : Holding c.holders := holding_of_settled hc hs
  have hsettled : (c.step e).1.Settled := settled_step hc e
  have hq : c.holders (.listener n) = some (.transportServer t) :=
    holders_listener_iff.2 ⟨t, ht, rfl⟩
  have hr : (c.step e).1.holders (.listener n) = some (.transportServer u) :=
    holders_listener_iff.2 ⟨u, hu, rfl⟩
  rw [Before, Change.mentioned_congr (changes_step c e)]
  exact Leads.not_before_both_of_listener hbefore (holding_of_settled hsettled hnext)
    (leads_listenerChanges hbefore hsettled hnext) (leads_hostChanges hbefore hsettled hnext)
    hq hr hne rfl (hasHost_iff.1 hmoved)

end Order

/-! ## 3. No two claims at once -/

/-- While a consumer follows the answer to an event, starting from what was served before, no host
and no listener is served by two resources after any prefix of the changes, exactly when two things
hold. Of two resources between which a host passes, where the former one has a host still, the
former one gives up hosts first. And a transport server whose listener passes to another one has no
host now. -/
theorem no_double_claim_iff (className : String) (f : Features) (events : List Event) (e : Event) :
    let c := (fresh f (.checked className f)).run events
    let last := c.step e
    (∀ n, ¬DoubleClaim (Change.follow Resource.key c.served (last.2.changes.take n))) ↔
      (∀ h q r, c.hosts.get? h = some q → last.1.hosts.get? h = some r → q.key ≠ r.key →
        last.1.HasHost q.key →
        (releases c.hosts last.1.hosts).idxOf q.key <
          (releases c.hosts last.1.hosts).idxOf r.key) ∧
      (∀ n t u, c.listeners.get? n = some t → last.1.listeners.get? n = some u → t.key ≠ u.key →
        ¬last.1.HasHost t.key) := by
  intro c last
  have hc : c.Settled := settled_run
  have hs : c.store.Sound := sound_run
  have hlast : (fresh f (.checked className f)).run (events ++ [e]) = last.1 :=
    run_append (fresh f (.checked className f)) events e
  have hnext : last.1.store.Sound := hlast ▸ sound_run
  have hholding : Holding last.1.holders := hlast ▸ holding_run
  have hleads : Leads c.holders last.1.holders last.2.changes := leads_step hc hs hnext
  rw [hleads.no_doubleClaim_iff holding_run hholding fun _ _ => get?_served_iff holding_run]
  -- By kind of slot: a host that changes hands is released by the hosts or the listeners, a
  -- listener that changes hands comes too late exactly if the holder moves to a host.
  constructor
  · intro horder
    constructor
    · intro h q r hq hr hne hstill
      have hserved : Served last.1.holders q.key := served_iff.2 (.inl hstill)
      exact (before_iff_of_host hc hs hnext hq hr hne hstill).1
        (horder (.host h) q r hq hr hne hserved)
    · intro n t u ht hu hne hmoved
      have hserved : Served last.1.holders t.key := served_iff.2 (.inl hmoved)
      exact not_before_of_listener hc hs hnext ht hu hne hmoved
        (horder (.listener n) _ _ (holders_listener_iff.2 ⟨t, ht, rfl⟩)
          (holders_listener_iff.2 ⟨u, hu, rfl⟩) hne hserved)
  · rintro ⟨hhosts, hlisteners⟩ slot q r hq hr hne hserved
    rcases slot with h | n
    · rcases served_iff.1 hserved with hstill | hmoved
      · exact (before_iff_of_host hc hs hnext hq hr hne hstill).2 (hhosts h q r hq hr hne hstill)
      · exact before_of_host hc hs hnext hq hr hne hmoved
    · obtain ⟨t, ht, rfl⟩ := holders_listener_iff.1 hq
      obtain ⟨u, hu, rfl⟩ := holders_listener_iff.1 hr
      rcases served_iff.1 hserved with hmoved | hstill
      · exact absurd hmoved (hlisteners n t u ht hu hne)
      · exact before_of_listener hc hs hnext ht hu hne hstill

/-- An ingress that only has hosts. -/
def plainIngress (name : String) (hosts : List String) (created : Int) : Ingress :=
  ⟨plainMeta name 1 created,
    some ⟨some "nginx", none, none, some (hosts.map fun h => ⟨some h, none⟩)⟩, none⟩

/-- A virtual server moves to one of the two hosts of a younger ingress, which keeps the other one.
The virtual server is put first, and until the ingress is put as well, both serve the host. The
ingress is not removed, so that removals come first is no help. -/
theorem double_claim_of_move :
    let c := (fresh Features.none (.checked "nginx" Features.none)).run
      [.apply (.ingress (plainIngress "web" ["shop.example.com", "web.example.com"] 20)),
        .apply (.virtualServer (plainServer "cafe" "cafe.example.com" 1 10))]
    let last := c.step (.apply (.virtualServer (plainServer "cafe" "shop.example.com" 2 10)))
    mentioned Resource.key last.2.changes = ["VirtualServer/shop/cafe", "Ingress/shop/web"] ∧
      DoubleClaim (Change.follow Resource.key c.served (last.2.changes.take 1)) := by
  refine ⟨by decide +kernel, .host "shop.example.com", "VirtualServer/shop/cafe",
    "Ingress/shop/web", by decide, ?_, ?_⟩
  · decide +kernel
  · decide +kernel

end Gatehouse.Configuration
