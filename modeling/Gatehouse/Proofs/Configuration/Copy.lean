import Gatehouse.Proofs.Configuration.Settled

/-!
A consumer that follows the answers of a configuration.

An event has some of the hosts and listeners decided anew, and the part that is not touched has no
changes. So whatever is decided, the answer is made of the changes of the listeners and those of the
hosts (`changes_step`), and the errors that a rejection puts on changes do not matter. Each side
leads from what was served before to what is served after it (`leads_holderChanges`), and so do both
together (`leads_step`). A consumer that has followed all changes of a run has therefore a copy of
what is served (`copies_run`). That the keys of the copy are those of the served resources, in the
same order, is then a matter of reading both tables.
-/

set_option autoImplicit false

namespace Gatehouse.Configuration

/-! ## 1. What is served -/

/-- Which resource has which host or listener. The tables of hosts and of listeners are read as one
assignment from here on. -/
def holders (c : Configuration) : Holders := holdersOf c.hosts c.listeners

theorem holders_listener_iff {c : Configuration} {n : String} {r : Resource} :
    c.holders (.listener n) = some r ↔
      ∃ t, c.listeners.get? n = some t ∧ r = .transportServer t := holdersOf_listener_iff

/-- In a settled configuration the assignment is that of the plans of its store. -/
theorem holders_of_settled {c : Configuration} (h : c.Settled) :
    c.holders = c.store.holders c.admission c.passthrough := by
  rw [← h]
  rfl

/-- So what is known of plans holds of it, given a sound store. -/
theorem holding_of_settled {c : Configuration} (h : c.Settled) (hs : c.store.Sound) :
    Holding c.holders := by
  rw [holders_of_settled h]
  exact Store.holding hs

/-- The resources that are served, under their keys. -/
def served (c : Configuration) : Table Resource := servedBy c.hosts c.listeners .all

/-- What is served under a key is the resource that has a slot and this key. As a key belongs to one
resource, it does not matter in which slot it is found. -/
theorem get?_served_iff {c : Configuration} (h : Holding c.holders) {key : String} {r : Resource} :
    c.served.get? key = some r ↔ (∃ slot, c.holders slot = some r) ∧ r.key = key :=
  get?_servedBy_iff h

theorem exists_holder_of_mem_resources {c : Configuration} {r : Resource} (hr : r ∈ c.resources) :
    ∃ slot, c.holders slot = some r := by
  obtain ⟨key, hget⟩ := Table.mem_values_iff.1 hr
  exact (of_get?_servedBy hget).1

theorem mem_resources_iff {c : Configuration} (h : Holding c.holders) {r : Resource} :
    r ∈ c.resources ↔ ∃ slot, c.holders slot = some r := by
  refine ⟨exists_holder_of_mem_resources, fun hr => ?_⟩
  show r ∈ c.served.values
  exact Table.mem_values_iff.2 ⟨r.key, (get?_served_iff h).2 ⟨hr, rfl⟩⟩

/-! ## 2. What an event answers -/

/-- The changes of the hosts from one configuration to another, with the resources as the other one
builds them. -/
def hostChanges (c next : Configuration) : List ResourceChange :=
  holderChanges c.hosts next.hosts
    (hostPlan next.admission next.passthrough next.store).resources

/-- The changes of the listeners from one configuration to another, with the resources as the other
one builds them. -/
def listenerChanges (c next : Configuration) : List ResourceChange :=
  holderChanges (asResources c.listeners) (asResources next.listeners)
    ((listenerPlan next.store).servers.map .transportServer)

/-- The changes from one configuration to another, each resource mentioned once. Both sides are
compared, also when only one has been decided anew. -/
def allChanges (c next : Configuration) : List ResourceChange :=
  Change.squash Resource.key (dropReleases (listenerChanges c next ++ hostChanges c next))

/-- A side that has not changed has no changes. If it is that of the listeners, the changes of the
hosts are left as they are. -/
theorem allChanges_of_listeners_eq {c next : Configuration} (h : next.listeners = c.listeners) :
    allChanges c next = hostChanges c next := by
  have hnone : listenerChanges c next = [] := by
    rw [listenerChanges, h, holderChanges_self]
  rw [allChanges, hnone, List.nil_append, hostChanges, squash_dropReleases_holderChanges]

/-- The same with the sides exchanged. -/
theorem allChanges_of_hosts_eq {c next : Configuration} (h : next.hosts = c.hosts) :
    allChanges c next = listenerChanges c next := by
  have hnone : hostChanges c next = [] := by
    rw [hostChanges, h, holderChanges_self]
  rw [allChanges, hnone, List.append_nil, listenerChanges, squash_dropReleases_holderChanges]

/-- Whatever is decided anew, the answer is made of all changes that come of it. A shortcut is
therefore nothing that has to be reasoned about any further. -/
theorem changes_rebuild (kind : Kind) (c : Configuration) :
    (rebuild kind c).2.changes = allChanges c (rebuild kind c).1 := by
  have hhosts : c.rebuildHosts.2.changes = allChanges c c.rebuildHosts.1 := by
    have hsame : c.rebuildHosts.1.listeners = c.listeners := rfl
    rw [allChanges_of_listeners_eq hsame]
    rfl
  have hlisteners : c.rebuildListeners.2.changes = allChanges c c.rebuildListeners.1 := by
    have hsame : c.rebuildListeners.1.hosts = c.hosts := rfl
    rw [allChanges_of_hosts_eq hsame]
    rfl
  cases kind
  case ingress | virtualServer | virtualServerRoute => exact hhosts
  case transportServer =>
    simp only [rebuild, rebuildBoth]
    by_cases hon : c.passthrough
    · -- both sides are decided, and the answer is put together here
      rw [if_pos hon]
      rfl
    · rw [if_neg hon]
      exact hlisteners
  case globalConfiguration => exact hlisteners
  all_goals
    show [] = allChanges c c
    rw [allChanges_of_hosts_eq rfl, listenerChanges, holderChanges_self]

/-- The answer to an event is made of all changes that come of it, up to errors that are put on
them. -/
theorem changes_step (c : Configuration) (e : Event) :
    (c.step e).2.changes.map Change.bare = (allChanges c (c.step e).1).map Change.bare := by
  rcases step_spec c e with ⟨hstate, hsame⟩ | ⟨h, -⟩
  · rw [hsame, changes_rebuild, hstate]
    rfl
  · rw [h, allChanges_of_hosts_eq rfl, listenerChanges, holderChanges_self]
    rfl

/-- The table of hosts lists the one side of the assignment. -/
theorem lists_hosts (c : Configuration) : Lists .host c.hosts (sideOf true c.holders) where
  get name := rfl
  only slot r hr := by
    obtain ⟨hside, -⟩ := sideOf_eq_some_iff.1 hr
    cases slot with
    | host name => exact ⟨name, rfl⟩
    | listener name => cases hside

/-- The table of listeners lists the other one. -/
theorem lists_listeners (c : Configuration) :
    Lists .listener (asResources c.listeners) (sideOf false c.holders) where
  get name := rfl
  only slot r hr := by
    obtain ⟨hside, -⟩ := sideOf_eq_some_iff.1 hr
    cases slot with
    | host name => cases hside
    | listener name => exact ⟨name, rfl⟩

section Changes

variable {c next : Configuration}

/-- The changes of the hosts lead from the hosts of the one configuration to those of the other. -/
theorem leads_hostChanges (hc : Holding c.holders) (hnext : next.Settled)
    (hs : next.store.Sound) :
    Leads (sideOf true c.holders) (sideOf true next.holders) (hostChanges c next) := by
  refine leads_holderChanges (lists_hosts c) (lists_hosts next) hc.side
    (holding_of_settled hnext hs).side (nodup_keys_resources hs) fun slot r hr => ?_
  obtain ⟨name, rfl⟩ := (lists_hosts next).only slot r hr
  rw [(lists_hosts next).get, hnext.hosts_eq] at hr
  exact mem_resources_of_hosts hr

/-- The changes of the listeners lead from the listeners of the one configuration to those of the
other. -/
theorem leads_listenerChanges (hc : Holding c.holders) (hnext : next.Settled)
    (hs : next.store.Sound) :
    Leads (sideOf false c.holders) (sideOf false next.holders) (listenerChanges c next) := by
  refine leads_holderChanges (lists_listeners c) (lists_listeners next) hc.side
    (holding_of_settled hnext hs).side ?_ fun slot r hr => ?_
  · rw [List.map_map]
    exact nodup_keys_servers hs
  · obtain ⟨name, rfl⟩ := (lists_listeners next).only slot r hr
    obtain ⟨-, hr⟩ := sideOf_eq_some_iff.1 hr
    obtain ⟨t, ht, rfl⟩ := holders_listener_iff.1 hr
    rw [hnext.listeners_eq] at ht
    exact List.mem_map_of_mem (mem_servers_of_listeners ht)

end Changes

/-! ## 3. Steps and runs -/

/-- The answer to an event leads from what was served before to what is served after it. This is the
step of the induction for copies, and what other modules cite about answers. -/
theorem leads_step {c : Configuration} {e : Event} (hc : c.Settled) (hs : c.store.Sound)
    (hnext : (c.step e).1.store.Sound) :
    Leads c.holders (c.step e).1.holders (c.step e).2.changes := by
  have hbefore : Holding c.holders := holding_of_settled hc hs
  have hsettled : (c.step e).1.Settled := settled_step hc e
  have hall : Leads c.holders (c.step e).1.holders (allChanges c (c.step e).1) :=
    (leads_listenerChanges hbefore hsettled hnext).both (leads_hostChanges hbefore hsettled hnext)
      hbefore (holding_of_settled hsettled hnext)
  exact hall.of_map_bare_eq (changes_step c e)

section Run

variable {className : String} {f : Features} {events : List Event}

/-- After some events the store is sound, since the checks of the kinds have let in what it has. -/
theorem sound_run : ((fresh f (.checked className f)).run events).store.Sound :=
  admitted_run.sound

/-- So the assignment is one in which resources have what they say that they serve. -/
theorem holding_run : Holding ((fresh f (.checked className f)).run events).holders :=
  holding_of_settled settled_run sound_run

/-- In a run every answer leads on from where the events before it have come to. -/
theorem leads_run (e : Event) :
    Leads ((fresh f (.checked className f)).run events).holders
      ((fresh f (.checked className f)).run (events ++ [e])).holders
      (((fresh f (.checked className f)).run events).step e).2.changes := by
  have hnext : ((fresh f (.checked className f)).run (events ++ [e])).store.Sound := sound_run
  rw [run_append] at hnext ⊢
  exact leads_step settled_run sound_run hnext

/-- Whoever has followed all changes of a run has a copy of what is served. The induction is on the
events; each answer leads from the assignment before to the one after it. -/
theorem copies_run :
    Copies (Change.follow Resource.key Table.empty ((fresh f (.checked className f)).told events))
      ((fresh f (.checked className f)).run events).holders := by
  induction events using List.reverseRecOn with
  | nil => exact copies_empty fun slot => by cases slot <;> rfl
  | append_singleton events e ih =>
    rw [told_append, Change.follow_append]
    exact (leads_run e).copies holding_run holding_run ih

end Run

/-! ## 4. The copy of a consumer -/

/-- A copy has the keys of what is served, in the same order. Both are in the order of keys, so it
is enough that they have the same ones. -/
theorem keys_of_copies {c : Configuration} {copy : Table Resource} (hc : Holding c.holders)
    (h : Copies copy c.holders) : copy.keys = c.resources.map Resource.key := by
  have hserved : ∀ key r, c.served.get? key = some r → r.key = key :=
    fun key r hr => ((get?_served_iff hc).1 hr).2
  show copy.keys = c.served.values.map Resource.key
  rw [Table.map_values_eq_keys hserved]
  -- both are tables, so the order is that of the keys
  refine Table.keys_eq_of_mem_iff fun key => ?_
  rw [Table.mem_keys_iff, Table.mem_keys_iff]
  constructor
  · rintro ⟨q, hq⟩
    obtain ⟨slot, r, hr, hkey, -⟩ := h.sound key q hq
    exact ⟨r, (get?_served_iff hc).2 ⟨⟨slot, hr⟩, hkey⟩⟩
  · rintro ⟨r, hr⟩
    obtain ⟨⟨slot, hslot⟩, rfl⟩ := (get?_served_iff hc).1 hr
    obtain ⟨q, hq, -⟩ := h.complete slot r hslot
    exact ⟨q, hq⟩

/-- Following the changes reproduces what is served. After any events, the copy of a consumer that
has followed every change since the start has the keys of the served resources and, under each of
them, an equivalent resource. The last answer puts served resources as they are now; no key occurs
twice in it, and its removals come first. -/
theorem copy_follows_resources (className : String) (f : Features) (events : List Event)
    (e : Event) :
    let start := fresh f (.checked className f)
    let last := (start.run events).step e
    let copy := Change.follow Resource.key Table.empty (start.told (events ++ [e]))
    copy.keys = last.1.resources.map Resource.key ∧
      (∀ r ∈ last.1.resources, ∃ q, copy.get? r.key = some q ∧ q.equivalent r = true) ∧
      (∀ c ∈ last.2.changes, c.isDelete = false → c.resource ∈ last.1.resources) ∧
      (last.2.changes.map fun c => c.resource.key).Nodup ∧
      Change.DeletesFirst last.2.changes := by
  intro start last copy
  -- The last event is taken apart from the run, so that its answer can be spoken of.
  have hlast : start.run (events ++ [e]) = last.1 := run_append start events e
  have hholding : Holding last.1.holders := hlast ▸ holding_run
  have hcopies : Copies copy last.1.holders := hlast ▸ copies_run
  have hleads : Leads (start.run events).holders last.1.holders last.2.changes :=
    hlast ▸ leads_run e
  refine ⟨keys_of_copies hholding hcopies, ?_, ?_, hleads.nodup, hleads.deletesFirst⟩
  · intro r hr
    obtain ⟨slot, hslot⟩ := (mem_resources_iff hholding).1 hr
    exact hcopies.complete slot r hslot
  · intro c hc hput
    obtain ⟨slot, hgained⟩ := hleads.put c hc hput
    exact (mem_resources_iff hholding).2 ⟨slot, hgained.1⟩

end Gatehouse.Configuration
