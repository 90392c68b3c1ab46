import Gatehouse.Proofs.Configuration.Run
import Gatehouse.Proofs.Plan.Changes

/-!
What a configuration has decided is always what it would decide from its store.

An event has only that decided anew which it can have touched, and the deletion of an object that is
not there nothing at all. `settle` is the decision of everything from the store, and a configuration
is `Settled` when that changes nothing. The step from one settled configuration to the next
(`step_of_settled`) says that the shortcuts are right: the hosts do not depend on the listeners that
are declared, nor, without passthrough, on transport servers, and the listeners depend on nothing
else. So after a run (`settled_run`) everything that was decided is a function of the store, and the
answer to an event leads from what was served before to what is served after it (`leads_step`).
-/

set_option autoImplicit false

namespace Gatehouse.Configuration

/-! ## 1. What the plans depend on -/

/-- Nothing that the hosts depend on differs. Policies and the global configuration are not
mentioned, and transport servers only count while passthrough is on. -/
structure SameForHosts (passthrough : Bool) (s t : Store) : Prop where
  ingresses : s.ingresses = t.ingresses
  virtualServers : s.virtualServers = t.virtualServers
  virtualServerRoutes : s.virtualServerRoutes = t.virtualServerRoutes
  transportServers : passthrough = true → s.transportServers = t.transportServers

/-- Nothing that the listeners depend on differs: neither the transport servers that ask for them
nor the global configuration that declares them. -/
structure SameForListeners (s t : Store) : Prop where
  transportServers : s.transportServers = t.transportServers
  globalConfiguration : s.globalConfiguration = t.globalConfiguration

/-- The hosts are decided alike from two such stores. The proof goes along the way the claimants are
built: minions and virtual server routes are put into resources first, and after that only the
claimants themselves count. -/
theorem hostPlan_congr {a : Admission} {passthrough : Bool} {s t : Store}
    (h : SameForHosts passthrough s t) : hostPlan a passthrough s = hostPlan a passthrough t := by
  have hingress : ingressResource s = ingressResource t := by
    funext i
    simp only [ingressResource, masterResource, Store.minionsFor, Store.minions, h.ingresses]
  have hserver : virtualServerResource a s = virtualServerResource a t := by
    have hdelegate : ∀ vs, delegate a s vs = delegate a t vs := fun vs => by
      funext r
      simp only [delegate, h.virtualServerRoutes]
    funext vs
    simp only [virtualServerResource, delegates, hdelegate]
  have hclaimants : hostClaimants a passthrough s = hostClaimants a passthrough t := by
    unfold hostClaimants
    rw [hingress, hserver, Store.mainIngresses, Store.mainIngresses, h.ingresses, h.virtualServers]
    -- without passthrough, transport servers claim no host
    by_cases hon : passthrough
    · rw [Store.passthroughServers, Store.passthroughServers, h.transportServers hon]
    · rw [if_neg hon, if_neg hon]
  simp only [hostPlan, hclaimants]

/-- So are the problems of a given plan, for which minions and virtual server routes are gone
through once more. -/
theorem hostProblems_congr {passthrough : Bool} {s t : Store} (h : SameForHosts passthrough s t)
    (p : HostPlan) : p.problems s = p.problems t := by
  simp only [HostPlan.problems, Store.minions, h.ingresses, h.virtualServerRoutes]

/-- The listeners are decided alike. A transport server looks up its listener when its port is read
and once more when it makes its claim, and both look-ups find the same. -/
theorem listenerPlan_congr {s t : Store} (h : SameForListeners s t) :
    listenerPlan s = listenerPlan t := by
  have hdeclared : s.declaredListener? = t.declaredListener? := by
    funext asked
    simp only [Store.declaredListener?, h.globalConfiguration]
  have hresource : listeningResource s = listeningResource t := by
    funext ts
    simp only [listeningResource, hdeclared]
  have hclaimed : claimedListener s = claimedListener t := by
    funext r
    simp only [claimedListener, hdeclared]
  simp only [listenerPlan, hresource, hclaimed, Store.listeningServers, h.transportServers]

/-- An event about none of the objects that can hold a host or be part of a holder leaves what the
hosts depend on. Without passthrough that is so for an event about a transport server, too. -/
theorem sameForHosts_after {passthrough : Bool} {s : Store} {a : Admission} {e : Event}
    (hi : e.kind ≠ .ingress) (hvs : e.kind ≠ .virtualServer) (hvsr : e.kind ≠ .virtualServerRoute)
    (hts : e.kind = .transportServer → passthrough = false) :
    SameForHosts passthrough s (s.after a e) := by
  have hoff : passthrough = true → e.kind ≠ .transportServer := fun hon hkind => by
    rw [hts hkind] at hon
    cases hon
  rcases e with o | ⟨kind, key⟩
  · cases o <;> constructor <;>
      first | rfl | contradiction | exact fun _ => rfl | exact fun hon => absurd rfl (hoff hon)
  · cases kind <;> constructor <;>
      first | rfl | contradiction | exact fun _ => rfl | exact fun hon => absurd rfl (hoff hon)

/-- An event about anything but a transport server or the global configuration leaves what the
listeners depend on. -/
theorem sameForListeners_after {s : Store} {a : Admission} {e : Event}
    (hts : e.kind ≠ .transportServer) (hg : e.kind ≠ .globalConfiguration) :
    SameForListeners s (s.after a e) := by
  rcases e with o | ⟨kind, key⟩
  · cases o <;> constructor <;> first | rfl | contradiction
  · cases kind <;> constructor <;> first | rfl | contradiction

/-! ## 2. Settled configurations -/

/-- The configuration with everything decided anew from its store. No event does this; it is what
the shortcuts of the events are compared with. -/
def settle (c : Configuration) : Configuration :=
  let p := hostPlan c.admission c.passthrough c.store
  let q := listenerPlan c.store
  { c with
    hosts := p.hosts
    listeners := q.listeners
    hostProblems := p.problems c.store
    listenerProblems := q.problems }

/-- Deciding the hosts anew changes nothing. As equality of configurations this is about the holders
and about the problems at once. -/
def HostsSettled (c : Configuration) : Prop := c.rebuildHosts.1 = c

/-- Deciding the listeners anew changes nothing, neither who is bound nor what is told. With
`HostsSettled` it makes up `Settled`, and an event that concerns one side only keeps the other. -/
def ListenersSettled (c : Configuration) : Prop := c.rebuildListeners.1 = c

/-- Deciding everything anew changes nothing. This is the invariant of runs, and all that is known
of a table of holders or of problems comes from it. -/
def Settled (c : Configuration) : Prop := c.settle = c

/-- A configuration is settled when its two sides are. Neither side reads what the other one has
decided, so they can be settled one after the other. -/
theorem settled_iff {c : Configuration} :
    c.Settled ↔ c.HostsSettled ∧ c.ListenersSettled := by
  constructor
  · intro h
    rw [← h]
    exact ⟨rfl, rfl⟩
  · rintro ⟨hh, hl⟩
    show c.rebuildListeners.1.rebuildHosts.1 = c
    rw [hl, hh]

/-- Deciding everything twice is deciding it once, since the decision does not edit the store. -/
theorem settled_settle (c : Configuration) : c.settle.Settled := rfl

/-- The four tables of a settled configuration are those of the plans of its store. The hosts are
those of the plan for hosts. -/
theorem Settled.hosts_eq {c : Configuration} (h : c.Settled) :
    c.hosts = (hostPlan c.admission c.passthrough c.store).hosts :=
  congrArg Configuration.hosts h.symm

theorem Settled.listeners_eq {c : Configuration} (h : c.Settled) :
    c.listeners = (listenerPlan c.store).listeners :=
  congrArg Configuration.listeners h.symm

/-- The problems of hosts are those that the plan for hosts has with the objects of the store. -/
theorem Settled.hostProblems_eq {c : Configuration} (h : c.Settled) :
    c.hostProblems = (hostPlan c.admission c.passthrough c.store).problems c.store :=
  congrArg Configuration.hostProblems h.symm

theorem Settled.listenerProblems_eq {c : Configuration} (h : c.Settled) :
    c.listenerProblems = (listenerPlan c.store).problems :=
  congrArg Configuration.listenerProblems h.symm

/-- Hosts that are settled stay so when the store is exchanged for one that does not differ for
them. This is why an event may leave them alone. -/
theorem HostsSettled.withStore {c : Configuration} (hc : c.HostsSettled) {s : Store}
    (h : SameForHosts c.passthrough c.store s) : (c.withStore s).HostsSettled := by
  have hsame := congrArg (fun d : Configuration => d.withStore s) hc
  simp only [rebuildHosts, hostPlan_congr h, hostProblems_congr h] at hsame
  exact hsame

/-- Listeners that are settled stay so in the same way. -/
theorem ListenersSettled.withStore {c : Configuration} (hc : c.ListenersSettled) {s : Store}
    (h : SameForListeners c.store s) : (c.withStore s).ListenersSettled := by
  have hsame := congrArg (fun d : Configuration => d.withStore s) hc
  simp only [rebuildListeners, listenerPlan_congr h] at hsame
  exact hsame

/-- A run begins with nothing decided, and from a store without objects nothing is decided. -/
theorem settled_fresh (f : Features) (a : Admission) : (fresh f a).Settled := by
  unfold Settled settle fresh
  cases f.tlsPassthroughEnabled <;> rfl

/-! ## 3. Steps and runs -/

/-- When one side is settled, deciding the other one settles both. -/
theorem rebuildHosts_eq_settle {c : Configuration} (h : c.ListenersSettled) :
    c.rebuildHosts.1 = c.settle := by
  show c.rebuildHosts.1 = c.rebuildListeners.1.rebuildHosts.1
  rw [h]

/-- The same with the sides exchanged: an event about the global configuration has the listeners
decided only. -/
theorem rebuildListeners_eq_settle {c : Configuration} (h : c.HostsSettled) :
    c.rebuildListeners.1 = c.settle := by
  show c.rebuildListeners.1 = c.rebuildHosts.1.rebuildListeners.1
  rw [h]

/-- An event about a transport server has the listeners decided, and the hosts only with
passthrough. Without it the hosts have to be settled already, which is all that is asked here. -/
theorem rebuildBoth_eq_settle {c : Configuration} (h : c.passthrough = false → c.HostsSettled) :
    c.rebuildBoth.1 = c.settle := by
  by_cases hon : c.passthrough
  · simp only [rebuildBoth, if_pos hon]
    rfl
  · simp only [rebuildBoth, if_neg hon]
    exact rebuildListeners_eq_settle (h (by simpa using hon))

/-- Deciding anew what an event can have touched is as good as deciding everything. The cases are
the kinds of object; in each the side that is left alone does not depend on what was edited. -/
theorem rebuild_eq_settle {c : Configuration} (hc : c.Settled) (e : Event) :
    (rebuild e.kind (c.withStore (c.store.after c.admission e))).1 =
      (c.withStore (c.store.after c.admission e)).settle := by
  obtain ⟨hhosts, hlisteners⟩ := settled_iff.1 hc
  -- the side that is not decided anew does not depend on what the event has edited
  have hh : e.kind ≠ .ingress → e.kind ≠ .virtualServer → e.kind ≠ .virtualServerRoute →
      (e.kind = .transportServer → c.passthrough = false) →
      (c.withStore (c.store.after c.admission e)).HostsSettled := fun hi hvs hvsr hts =>
    hhosts.withStore (sameForHosts_after hi hvs hvsr hts)
  have hl : e.kind ≠ .transportServer → e.kind ≠ .globalConfiguration →
      (c.withStore (c.store.after c.admission e)).ListenersSettled := fun hts hg =>
    hlisteners.withStore (sameForListeners_after hts hg)
  cases hkind : e.kind <;> rw [hkind] at hh hl
  case ingress | virtualServer | virtualServerRoute =>
    exact rebuildHosts_eq_settle (hl (by decide) (by decide))
  case transportServer =>
    exact rebuildBoth_eq_settle fun hoff => hh (by decide) (by decide) (by decide) fun _ => hoff
  case globalConfiguration =>
    exact rebuildListeners_eq_settle (hh (by decide) (by decide) (by decide) nofun)
  all_goals
    exact (settled_iff.2 ⟨hh (by decide) (by decide) (by decide) nofun,
      hl (by decide) (by decide)⟩).symm

/-- The step of a settled configuration: the store is edited, and everything is as decided from
it. -/
theorem step_of_settled {c : Configuration} (hc : c.Settled) (e : Event) :
    (c.step e).1 = (c.withStore (c.store.after c.admission e)).settle := by
  rcases step_spec c e with ⟨h, -⟩ | ⟨h, hstore⟩
  · rw [h, rebuild_eq_settle hc e]
  · rw [h, hstore]
    exact hc.symm

/-- A step keeps the invariant. -/
theorem settled_step {c : Configuration} (hc : c.Settled) (e : Event) : (c.step e).1.Settled := by
  rw [step_of_settled hc e]
  exact settled_settle _

section Run

variable {f : Features} {a : Admission} {events : List Event}

/-- So after any events a configuration is settled, whatever the admission lets in. -/
theorem settled_run : ((fresh f a).run events).Settled := by
  induction events using List.reverseRecOn with
  | nil => exact settled_fresh f a
  | append_singleton events e ih =>
    rw [run_append]
    exact settled_step ih e

/-- A run ends with everything as decided from the store that it leaves. What is left to know about
a run is therefore what it leaves in the store. -/
theorem run_eq_settle : (fresh f a).run events =
    ((fresh f a).withStore ((fresh f a).run events).store).settle := by
  induction events using List.reverseRecOn with
  | nil => exact (settled_fresh f a).symm
  | append_singleton events e ih =>
    rw [run_append, step_of_settled settled_run e, ih]
    rfl

/-- Runs that leave the same objects end in the same configuration. They need not have let in the
same objects on the way, nor told the same. -/
theorem run_congr {others : List Event} (h : ∀ place, latest place events = latest place others) :
    (fresh f a).run events = (fresh f a).run others := by
  rw [run_eq_settle, store_run_congr h, ← run_eq_settle]

end Run

/-! ## 4. Convergence -/

/-- Runs end alike when they leave the same objects, that is when for every place the last event
about it is the same, or is in neither run an application. In what order the events came, how they
were interleaved or repeated, and which versions came before, does not show. -/
theorem converges (f : Features) (a : Admission) (events others : List Event)
    (h : ∀ place, latest place events = latest place others) :
    let c := (fresh f a).run events
    let d := (fresh f a).run others
    c.resources = d.resources ∧ c.hosts = d.hosts ∧ c.listeners = d.listeners ∧
      c.hostProblems = d.hostProblems ∧ c.listenerProblems = d.listenerProblems ∧
      (∀ space name, c.policiesForSecret space name = d.policiesForSecret space name) ∧
      c.transportCounts = d.transportCounts := by
  intro c d
  have hsame : c = d := run_congr h
  rw [hsame]
  exact ⟨rfl, rfl, rfl, rfl, rfl, fun _ _ => rfl, rfl⟩

/-- The metadata of an object of the namespace `shop`. -/
def plainMeta (name : String) (generation created : Int) : Meta :=
  { Meta.blank with
    space := some "shop"
    name := some name
    generation := some generation
    created := some ⟨created, 0⟩ }

/-- A virtual server that only has a host. -/
def plainServer (name host : String) (generation created : Int) : VirtualServer :=
  ⟨plainMeta name generation created, ⟨"", host, none, [], [], [], "", "", ""⟩⟩

/-- One virtual server comes twice and another one comes and goes, or the later version of the first
one comes alone. -/
theorem converges_after_detour :
    let detour : List Event :=
      [.apply (.virtualServer (plainServer "tea" "cafe.example.com" 1 10)),
        .apply (.virtualServer (plainServer "milk" "milk.example.com" 1 20)),
        .apply (.virtualServer (plainServer "tea" "tea.example.com" 2 10)),
        .delete .virtualServer "shop/milk"]
    let direct : List Event := [.apply (.virtualServer (plainServer "tea" "tea.example.com" 2 10))]
    let start := fresh Features.none (.checked "nginx" Features.none)
    (∀ place, latest place detour = latest place direct) ∧
      (start.run detour).hosts = (start.run direct).hosts := by
  intro detour direct start
  -- The runs differ in what came before; the last word about every place is the same.
  have hlatest : ∀ place, latest place detour = latest place direct := by
    intro place
    show (if placeOf .virtualServer "shop/milk" = place then none
      else if placeOf .virtualServer "shop/tea" = place then _
      else if placeOf .virtualServer "shop/milk" = place then _
      else if placeOf .virtualServer "shop/tea" = place then _ else none) =
        if placeOf .virtualServer "shop/tea" = place then _ else none
    by_cases hmilk : placeOf .virtualServer "shop/milk" = place
    · have htea : placeOf .virtualServer "shop/tea" ≠ place := hmilk ▸ by decide
      rw [if_pos hmilk, if_neg htea]
    · rw [if_neg hmilk, if_neg hmilk]
      by_cases htea : placeOf .virtualServer "shop/tea" = place
      · rw [if_pos htea, if_pos htea]
      · rw [if_neg htea, if_neg htea, if_neg htea]
  exact ⟨hlatest, (converges Features.none _ detour direct hlatest).2.1⟩

end Gatehouse.Configuration
