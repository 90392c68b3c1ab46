import Gatehouse.Proofs.Configuration.Accounts
import Gatehouse.Proofs.Configuration.Ownership

/-!
Why a transport server is not bound to the listener that it names.

A transport server is bound by name and protocol, but its problem is found by looking up the holder
of the name alone. So what it is told depends on that holder only (`listenerProblems_get?_eq`): that
the listener does not exist when nobody is bound to the name, and that it is taken when someone else
is. Where the listener is declared with the protocol that the transport server asks for, or where
nobody is bound to the name, this is the cause. Where the name is declared with another protocol and
someone is bound to it, the listener that the transport server asks for does not exist, and it is
told that it is taken (`cause_told_iff`).
-/

set_option autoImplicit false

namespace Gatehouse

/-- A listener of the name and with the protocol is declared. Both have to fit: the same name may be
declared with the other protocol, which is no listener of the one who asks. -/
def Store.Declares (s : Store) (asked : ListenerRef) : Prop :=
  ∃ g, s.globalConfiguration = some g ∧
    ∃ l ∈ g.spec.listeners, l.name = asked.name ∧ l.protocol = asked.protocol

/-! ## 1. What a transport server can be told -/

/-- The listener that the transport server names does not exist. -/
def listenerMissing (ts : TransportServer) : Problem :=
  .warning (.transportServer ts) .rejected
    ("Listener " ++ ts.spec.listener.name ++ " doesn't exist")

/-- The listener that the transport server names is taken by another one. -/
def listenerHeld (ts : TransportServer) : Problem :=
  .warning (.transportServer ts) .rejected
    ("Listener " ++ ts.spec.listener.name ++ " is taken by another resource")

theorem listenerMissing_ne_listenerHeld (ts : TransportServer) :
    listenerMissing ts ≠ listenerHeld ts := by
  intro heq
  have htext := congrArg Problem.message heq
  simp [listenerMissing, listenerHeld, Problem.warning] at htext

/-- The problem of a transport server, by who is bound to the listener that it names. That is all
that the plan looks at. -/
def listenerVerdict (ts : TransportServer) : Option TransportServerResource → Option Problem
  | none => some (listenerMissing ts)
  | some t => if t.server = ts then none else some (listenerHeld ts)

section Verdict

variable {ts : TransportServer} {holder? : Option TransportServerResource}

/-- It has none when it is bound itself. -/
theorem listenerVerdict_eq_none_iff :
    listenerVerdict ts holder? = none ↔ ∃ t, holder? = some t ∧ t.server = ts := by
  cases holder? <;> simp [listenerVerdict]

/-- The listener is said not to exist when nobody is bound to the name. -/
theorem listenerVerdict_eq_missing_iff :
    listenerVerdict ts holder? = some (listenerMissing ts) ↔ holder? = none := by
  cases holder? <;> simp [listenerVerdict, (listenerMissing_ne_listenerHeld ts).symm]

/-- It is said to be taken when another one is. -/
theorem listenerVerdict_eq_held_iff :
    listenerVerdict ts holder? = some (listenerHeld ts) ↔
      ∃ t, holder? = some t ∧ t.server ≠ ts := by
  cases holder? <;> simp [listenerVerdict, listenerMissing_ne_listenerHeld ts]

end Verdict

/-- The plan finds the problem by the holder of the name. It compares the holder with the transport
server by their keys, which differ for different ones. -/
theorem listenerProblem?_eq {s : Store} (hs : s.Sound) {r : TransportServerResource}
    (hr : r ∈ (listenerPlan s).servers) : (listenerPlan s).problem? r =
      listenerVerdict r.server ((listenerPlan s).listeners.get? r.server.spec.listener.name) := by
  rw [ListenerPlan.problem?]
  cases hget : (listenerPlan s).listeners.get? r.server.spec.listener.name with
  | none => rfl
  | some t =>
    have hkey : r.key = t.key → r = t := server_eq_of_key_eq hs hr (mem_servers_of_listeners hget)
    -- a holder that cannot be told from the transport server is the transport server
    have hsame : r.equivalent t = true ↔ t.server = r.server := by
      constructor
      · intro hequivalent
        rw [hkey (Resource.key_eq_of_equivalent (a := .transportServer r) (b := .transportServer t)
          hequivalent)]
      · intro hserver
        have hkeys : r.key = t.key := by
          show joinKey Kind.transportServer.name r.server.metadata.key =
            joinKey Kind.transportServer.name t.server.metadata.key
          rw [hserver]
        rw [← hkey hkeys]
        exact Resource.equivalent_refl (.transportServer r)
    by_cases hserver : t.server = r.server
    · simp [listenerVerdict, hsame.2 hserver, hserver]
    · simp [listenerVerdict, mt hsame.1 hserver, hserver, listenerHeld]

namespace Configuration

/-! ## 2. Who is bound -/

/-- The transport server is bound to the listener that it names, and in this version of it. -/
def IsBound (c : Configuration) (ts : TransportServer) : Prop :=
  ∃ t, c.listeners.get? ts.spec.listener.name = some t ∧ t.server = ts

/-- Another transport server is bound to the listener that it names, with whatever protocol. This is
what the look-up by the name alone finds. -/
def IsForestalled (c : Configuration) (ts : TransportServer) : Prop :=
  ∃ t, c.listeners.get? ts.spec.listener.name = some t ∧ t.server ≠ ts

/-- The problem that stands under the key of a transport server names the cause. There is one when
the transport server is not bound; it says that the listener does not exist when none is declared
with the name and the protocol, and that it is taken when one is and another transport server is
bound to it. -/
structure CauseTold (c : Configuration) (key : String) (ts : TransportServer) : Prop where
  told_iff : (∃ q, c.listenerProblems.get? key = some q) ↔ ¬c.IsBound ts
  missing_iff : c.listenerProblems.get? key = some (listenerMissing ts) ↔
    ¬c.store.Declares ts.spec.listener
  held_iff : c.listenerProblems.get? key = some (listenerHeld ts) ↔
    c.store.Declares ts.spec.listener ∧ c.IsForestalled ts

section Settled

variable {c : Configuration} (hc : c.Settled) {key : String} {ts : TransportServer}

include hc

/-- The problem that stands for a transport server is told by the holder of the name. Nothing else
of the configuration is looked at, and in particular not what is declared under the name. -/
theorem listenerProblems_get?_eq (hs : c.store.Sound)
    (hts : c.store.transportServers.get? key = some ts)
    (hpass : ts.spec.listener.isPassthrough = false) :
    c.listenerProblems.get? (joinKey Kind.transportServer.name key) =
      listenerVerdict ts (c.listeners.get? ts.spec.listener.name) := by
  have hlistening : ts ∈ c.store.listeningServers := by
    refine mem_listeningServers_iff.2 ⟨⟨key, hts⟩, fun hprotocol => ?_⟩
    rw [(hs.passthrough_iff key ts hts).2 hprotocol] at hpass
    cases hpass
  rw [← map_server_servers] at hlistening
  obtain ⟨r, hr, rfl⟩ := List.mem_map.1 hlistening
  have hrkey : r.key = joinKey Kind.transportServer.name key :=
    congrArg (joinKey _) (hs.transportServer_key key r.server hts)
  rw [← hrkey, hc.listenerProblems_eq, listenerProblems_get?_of_mem hs hr,
    listenerProblem?_eq hs hr, hc.listeners_eq]

variable {f : Features} (hg : ∀ g, c.store.globalConfiguration = some g →
  Validation.globalConfigurationErrors f g = [])

include hg

/-- Who is bound to the listener that it names finds it declared. -/
theorem declares_of_isBound (h : c.IsBound ts) : c.store.Declares ts.spec.listener := by
  obtain ⟨t, ht, rfl⟩ := h
  exact (asksForListener_of_listeners hc hg ht).declared

/-- Someone is bound to the name of a listener that is declared as a transport server asks for it.
The transport server claims it, so it does not stay free. -/
theorem exists_bound_of_declares (hs : c.store.Sound)
    (hts : c.store.transportServers.get? key = some ts)
    (hdeclares : c.store.Declares ts.spec.listener) :
    ∃ t, c.listeners.get? ts.spec.listener.name = some t :=
  (listenerOwnership hc hs hg _).held_iff.2 ⟨ts, ⟨key, hts⟩, rfl, hdeclares⟩

end Settled

/-! ## 3. Runs -/

/-- After any events, a problem with its listener stands for a transport server that is taken on,
and does not ask for the built-in listener, exactly when it is not bound to the listener that it
names. It says that the listener does not exist exactly when nobody is bound to the name, and that
it is taken exactly when another transport server is. That is the cause exactly when the listener is
declared with the protocol that is asked for, or nobody else is bound to the name. -/
theorem cause_told_iff (className : String) (f : Features) (events : List Event) {key : String}
    {ts : TransportServer}
    (hts : ((fresh f (.checked className f)).run events).store.transportServers.get? key = some ts)
    (hpass : ts.spec.listener.isPassthrough = false) :
    let c := (fresh f (.checked className f)).run events
    let place := joinKey Kind.transportServer.name key
    ((∃ q, c.listenerProblems.get? place = some q) ↔ ¬c.IsBound ts) ∧
      (c.listenerProblems.get? place = some (listenerMissing ts) ↔
        c.listeners.get? ts.spec.listener.name = none) ∧
      (c.listenerProblems.get? place = some (listenerHeld ts) ↔ c.IsForestalled ts) ∧
      (CauseTold c place ts ↔ c.store.Declares ts.spec.listener ∨ ¬c.IsForestalled ts) := by
  intro c place
  have hc : c.Settled := settled_run
  have hs : c.store.Sound := sound_run
  have hadmitted : c.store.Admitted (.checked className f) := admitted_run
  have hg := hadmitted.globalConfiguration
  have hproblem : c.listenerProblems.get? place = _ := listenerProblems_get?_eq hc hs hts hpass
  have htold : (∃ q, c.listenerProblems.get? place = some q) ↔ ¬c.IsBound ts := by
    rw [hproblem, ← Option.ne_none_iff_exists', ne_eq, listenerVerdict_eq_none_iff, IsBound]
  have hmissing : c.listenerProblems.get? place = some (listenerMissing ts) ↔
      c.listeners.get? ts.spec.listener.name = none := by
    rw [hproblem, listenerVerdict_eq_missing_iff]
  have hheld : c.listenerProblems.get? place = some (listenerHeld ts) ↔ c.IsForestalled ts := by
    rw [hproblem, listenerVerdict_eq_held_iff, IsForestalled]
  refine ⟨htold, hmissing, hheld, fun h => ?_, fun h => ⟨htold, ?_, ?_⟩⟩
  · by_cases hforestalled : c.IsForestalled ts
    · exact .inl (h.held_iff.1 (hheld.2 hforestalled)).1
    · exact .inr hforestalled
  · rw [hmissing]
    constructor
    · intro hnobody hdeclares
      obtain ⟨t, ht⟩ := exists_bound_of_declares hc hg hs hts hdeclares
      rw [hnobody] at ht
      cases ht
    · -- who is bound would be the transport server itself, which asks for what is declared
      intro hundeclared
      refine Option.eq_none_iff_forall_ne_some.2 fun t ht => ?_
      have hown : t.server ≠ ts := fun hserver =>
        hundeclared (declares_of_isBound hc hg ⟨t, ht, hserver⟩)
      exact (h.resolve_left hundeclared) ⟨t, ht, hown⟩
  · rw [hheld]
    exact ⟨fun hforestalled => ⟨h.resolve_right (not_not_intro hforestalled), hforestalled⟩,
      And.right⟩

/-- A transport server that asks for the listener `main`. -/
def mainTransport (name protocol : String) (created : Int) : TransportServer :=
  ⟨plainMeta name 1 created, ⟨"", ⟨"main", protocol⟩, "", "", "",
    [⟨"app", "app-svc", ⟨5353, by decide⟩, "", none, none, ""⟩], none, none, some ⟨"app"⟩⟩⟩

/-- A global configuration that declares the listener `main`, for TCP. -/
def mainDeclared : GlobalConfiguration :=
  ⟨plainMeta "nginx" 1 0, ⟨[⟨"main", ⟨7777, by decide⟩, "TCP"⟩]⟩⟩

/-- The listener `main` is declared, and a transport server is bound to it; then another one comes
that asks for it. -/
def mainTaken (second : TransportServer) : List Event :=
  [.apply (.globalConfiguration mainDeclared),
    .apply (.transportServer (mainTransport "web" "TCP" 10)), .apply (.transportServer second)]

/-- A younger transport server that asks for the listener with the same protocol is told the cause.
The listener exists then, and it is taken. -/
theorem cause_told_to_younger :
    let second := mainTransport "app" "TCP" 20
    let c := (fresh Features.none (.checked "nginx" Features.none)).run (mainTaken second)
    c.store.transportServers.get? "shop/app" = some second ∧
      second.spec.listener.isPassthrough = false ∧
      CauseTold c (joinKey Kind.transportServer.name "shop/app") second := by
  intro second c
  have hstored : c.store.transportServers.get? "shop/app" = some second := by decide +kernel
  have hpass : second.spec.listener.isPassthrough = false := by decide
  have hdeclared : c.store.globalConfiguration = some mainDeclared := by decide +kernel
  have hdeclares : c.store.Declares second.spec.listener :=
    ⟨mainDeclared, hdeclared, _, List.mem_singleton_self _, rfl, rfl⟩
  -- from here on the events do not matter, and are not to be run again
  obtain ⟨events, hrun⟩ :
      ∃ events, c = (fresh Features.none (.checked "nginx" Features.none)).run events := ⟨_, rfl⟩
  clear_value c
  subst hrun
  obtain ⟨-, -, -, htold⟩ := cause_told_iff "nginx" Features.none events hstored hpass
  exact ⟨hstored, hpass, htold.2 (.inl hdeclares)⟩

/-- A transport server that asks for the listener with another protocol, with which it is not
declared, is told that it is taken. It would have to be told that the listener does not exist:
nothing that the other one does could make it free. -/
theorem wrong_cause_for_protocol :
    let second := mainTransport "dns" "UDP" 20
    let c := (fresh Features.none (.checked "nginx" Features.none)).run (mainTaken second)
    c.store.transportServers.get? "shop/dns" = some second ∧
      second.spec.listener.isPassthrough = false ∧ ¬c.store.Declares second.spec.listener ∧
      c.listenerProblems.get? "TransportServer/shop/dns" = some (listenerHeld second) ∧
      ¬CauseTold c "TransportServer/shop/dns" second := by
  intro second c
  have hstored : c.store.transportServers.get? "shop/dns" = some second := by decide +kernel
  have hproblem : c.listenerProblems.get? "TransportServer/shop/dns" =
      some (listenerHeld second) := by decide +kernel
  have hdeclared : c.store.globalConfiguration = some mainDeclared := by decide +kernel
  -- The only listener declared under the name speaks TCP, and the second server asks for UDP.
  have hundeclared : ¬c.store.Declares second.spec.listener := by
    rintro ⟨g, hg, l, hl, -, hprotocol⟩
    obtain rfl := Option.some.inj (hdeclared.symm.trans hg)
    rw [List.mem_singleton.1 hl] at hprotocol
    exact absurd hprotocol (by decide)
  exact ⟨hstored, by decide, hundeclared, hproblem,
    fun h => hundeclared (h.held_iff.1 hproblem).1⟩

end Configuration

end Gatehouse
