import Gatehouse.Proofs.Validation.TransportServer

/-!
Which global configurations are accepted, and which repetitions are reported in the others.

The listeners of an accepted one are free of conflicts: each of them has a name, a port and a
protocol that a listener may have, and no two have the same name or the same port (`ListenersOk`).

A repetition is reported at the later one of two listeners, and only for a name or a port that could
be declared otherwise (`LooksBack`). So it is enough to remember the names and ports with which
nothing else is wrong, and to look for repetitions among these: a name that a listener may have is
the same as one before it exactly when it is the same as one that is remembered. The loop that does
this is `rememberingErrors`; what carries the induction is that it has remembered exactly the names
and ports of earlier listeners that can be declared (`Taken.Remembers`).
-/

set_option autoImplicit false

namespace Gatehouse.Validation

open Format

/-! ## 1. Checks for repetitions -/

/-- A check of a value that looks for it among earlier values only when nothing else is wrong with
it: a value in order is at most reported as a repetition, and what is reported of another one, which
is something else, does not depend on the earlier values. -/
inductive LooksBack {α : Type} [DecidableEq α] (ok : Prop) (a : α) (path : Path) (value : BadValue)
    (check : List α → List FieldError) : Prop
  | inOrder (hok : ok)
      (hcheck : ∀ earlier, check earlier = if a ∈ earlier then [.duplicate path value] else [])
  | wrong (hwrong : ¬ok) (errors : List FieldError) (hne : errors ≠ [])
      (hother : ∀ place shown, .duplicate place shown ∉ errors)
      (hcheck : ∀ earlier, check earlier = errors)

namespace LooksBack

variable {α : Type} [DecidableEq α] {ok : Prop} {a : α} {path : Path} {value : BadValue}
  {check : List α → List FieldError} {earlier : List α}

/-- Such a check has no errors when the value is in order and new. -/
theorem eq_nil_iff (h : LooksBack ok a path value check) :
    check earlier = [] ↔ ok ∧ a ∉ earlier := by
  cases h with
  | inOrder hok hcheck => rw [hcheck, ite_singleton_eq_nil_iff, and_iff_right hok]
  | wrong hwrong errors hne _ hcheck =>
    rw [hcheck]
    exact iff_of_false hne fun h => hwrong h.1

/-- It reports a repetition when the value is in order and not new. -/
theorem duplicate_mem_iff (h : LooksBack ok a path value check) {place : Path} {shown : BadValue} :
    .duplicate place shown ∈ check earlier ↔ (ok ∧ a ∈ earlier) ∧ place = path ∧ shown = value := by
  cases h with
  | inOrder hok hcheck =>
    rw [hcheck, and_iff_right hok]
    by_cases ha : a ∈ earlier
    · simp [ha]
    · simp [ha]
  | wrong hwrong errors _ hother hcheck =>
    rw [hcheck]
    exact iff_of_false (hother place shown) fun h => hwrong h.1.1

/-- It only matters whether a value in order is among the earlier ones. Values that are wrong may be
left out of the list, then. -/
theorem congr (h : LooksBack ok a path value check) {as bs : List α}
    (hsame : ok → (a ∈ as ↔ a ∈ bs)) : check as = check bs := by
  cases h with
  | inOrder hok hcheck => simp only [hcheck, hsame hok]
  | wrong _ errors _ _ hcheck => rw [hcheck, hcheck]

end LooksBack

/-! ## 2. One listener -/

/-- A name that a declared listener may have: a label, but not the name of the built-in listener. -/
@[mk_iff]
structure IsListenerName (name : String) : Prop where
  label : IsLabel name
  notBuiltIn : name ≠ ListenerRef.passthroughName

/-- A port that a declared listener may have. Some ports are kept for the proxy itself. -/
@[mk_iff]
structure IsListenerPort (f : Features) (port : Int) : Prop where
  least : 1 ≤ port
  greatest : port ≤ 65535
  allowed : port ∉ f.forbiddenListenerPorts

/-- A listener that can be declared where no other one is. Its name and port may still be taken by a
listener before it, which is not a fault of its own. -/
@[mk_iff]
structure ListenerOk (f : Features) (l : Listener) : Prop where
  name : IsListenerName l.name
  port : IsListenerPort f l.port.val
  protocol : l.protocol = "TCP" ∨ l.protocol = "UDP"

section Listener

variable {f : Features} {path : Path}

/-- What is wrong with a name as a label is never that it is a repetition. -/
theorem duplicate_notMem_labelErrors {name : String} {place : Path} {shown : BadValue} :
    .duplicate place shown ∉ labelErrors path name := by
  rw [labelErrors]
  split
  · simp
  · simp [invalidTexts]

/-- The check of a name looks back in this sense. -/
theorem looksBack_listenerName (path : Path) (name : String) :
    LooksBack (IsListenerName name) name path (.text name)
      fun earlier => listenerNameErrors path earlier name := by
  -- A reserved name or a bad label is wrong wherever it stands; only a good name looks back.
  by_cases hbuiltin : name = ListenerRef.passthroughName
  · refine .wrong (fun h => h.notBuiltIn hbuiltin) [.forbidden path "reserved name"] (by simp)
      (by simp) fun earlier => ?_
    rw [listenerNameErrors, if_pos (by simpa using hbuiltin)]
  by_cases hlabel : IsLabel name
  · refine .inOrder ⟨hlabel, hbuiltin⟩ fun earlier => ?_
    rw [listenerNameErrors, if_neg (by simpa using hbuiltin), uniqueLabelErrors,
      labelErrors_eq_nil_iff.2 hlabel]
    simp only [List.contains_eq_mem, decide_eq_true_eq]
  · have hne : labelErrors path name ≠ [] := fun h => hlabel (labelErrors_eq_nil_iff.1 h)
    refine .wrong (fun h => hlabel h.label) _ hne (fun _ _ => duplicate_notMem_labelErrors)
      fun earlier => ?_
    rw [listenerNameErrors, if_neg (by simpa using hbuiltin), uniqueLabelErrors]
    split
    · exact absurd ‹labelErrors path name = []› hne
    · rfl

/-- And so does that of a port. -/
theorem looksBack_listenerPort (f : Features) (path : Path) (port : Int) :
    LooksBack (IsListenerPort f port) port path (.number port)
      fun earlier => listenerPortErrors f path earlier port := by
  -- As for the name: out of range and forbidden do not depend on the ports before.
  by_cases hport : isPort port = true
  · have hrange := isPort_eq_true_iff.1 hport
    by_cases hforbidden : port ∈ f.forbiddenListenerPorts
    · refine .wrong (fun h => h.allowed hforbidden)
        [.forbidden path ("port " ++ toString port ++ " is forbidden")] (by simp) (by simp)
        fun earlier => ?_
      rw [listenerPortErrors, if_neg (by simp [hport]), if_pos (by simpa using hforbidden)]
    · refine .inOrder ⟨hrange.1, hrange.2, hforbidden⟩ fun earlier => ?_
      rw [listenerPortErrors, if_neg (by simp [hport]), if_neg (by simpa using hforbidden)]
      simp only [List.contains_eq_mem, decide_eq_true_eq]
  · refine .wrong (fun h => hport (isPort_eq_true_iff.2 ⟨h.least, h.greatest⟩))
      (portErrors path port) ?_ ?_ fun earlier => ?_
    · rwa [ne_eq, portErrors_eq_nil_iff, ← isPort_eq_true_iff]
    · simp [portErrors, hport]
    · rw [listenerPortErrors, if_pos (by simpa using hport)]

/-- Nothing is wrong with a listener when it can be declared and does not repeat the name or the
port of one before it. The protocol is checked by itself. -/
theorem listenerErrors_eq_nil_iff {earlier : List Listener} {i : Nat} {l : Listener} :
    listenerErrors f path earlier i l = [] ↔
      ListenerOk f l ∧ ∀ k ∈ earlier, k.name ≠ l.name ∧ k.port.val ≠ l.port.val := by
  rw [listenerErrors, List.append_eq_nil_iff, List.append_eq_nil_iff,
    (looksBack_listenerName _ _).eq_nil_iff, (looksBack_listenerPort _ _ _).eq_nil_iff,
    protocolErrors_eq_nil_iff, listenerOk_iff, List.mem_map, List.mem_map]
  constructor
  · rintro ⟨⟨⟨hname, hnew⟩, hport, hfree⟩, hprotocol⟩
    exact ⟨⟨hname, hport, hprotocol⟩, fun k hk =>
      ⟨fun heq => hnew ⟨k, hk, heq⟩, fun heq => hfree ⟨k, hk, heq⟩⟩⟩
  · rintro ⟨⟨hname, hport, hprotocol⟩, hearlier⟩
    refine ⟨⟨⟨hname, ?_⟩, hport, ?_⟩, hprotocol⟩
    · rintro ⟨k, hk, heq⟩
      exact (hearlier k hk).1 heq
    · rintro ⟨k, hk, heq⟩
      exact (hearlier k hk).2 heq

end Listener

/-! ## 3. All listeners -/

/-- Listeners that can be declared together: each can be declared, and no two have the same name or
the same port. -/
@[mk_iff]
structure ListenersOk (f : Features) (listeners : List Listener) : Prop where
  each : ∀ l ∈ listeners, ListenerOk f l
  names : (listeners.map (·.name)).Nodup
  ports : (listeners.map (·.port.val)).Nodup

/-- The verdict about a global configuration: its listeners can be declared together. -/
theorem globalConfigurationErrors_eq_nil_iff {f : Features} {g : GlobalConfiguration} :
    globalConfigurationErrors f g = [] ↔ ListenersOk f g.spec.listeners := by
  have hcheck : ∀ earlier i l, (∀ k ∈ earlier, ListenerOk f k) →
      (listenerErrors f ((Path.top "spec").child "listeners") earlier i l = [] ↔
        ListenerOk f l ∧ ∀ k ∈ earlier, k.name ≠ l.name ∧ k.port.val ≠ l.port.val) :=
    fun _ _ _ _ => listenerErrors_eq_nil_iff
  rw [globalConfigurationErrors, checkEach_eq_nil_iff_pairwise hcheck, List.pairwise_and_iff,
    listenersOk_iff, List.Nodup, List.Nodup, List.pairwise_map, List.pairwise_map]

instance (f : Features) (listeners : List Listener) : Decidable (ListenersOk f listeners) :=
  decidable_of_iff _ (@globalConfigurationErrors_eq_nil_iff f ⟨Meta.blank, ⟨listeners⟩⟩)

-- the same port under two names is a conflict, also for two protocols
example :
    let dns := { name := "dns", port := ⟨53, by decide⟩, protocol := "UDP" }
    let log := { name := "log", port := ⟨514, by decide⟩, protocol := "UDP" }
    ListenersOk .none [dns, log] ∧
      ¬ListenersOk .none [dns, log, { dns with name := "dns-tcp", protocol := "TCP" }] := by
  decide +kernel

section Accepted

variable {f : Features} {g : GlobalConfiguration} {l : Listener}

/-- What an accepted listener has for a port. The plans read ports without checking them again. -/
theorem port_of_globalConfigurationErrors (h : globalConfigurationErrors f g = [])
    (hl : l ∈ g.spec.listeners) :
    1 ≤ l.port.val ∧ l.port.val ≤ 65535 ∧ l.port.val ∉ f.forbiddenListenerPorts := by
  have hport := ((globalConfigurationErrors_eq_nil_iff.1 h).each l hl).port
  exact ⟨hport.least, hport.greatest, hport.allowed⟩

/-- The built-in listener has another protocol than all declared ones. -/
theorem protocol_of_globalConfigurationErrors (h : globalConfigurationErrors f g = [])
    (hl : l ∈ g.spec.listeners) : l.protocol ≠ ListenerRef.passthroughProtocol := by
  rcases ((globalConfigurationErrors_eq_nil_iff.1 h).each l hl).protocol with htcp | hudp
  · rw [htcp]
    decide
  · rw [hudp]
    decide

end Accepted

/-! ## 4. Repetitions -/

/-- A listener repeats a name or a port of the listeners before it: the place and the value of what
it repeats. -/
inductive Repeats (f : Features) (list : Path) (before : List Listener) (l : Listener) :
    Path → BadValue → Prop
  | name (hname : IsListenerName l.name) (hearlier : l.name ∈ before.map (·.name)) :
      Repeats f list before l ((list.index before.length).child "name") (.text l.name)
  | port (hport : IsListenerPort f l.port.val) (hearlier : l.port.val ∈ before.map (·.port.val)) :
      Repeats f list before l ((list.index before.length).child "port") (.number l.port.val)

section Repetitions

variable {f : Features} {path place : Path} {value : BadValue}

theorem duplicate_notMem_protocolErrors {protocol : String} :
    .duplicate place value ∉ protocolErrors path protocol := by
  rw [protocolErrors]
  split_ifs <;> simp

/-- The repetitions that are reported of a listener are those of its name and of its port. -/
theorem duplicate_mem_listenerErrors_iff {before : List Listener} {l : Listener} :
    .duplicate place value ∈ listenerErrors f path before before.length l ↔
      Repeats f path before l place value := by
  rw [listenerErrors, List.mem_append, List.mem_append,
    (looksBack_listenerName _ _).duplicate_mem_iff, (looksBack_listenerPort _ _ _).duplicate_mem_iff,
    or_iff_left duplicate_notMem_protocolErrors]
  constructor
  · rintro (⟨⟨hname, hearlier⟩, rfl, rfl⟩ | ⟨⟨hport, hearlier⟩, rfl, rfl⟩)
    · exact .name hname hearlier
    · exact .port hport hearlier
  · intro h
    cases h with
    | name hname hearlier => exact .inl ⟨⟨hname, hearlier⟩, rfl, rfl⟩
    | port hport hearlier => exact .inr ⟨⟨hport, hearlier⟩, rfl, rfl⟩

end Repetitions

/-! ## 5. Remembering names and ports -/

/-- The names and the ports that are taken. They are two lists, as a listener may take one of them
only. -/
structure Taken where
  names : List String
  ports : List Int

/-- A listener takes its name and its port, each of them only if nothing is wrong with it; its
protocol does not matter. -/
def Taken.add (f : Features) (t : Taken) (l : Listener) : Taken where
  names := if l.name ≠ ListenerRef.passthroughName ∧ labelComplaints l.name = [] then
    l.name :: t.names else t.names
  ports := if isPort l.port.val ∧ l.port.val ∉ f.forbiddenListenerPorts then
    l.port.val :: t.ports else t.ports

/-- The errors of listeners from an index on, each checked against what is taken by then. -/
def rememberingErrors (f : Features) (list : Path) : Taken → Nat → List Listener → List FieldError
  | _, _, [] => []
  | t, i, l :: ls =>
    listenerNameErrors ((list.index i).child "name") t.names l.name ++
    listenerPortErrors f ((list.index i).child "port") t.ports l.port.val ++
    protocolErrors ((list.index i).child "protocol") l.protocol ++
    rememberingErrors f list (t.add f l) (i + 1) ls

/-- What is taken are the names and the ports of earlier listeners that a listener may have. This
carries the induction on the rest of the listeners. -/
structure Taken.Remembers (f : Features) (t : Taken) (earlier : List Listener) : Prop where
  names : ∀ name, name ∈ t.names ↔ IsListenerName name ∧ name ∈ earlier.map (·.name)
  ports : ∀ port, port ∈ t.ports ↔ IsListenerPort f port ∧ port ∈ earlier.map (·.port.val)

section Remembering

variable {f : Features} {path : Path} {t : Taken} {earlier : List Listener}

/-- One more value, which is kept when it is in order. -/
theorem mem_kept_iff {α : Type} {Ok : α → Prop} {kept earlier : List α} {a : α} {cond : Prop}
    [Decidable cond] (hcond : cond ↔ Ok a) (h : ∀ x, x ∈ kept ↔ Ok x ∧ x ∈ earlier) (x : α) :
    x ∈ (if cond then a :: kept else kept) ↔ Ok x ∧ x ∈ earlier ++ [a] := by
  rw [List.mem_append, List.mem_singleton]
  by_cases ha : cond
  · rw [if_pos ha, List.mem_cons, h]
    constructor
    · rintro (rfl | ⟨hok, hx⟩)
      · exact ⟨hcond.1 ha, .inr rfl⟩
      · exact ⟨hok, .inl hx⟩
    · rintro ⟨hok, hx | rfl⟩
      · exact .inr ⟨hok, hx⟩
      · exact .inl rfl
  · -- A listener that is not remembered is wrong, so it was not among the good ones.
    rw [if_neg ha, h]
    refine and_congr_right fun hok => (or_iff_left ?_).symm
    rintro rfl
    exact ha (hcond.2 hok)

/-- One more listener is remembered by the part of it that is in order. -/
theorem Taken.Remembers.add (h : t.Remembers f earlier) (l : Listener) :
    (t.add f l).Remembers f (earlier ++ [l]) where
  names name := by
    rw [List.map_append, List.map_singleton]
    refine mem_kept_iff ?_ h.names name
    rw [isListenerName_iff, labelComplaints_eq_nil_iff, and_comm]
  ports port := by
    rw [List.map_append, List.map_singleton]
    refine mem_kept_iff ?_ h.ports port
    rw [isListenerPort_iff, isPort_eq_true_iff, and_assoc]

/-- Looking for repetitions among what is remembered gives what looking for them among all earlier
listeners gives. The index is the number of the earlier ones. -/
theorem rememberingErrors_eq (h : t.Remembers f earlier) (listeners : List Listener) :
    rememberingErrors f path t earlier.length listeners =
      checkEach (listenerErrors f path) earlier listeners := by
  induction listeners generalizing t earlier with
  | nil => rfl
  | cons l ls ih =>
    have hrest := ih (h.add l)
    rw [List.length_append, List.length_singleton] at hrest
    rw [rememberingErrors, checkEach, listenerErrors, hrest,
      (looksBack_listenerName _ _).congr fun hname => (h.names _).trans (and_iff_right hname),
      (looksBack_listenerPort _ _ _).congr fun hport => (h.ports _).trans (and_iff_right hport)]

theorem remembers_nothing : Taken.Remembers f ⟨[], []⟩ [] :=
  ⟨fun _ => by simp, fun _ => by simp⟩

end Remembering

/-! ## 6. Global configurations -/

/-- The verdict is right, and repetitions are reported where they are. Whatever features there are,
the errors of a global configuration are those that remembering names and ports gives. There are
none exactly when its listeners can be declared together, and those about a repetition are exactly
the ones about a name or a port that a listener may have and that an earlier listener has. -/
theorem listeners_accepted_iff (f : Features) (g : GlobalConfiguration) :
    let list := (Path.top "spec").child "listeners"
    globalConfigurationErrors f g = rememberingErrors f list ⟨[], []⟩ 0 g.spec.listeners ∧
      (globalConfigurationErrors f g = [] ↔ ListenersOk f g.spec.listeners) ∧
      ∀ place value, .duplicate place value ∈ globalConfigurationErrors f g ↔
        ∃ before l after, g.spec.listeners = before ++ l :: after ∧
          Repeats f list before l place value := by
  refine ⟨(rememberingErrors_eq remembers_nothing _).symm, globalConfigurationErrors_eq_nil_iff,
    fun place value => ?_⟩
  rw [globalConfigurationErrors, mem_checkEach_iff]
  simp only [List.nil_append, duplicate_mem_listenerErrors_iff]

end Gatehouse.Validation
