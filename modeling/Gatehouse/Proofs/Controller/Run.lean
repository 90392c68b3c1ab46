import Gatehouse.Controller
import Gatehouse.Proofs.AppProtect.Run
import Gatehouse.Proofs.Configuration.Run
import Gatehouse.Proofs.Dos.Run
import Gatehouse.Proofs.Key

/-!
Runs of a controller.

A message about an object is an event for each of the three stores, and a store lets pass what is
not of its kinds. Only a global configuration that does not count is kept from them. So after any
messages the stores are those that have seen the same events (`exists_events`), and what has been
shown of runs of each store holds of the controller.
-/

set_option autoImplicit false

namespace Gatehouse

/-! ## 1. Messages -/

/-- What a controller is told about an object. One that is gone is known by its namespace and its
name. -/
inductive Message
  | apply (o : Object)
  | delete (kind : Kind) (space name : String)

/-- What a message says to the stores. -/
def Message.event : Message → Event
  | .apply o => .apply o
  | .delete kind space name => .delete kind (joinKey space name)

/-- The message is about a global configuration, and not about the one of the namespace and the
name. -/
def Message.isOther (space name : String) : Message → Bool
  | .apply (.globalConfiguration g) =>
    !(g.metadata.space == some space && g.metadata.name == some name)
  | .delete .globalConfiguration s n => !(s == space && n == name)
  | _ => false

namespace Controller

/-- What a message leads to. -/
def receive (c : Controller) : Message → Outcome
  | .apply o => c.apply o
  | .delete kind space name => c.delete kind space name

/-- The object that one of the stores has at a place. -/
def find? (c : Controller) (place : Place) : Option Object :=
  c.configuration.store.find? place <|> c.appProtect.find? place <|> c.dos.find? place

/-- The message is about a global configuration that does not count. Without a key that was set up,
none counts. -/
def ignores (c : Controller) : Message → Bool
  | .apply (.globalConfiguration g) => !c.counts g.metadata.key
  | .delete .globalConfiguration space name => !c.counts (joinKey space name)
  | _ => false

/-- The controller when each of its stores has seen an event. -/
def after (c : Controller) (e : Event) : Controller :=
  { c with
    configuration := (c.configuration.step e).1
    appProtect := c.appProtect.step e
    dos := (c.dos.step e).1 }

/-- A message is an event for each store, unless it is ignored. What the stores answer does not
matter for what comes next. -/
theorem fst_receive (c : Controller) (m : Message) :
    (c.receive m).1 = if c.ignores m then c else c.after m.event := by
  rcases m with o | ⟨kind, space, name⟩
  · cases o with
    | globalConfiguration g =>
      by_cases hcounts : c.counts g.metadata.key
      · simp only [receive, apply, applyGlobalConfiguration, ignores, hcounts]
        rfl
      · simp [receive, apply, applyGlobalConfiguration, ignores, hcounts]
    | _ => rfl
  · cases kind with
    | globalConfiguration =>
      by_cases hcounts : c.counts (joinKey space name)
      · simp only [receive, delete, ignores, hcounts]
        rfl
      · simp [receive, delete, ignores, hcounts]
    | _ => rfl

/-- A message that is ignored is not about an object of the firewalls either. -/
theorem appProtect_receive (c : Controller) (m : Message) :
    (c.receive m).1.appProtect = c.appProtect.step m.event := by
  rw [fst_receive, apply_ite Controller.appProtect]
  rcases m with o | ⟨kind, space, name⟩
  · cases o <;> first | rfl | exact ite_self _
  · cases kind <;> first | rfl | exact ite_self _

/-- Nor of the DoS module. -/
theorem dos_receive (c : Controller) (m : Message) :
    (c.receive m).1.dos = (c.dos.step m.event).1 := by
  rw [fst_receive, apply_ite Controller.dos]
  rcases m with o | ⟨kind, space, name⟩
  · cases o <;> first | rfl | exact ite_self _
  · cases kind <;> first | rfl | exact ite_self _

/-! ## 2. Runs -/

/-- The controller after some messages. -/
def run (c : Controller) (messages : List Message) : Controller :=
  messages.foldl (fun c m => (c.receive m).1) c

theorem run_append (c : Controller) (messages : List Message) (m : Message) :
    c.run (messages ++ [m]) = ((c.run messages).receive m).1 := by
  simp [run]

/-- The controller whose stores have seen the events. They know nothing of each other, so each runs
by itself. -/
def ofEvents (className : String) (f : Features) (globalKey : Option String)
    (events : List Event) : Controller where
  configuration := (Configuration.fresh f (.checked className f)).run events
  appProtect := AppProtect.empty.run events
  dos := (Dos.fresh f.appProtectDosEnabled).run events
  globalKey := globalKey

theorem ofEvents_append (className : String) (f : Features) (globalKey : Option String)
    (events : List Event) (e : Event) :
    ofEvents className f globalKey (events ++ [e]) =
      (ofEvents className f globalKey events).after e := by
  simp only [ofEvents, after, Configuration.run_append, AppProtect.run_append, Dos.run_append]

/-- After any messages the stores have seen the same events. These are those of the messages, less
the ones that were ignored. -/
theorem exists_events (className : String) (f : Features) (globalKey : Option String)
    (messages : List Message) :
    ∃ events, events.Sublist (messages.map Message.event) ∧
      (fresh className f globalKey).run messages = ofEvents className f globalKey events := by
  induction messages using List.reverseRecOn with
  | nil => exact ⟨[], .slnil, rfl⟩
  | append_singleton messages m ih =>
    obtain ⟨events, hsub, hevents⟩ := ih
    rw [run_append, fst_receive, hevents, List.map_append]
    -- what is ignored is no event for any store
    split
    · exact ⟨events, hsub.trans (List.sublist_append_left ..), rfl⟩
    · exact ⟨events ++ [m.event], hsub.append_right _, (ofEvents_append ..).symm⟩

/-- What the stores have was applied there last. A place belongs to one of the three stores, which
is asked. -/
theorem latest_of_find? {className : String} {f : Features} {globalKey : Option String}
    {events : List Event} {place : Place} {o : Object}
    (h : (ofEvents className f globalKey events).find? place = some o) :
    latest place events = some o := by
  rw [find?, Option.orElse_eq_some, Option.orElse_eq_some] at h
  obtain h | ⟨-, h | ⟨-, h⟩⟩ := h
  · exact (Configuration.of_find?_run place o h).1
  · have hkind : place.1 ∈ ApObjects.kinds := by
      obtain ⟨kind, key⟩ := place
      cases kind <;> first | cases h | simp [ApObjects.kinds]
    exact (AppProtect.find?_run events hkind).symm.trans h
  · have hkind : place.1 ∈ Dos.kinds := by
      obtain ⟨kind, key⟩ := place
      cases kind <;> first | cases h | simp [Dos.kinds]
    exact (Dos.find?_run hkind).symm.trans h

/-- A controller only has objects that it was told of. It makes none up, and changes none. -/
theorem apply_mem_of_find? {className : String} {f : Features} {globalKey : Option String}
    {messages : List Message} {place : Place} {o : Object}
    (h : ((fresh className f globalKey).run messages).find? place = some o) :
    .apply o ∈ messages := by
  obtain ⟨events, hsub, hevents⟩ := exists_events className f globalKey messages
  rw [hevents] at h
  obtain ⟨m, hm, hevent⟩ := List.mem_map.1 (hsub.subset (mem_of_latest (latest_of_find? h)))
  cases m with
  | apply o' =>
    obtain rfl := Event.apply.inj hevent
    exact hm
  | delete => cases hevent

/-! ## 3. The global configuration that counts -/

section Counts

variable {c : Controller} {space name : String}

/-- Of all global configurations, also those with parts missing or with slashes in them, the one of
the namespace and the name counts. -/
theorem counts_key_iff (hspace : IsKeyPart space) (hname : IsKeyPart name)
    (hkey : c.globalKey = some (joinKey space name)) {m : Meta} :
    c.counts m.key = true ↔ m.space = some space ∧ m.name = some name := by
  rw [counts, hkey, beq_iff_eq, Option.some.injEq, eq_comm, Meta.key,
    joinKey_eq_joinKey_iff hspace.slash_notMem hname.slash_notMem, Meta.spaceOrEmpty,
    Option.getD_eq_iff, Option.getD_eq_iff, or_iff_left fun h => hspace.ne_empty h.2.symm,
    or_iff_left fun h => hname.ne_empty h.2.symm]

/-- Of those that are gone, which are known by their two names, it is the same. -/
theorem counts_joinKey_iff (hspace : IsKeyPart space) (hname : IsKeyPart name)
    (hkey : c.globalKey = some (joinKey space name)) {s n : String} :
    c.counts (joinKey s n) = true ↔ s = space ∧ n = name := by
  rw [counts, hkey, beq_iff_eq, Option.some.injEq, eq_comm,
    joinKey_eq_joinKey_iff hspace.slash_notMem hname.slash_notMem]

/-- So exactly the messages about other global configurations are ignored. Nothing but the kind and
the key of a message is looked at for it. -/
theorem ignores_eq_isOther (hspace : IsKeyPart space) (hname : IsKeyPart name)
    (hkey : c.globalKey = some (joinKey space name)) (m : Message) :
    c.ignores m = m.isOther space name := by
  rcases m with o | ⟨kind, s, n⟩
  · cases o with
    | globalConfiguration g =>
      rw [ignores, Message.isOther, Bool.not_inj_iff, Bool.eq_iff_iff,
        counts_key_iff hspace hname hkey, Bool.and_eq_true, beq_iff_eq, beq_iff_eq]
    | _ => rfl
  · cases kind with
    | globalConfiguration =>
      rw [ignores, Message.isOther, Bool.not_inj_iff, Bool.eq_iff_iff,
        counts_joinKey_iff hspace hname hkey, Bool.and_eq_true, beq_iff_eq, beq_iff_eq]
    | _ => rfl

/-- After any messages the stores have seen all of them but those about other global
configurations. -/
theorem run_eq_ofEvents (hspace : IsKeyPart space) (hname : IsKeyPart name) (className : String)
    (f : Features) (messages : List Message) :
    (fresh className f (some (joinKey space name))).run messages =
      ofEvents className f (some (joinKey space name))
        ((messages.filter (!·.isOther space name)).map Message.event) := by
  induction messages using List.reverseRecOn with
  | nil => rfl
  | append_singleton messages m ih =>
    rw [run_append, ih, fst_receive, ignores_eq_isOther hspace hname rfl, List.filter_append]
    cases hother : m.isOther space name with
    | true => simp [hother]
    | false => simp [hother, ofEvents_append]

end Counts

end Controller

end Gatehouse
