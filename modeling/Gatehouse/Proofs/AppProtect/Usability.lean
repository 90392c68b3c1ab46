import Gatehouse.Proofs.AppProtect.Run

/-!
Which App Protect objects can be used is a matter of what is stored.

After any events the store is that of the objects that were applied last, and an object of it is
looked up by its status. What the statuses of signatures and policies say about the objects
themselves has been shown for the store of any objects that lie under their own keys, and those that
were applied do. So a look-up has an object exactly when it can be used, and an error that names
what is wrong with it otherwise (`usability_of_stored`).
-/

set_option autoImplicit false

namespace Gatehouse

namespace LogConfSpec

/-- Both parts are there, as objects; what they hold is left to the firewall. -/
structure Usable (s : LogConfSpec) : Prop where
  content : s.content.isObject = true
  filter : s.filter.isObject = true

/-- A part is missing, or is something else than an object. Which one it is shows in the message
only and not in the status. -/
inductive Unusable (s : LogConfSpec) : Invalid → Prop
  | missing (h : s.content.isObject = false ∨ s.filter.isObject = false) :
      Unusable s .validationFailed

end LogConfSpec

/-- The status of a log configuration says whether both parts are there. No other object is looked
at. -/
theorem judges_ofLogConf (l : LogConf) :
    Judges (StoredLogConf.ofLogConf l).status l.spec.Usable l.spec.Unusable := by
  -- Which of the two parts is missing does not show in the status.
  have hstatus : (StoredLogConf.ofLogConf l).status =
      if l.spec.content.isObject && l.spec.filter.isObject then none
      else some .validationFailed := by
    simp only [StoredLogConf.ofLogConf, LogConfSpec.missingPart?]
    cases l.spec.content.isObject <;> cases l.spec.filter.isObject <;> rfl
  rw [hstatus]
  refine judges_of (fun h => by simp [h.content, h.filter]) (fun why h => ?_) ?_
  · obtain ⟨h⟩ := h
    rcases h with h | h <;> simp [h]
  · cases hcontent : l.spec.content.isObject with
    | false => exact .inr ⟨_, .missing (.inl hcontent)⟩
    | true =>
      cases hfilter : l.spec.filter.isObject with
      | false => exact .inr ⟨_, .missing (.inr hfilter)⟩
      | true => exact .inl ⟨hcontent, hfilter⟩

namespace AppProtect

/-! ## 1. Look-ups -/

/-- The look-up of an object has it when it can be used, and names what is wrong with it if not. In
this form the three kinds are answered alike. -/
structure Answers (a : AppProtect) (key : String) (o : Object) (usable : Prop)
    (unusable : Invalid → Prop) : Prop where
  found_iff : a.lookup o.kind.name key = .ok o ↔ usable
  refused_iff : ∀ why, a.lookup o.kind.name key = .error (.invalid why) ↔ unusable why

section Lookup

variable {a : AppProtect} {α β : Type} {objects : Table β} {entryOf : β → α}
  {status : α → Option Invalid} {objectOf : α → β} {wrap : β → Object} {kind what key : String}

/-- The status of the entry of an object decides about its look-up. So it is enough to know what the
statuses of a table say of the objects. -/
theorem answers_of_judges {o : β} {usable : Prop} {unusable : Invalid → Prop}
    (hlookup : a.lookup (wrap o).kind.name key =
      (usableEntry (objects.map entryOf) status objectOf what key).map wrap)
    (ho : objects.get? key = some o) (hobject : objectOf (entryOf o) = o)
    (h : Judges (status (entryOf o)) usable unusable) : Answers a key (wrap o) usable unusable := by
  rw [usableEntry, Table.get?_map, ho, Option.map_some] at hlookup
  constructor
  · rw [hlookup, ← h.usable_iff]
    cases hstatus : status (entryOf o) <;> simp [hstatus, hobject, Except.map]
  · intro why
    rw [hlookup, ← h.unusable_iff]
    cases hstatus : status (entryOf o) <;> simp [hstatus, Except.map]

theorem exists_lookup_eq_notFound
    (hlookup : a.lookup kind key =
      (usableEntry (objects.map entryOf) status objectOf what key).map wrap)
    (hnone : objects.get? key = none) : ∃ what, a.lookup kind key = .error (.notFound what key) := by
  rw [hlookup, usableEntry, Table.get?_map, hnone]
  exact ⟨what, rfl⟩

end Lookup

/-- The name of the kind picks the table; the kinds are looked up in the same way. -/
theorem lookup_apPolicy (a : AppProtect) (key : String) :
    a.lookup Kind.apPolicy.name key = (a.policy key).map .apPolicy := if_pos rfl

theorem lookup_apLogConf (a : AppProtect) (key : String) :
    a.lookup Kind.apLogConf.name key = (a.logConf key).map .apLogConf := by
  rw [lookup, if_neg (by decide), if_pos rfl]

theorem lookup_apUserSig (a : AppProtect) (key : String) :
    a.lookup Kind.apUserSig.name key = (a.userSig key).map .apUserSig := by
  rw [lookup, if_neg (by decide), if_neg (by decide), if_pos rfl]

/-! ## 2. Runs -/

/-- The signature is the one that was applied last under some key, and was not deleted since. This
is all that usability looks at, so the order in which signatures came has no part in it. -/
def Stored (events : List Event) (o : ApUserSig) : Prop :=
  ∃ key, latest (.apUserSig, key) events = some (.apUserSig o)

section Run

variable {events : List Event} {key : String}

/-- The stored objects are those that were applied last, for each kind. -/
theorem get?_userSigs_run {o : ApUserSig} :
    (ApObjects.empty.run events).userSigs.get? key = some o ↔
      latest (.apUserSig, key) events = some (.apUserSig o) := by
  rw [← ApObjects.find?_run events (by simp [ApObjects.kinds])]
  simp [ApObjects.find?]

theorem get?_policies_run {p : ApPolicy} :
    (ApObjects.empty.run events).policies.get? key = some p ↔
      latest (.apPolicy, key) events = some (.apPolicy p) := by
  rw [← ApObjects.find?_run events (by simp [ApObjects.kinds])]
  simp [ApObjects.find?]

theorem get?_logConfs_run {l : LogConf} :
    (ApObjects.empty.run events).logConfs.get? key = some l ↔
      latest (.apLogConf, key) events = some (.apLogConf l) := by
  rw [← ApObjects.find?_run events (by simp [ApObjects.kinds])]
  simp [ApObjects.find?]

/-- To be stored is to be in the table of the signatures that there are. -/
theorem stored_eq : Stored events = (· ∈ (ApObjects.empty.run events).userSigs.values) :=
  funext fun _ => propext <| by
    rw [Table.mem_values_iff]
    exact exists_congr fun _ => get?_userSigs_run.symm

/-- Signatures lie under their own keys, which is what the description of the contests asks for. -/
theorem key_of_userSigs_run (key : String) (o : ApUserSig)
    (h : (ApObjects.empty.run events).userSigs.get? key = some o) : o.metadata.key = key :=
  congrArg Prod.snd (place_of_latest (get?_userSigs_run.1 h))

end Run

/-- After any events, what can be used and what is wrong with what cannot is a matter of the objects
that were applied last. A signature can be used when it has a list of signatures, its time of
revision can be read if it has one, and of the stored signatures with its tag of which that holds no
other one is senior, or as old and with a smaller key. A policy can be used when it has a body,
what it asks for is a list if it asks for anything, the bounds in its entries with a tag can be read,
and each of these entries is met by a signature that can be used. A log configuration can be used
when it has both its parts. -/
theorem usability_of_stored (events : List Event) :
    let a := empty.run events
    (∀ key o, latest (.apUserSig, key) events = some (.apUserSig o) →
      Answers a key (.apUserSig o) (Signature.Usable (Stored events) o)
        (Signature.Unusable (Stored events) o)) ∧
    (∀ key p, latest (.apPolicy, key) events = some (.apPolicy p) →
      Answers a key (.apPolicy p) (p.spec.Usable (Stored events))
        (p.spec.Unusable (Stored events))) ∧
    (∀ key l, latest (.apLogConf, key) events = some (.apLogConf l) →
      Answers a key (.apLogConf l) l.spec.Usable l.spec.Unusable) ∧
    ∀ kind ∈ ApObjects.kinds, ∀ key, latest (kind, key) events = none →
      ∃ what, a.lookup kind.name key = .error (.notFound what key) := by
  intro a
  have hstore : a = ofObjects (ApObjects.empty.run events) := run_eq_ofObjects events
  rw [stored_eq, hstore]
  refine ⟨fun key o h => ?_, fun key p h => ?_, fun key l h => ?_, fun kind hkind key h => ?_⟩
  · have ho := get?_userSigs_run.2 h
    exact answers_of_judges (lookup_apUserSig _ key) ho (Signature.object_judged _ o)
      (Signature.judges_judged key_of_userSigs_run (Table.mem_values_iff.2 ⟨key, ho⟩))
  · exact answers_of_judges (lookup_apPolicy _ key) (get?_policies_run.2 h) rfl
      (StoredPolicy.judges_ofPolicy key_of_userSigs_run p)
  · exact answers_of_judges (lookup_apLogConf _ key) (get?_logConfs_run.2 h) rfl
      (judges_ofLogConf l)
  · -- Nothing stored under the place: each table answers that it has no such entry.
    have hnone : (ApObjects.empty.run events).find? (kind, key) = none := by
      rw [ApObjects.find?_run events hkind, h]
    simp only [ApObjects.kinds, List.mem_cons, List.not_mem_nil, or_false] at hkind
    rcases hkind with rfl | rfl | rfl
    · exact exists_lookup_eq_notFound (lookup_apPolicy _ key) (Option.map_eq_none_iff.1 hnone)
    · exact exists_lookup_eq_notFound (lookup_apLogConf _ key) (Option.map_eq_none_iff.1 hnone)
    · exact exists_lookup_eq_notFound (lookup_apUserSig _ key) (Option.map_eq_none_iff.1 hnone)

/-- A signature with the tag `bots` and without a time of revision. -/
def plainSignature (name : String) (created : Int) : ApUserSig :=
  ⟨{ Meta.blank with space := some "shop", name := some name, created := some ⟨created, 0⟩ },
    ⟨.arr [], some "bots", none⟩⟩

/-- The younger one of two signatures with the same tag cannot be used until the senior one is
gone. -/
theorem successor_is_usable :
    let both : List Event :=
      [.apply (.apUserSig (plainSignature "new" 20)), .apply (.apUserSig (plainSignature "old" 10))]
    let alone := both ++ [.delete .apUserSig "shop/old"]
    (empty.run both).lookup "APUserSig" "shop/new" = .error (.invalid .duplicateTag) ∧
      (empty.run alone).lookup "APUserSig" "shop/new" =
        .ok (.apUserSig (plainSignature "new" 20)) := by
  intro both alone
  obtain ⟨hboth, -, -, -⟩ := usability_of_stored both
  obtain ⟨halone, -, -, -⟩ := usability_of_stored alone
  have hwell : ∀ name created, Signature.WellFormed (plainSignature name created) :=
    fun name created => ⟨rfl, fun text h => nomatch h⟩
  have htag : ∀ name created, Signature.HasTag (plainSignature name created) "bots" :=
    fun name created => ⟨rfl, by decide⟩
  constructor
  · refine ((hboth "shop/new" (plainSignature "new" 20) rfl).refused_iff _).2 ?_
    exact .preceded (hwell _ _) "bots" (htag _ _) (plainSignature "old" 10) ⟨"shop/old", rfl⟩
      (hwell _ _) (htag _ _) (.inl (by decide))
  · refine (halone "shop/new" (plainSignature "new" 20) rfl).found_iff.2 ⟨hwell _ _, ?_⟩
    rintro tag - r ⟨key, hr⟩ - - hprecedes
    -- the other signature is gone, so the one that is stored is this one
    have hkeys : (plainSignature "new" 20).metadata.key = "shop/new" ∧
        (plainSignature "old" 10).metadata.key = "shop/old" := by decide
    simp only [alone, both, List.cons_append, List.nil_append, latest, List.foldl, Event.place,
      Event.object?, placeOf, Object.kind, Object.metadata, hkeys, reduceCtorEq, if_false,
      Prod.mk.injEq, true_and] at hr
    split_ifs at hr
    obtain rfl := Object.apUserSig.inj (Option.some.inj hr)
    exact lt_irrefl _ (Meta.precedes_iff.1 hprecedes)

end AppProtect

end Gatehouse
