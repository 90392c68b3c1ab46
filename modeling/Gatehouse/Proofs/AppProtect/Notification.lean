import Gatehouse.Proofs.AppProtect.Copy
import Gatehouse.Proofs.Resource

/-!
What the owners of signatures and policies are told when a signature comes or goes.

Of the signatures, those are told that can be used when the contests for the tags begin and are
marked by them (`mem_beaten_iff`). Whoever has lost its tag before is marked already, so it is not
told again, and one that is stored is not marked yet, so it is told when it loses. Of the policies,
those are told that are lost. Nobody is told twice, since every object lies under its own key.
-/

set_option autoImplicit false

namespace Gatehouse

/-! ## 1. Signatures that lose their tags -/

namespace Signature

section Beaten

variable {stored : Table Signature}

/-- Those that contend for a tag are listed once for it, in the order of seniority. -/
theorem mem_contenders_iff {tag : String} {s : Signature} :
    s ∈ contenders stored tag ↔ s ∈ stored.values ∧ s.contends = true ∧ s.tag = tag := by
  rw [contenders, mem_bySeniority_iff, List.mem_filter, Bool.and_eq_true, beq_iff_eq]

/-- There is a contest for every tag that someone contends for. -/
theorem mem_tags_iff {tag : String} :
    tag ∈ tags stored ↔ ∃ s ∈ stored.values, s.contends = true ∧ s.tag = tag := by
  have hmem : (tag, ()) ∈ ((stored.values.filter contends).map fun s => (s.tag, ())) ↔
      ∃ s ∈ stored.values, s.contends = true ∧ s.tag = tag := by
    simp [and_assoc]
  rw [tags, Table.mem_keys_iff, ← hmem]
  exact ⟨fun ⟨_, h⟩ => Table.mem_of_get?_ofList h, Table.exists_get?_ofList⟩

/-- A usable signature is marked when it contends for a tag and does not hold it. -/
theorem status_decided_iff {s : Signature} (husable : s.isUsable = true) :
    (decided stored s).status = some .duplicateTag ↔
      s.contends = true ∧ holdsTag stored s = false := by
  have hstatus : s.status = none := by simpa [isUsable] using husable
  rw [decided]
  cases s.contends with
  | false => simp [hstatus]
  | true => cases holdsTag stored s <;> simp [husable]

/-- A signature that has just been stored is not malformed when it is marked. -/
theorem isUsable_of_decided_ofObject {o : ApUserSig}
    (h : (decided stored (ofObject o)).status = some .duplicateTag) :
    (ofObject o).isUsable = true := by
  rcases wellFormed_or_malformed o with hwell | ⟨why, hwhy⟩
  · rw [ofObject_of_wellFormed hwell]
    rfl
  · -- one that is malformed has no tag to contend for
    rw [ofObject_of_malformed hwhy, decided] at h
    cases hwhy <;> simp [contends, malformed] at h

@[simp] theorem object_decided (s : Signature) : (decided stored s).object = s.object := by
  rw [decided]
  split_ifs <;> rfl

variable (hkeys : ∀ key s, stored.get? key = some s → s.metadata.key = key)

include hkeys

theorem nodup_keys_contenders (tag : String) :
    ((contenders stored tag).map fun s => s.metadata.key).Nodup := by
  refine ((bySeniority_perm _).map _).nodup_iff.2 ?_
  exact (Table.nodup_map_values hkeys).sublist (List.filter_sublist.map _)

/-- Behind the first of the contenders are those that do not hold the tag. The first one holds
it. -/
theorem mem_tail_contenders_iff {s : Signature} :
    s ∈ (contenders stored s.tag).tail ↔
      s ∈ contenders stored s.tag ∧ holdsTag stored s = false := by
  have hnodup := nodup_keys_contenders hkeys s.tag
  rw [holdsTag]
  cases hlist : contenders stored s.tag with
  | nil => simp
  | cons first rest =>
    rw [hlist, List.map_cons, List.nodup_cons] at hnodup
    rw [List.tail_cons, List.head?_cons, Option.any_some, beq_eq_false_iff_ne]
    -- behind the first one there is nothing with its key
    constructor
    · intro hin
      exact ⟨List.mem_cons_of_mem _ hin,
        fun heq => hnodup.1 (heq ▸ List.mem_map_of_mem (f := fun s => s.metadata.key) hin)⟩
    · rintro ⟨hin, hne⟩
      rcases List.mem_cons.1 hin with rfl | hin
      · exact absurd rfl hne
      · exact hin

/-- A signature is beaten when it could be used until the contests and is marked by them. It
contends for one tag, so this does not depend on the order of the contests. -/
theorem mem_beaten_iff {s : Signature} :
    s ∈ beaten stored ↔ s ∈ stored.values ∧ s.isUsable = true ∧
      (decided stored s).status = some .duplicateTag := by
  rw [beaten, List.mem_flatMap]
  constructor
  · rintro ⟨tag, -, hs⟩
    obtain ⟨hs, husable⟩ := List.mem_filter.1 hs
    -- the tag is the one of the signature
    obtain ⟨hstored, hcontends, rfl⟩ := mem_contenders_iff.1 (List.mem_of_mem_tail hs)
    exact ⟨hstored, husable, (status_decided_iff husable).2
      ⟨hcontends, ((mem_tail_contenders_iff hkeys).1 hs).2⟩⟩
  · rintro ⟨hstored, husable, hstatus⟩
    obtain ⟨hcontends, hholds⟩ := (status_decided_iff husable).1 hstatus
    refine ⟨s.tag, mem_tags_iff.2 ⟨s, hstored, hcontends, rfl⟩, List.mem_filter.2 ⟨?_, husable⟩⟩
    exact (mem_tail_contenders_iff hkeys).2
      ⟨mem_contenders_iff.2 ⟨hstored, hcontends, rfl⟩, hholds⟩

/-- No signature is beaten twice. It has one tag, so it takes part in one contest, and the contests
go through different tags. -/
theorem nodup_keys_beaten : ((beaten stored).map fun s => s.metadata.key).Nodup := by
  rw [beaten, List.map_flatMap, List.nodup_flatMap]
  constructor
  · intro tag _
    exact (nodup_keys_contenders hkeys tag).sublist
      ((List.filter_sublist.trans (List.tail_sublist _)).map _)
  · refine (Table.nodup_keys _).imp fun {tag tag'} hne key h h' => ?_
    -- signatures with the same key are the same, so they have the same tag
    obtain ⟨s, hs, rfl⟩ := List.mem_map.1 h
    obtain ⟨s', hs', hkey⟩ := List.mem_map.1 h'
    obtain ⟨hstored, -, htag⟩ :=
      mem_contenders_iff.1 (List.mem_of_mem_tail (List.mem_filter.1 hs).1)
    obtain ⟨hstored', -, htag'⟩ :=
      mem_contenders_iff.1 (List.mem_of_mem_tail (List.mem_filter.1 hs').1)
    obtain rfl := List.inj_on_of_nodup_map (Table.nodup_map_values hkeys) hstored' hstored hkey
    exact hne (htag.symm.trans htag')

end Beaten

end Signature

/-! ## 2. The problems of a signature that comes or goes -/

namespace AppProtect

section Reconcile

variable {a : AppProtect} {own : List Problem}

theorem get?_userSigs_reconcile (key : String) :
    (a.reconcile own).1.userSigs.get? key =
      (a.userSigs.get? key).map (Signature.decided a.userSigs) :=
  Table.get?_map ..

/-- Signatures lie under their own keys. The answers name signatures by their metadata and the table
has them under keys, so without this nothing could be said about where a signature that is told of
is stored. -/
def SignaturesKept (a : AppProtect) : Prop :=
  ∀ key s, a.userSigs.get? key = some s → s.metadata.key = key

/-- When signatures change, the problems that are told are those that are given, and one for every
signature that is beaten and for every policy that is lost. Nobody is told that it can be used
again. -/
theorem mem_problems_reconcile_iff (hkeys : a.SignaturesKept) {q : Problem} :
    q ∈ (a.reconcile own).2.problems ↔ q ∈ own ∨
      (∃ key s, a.userSigs.get? key = some s ∧ s.isUsable = true ∧
        (Signature.decided a.userSigs s).status = some .duplicateTag ∧
        q = unusable (.apUserSig s.object) .duplicateTag) ∨
      ∃ p ∈ (a.reconcile own).2.lostPolicies, q = unusable (.apPolicy p) .missingUserSig := by
  simp only [reconcile, List.mem_append, List.mem_map, Signature.mem_beaten_iff hkeys,
    Table.mem_values_iff, or_assoc]
  refine or_congr_right (or_congr ?_ (exists_congr fun p => and_congr_right fun _ => eq_comm))
  constructor
  · rintro ⟨s, ⟨⟨key, hget⟩, husable, hstatus⟩, rfl⟩
    exact ⟨key, s, hget, husable, hstatus, rfl⟩
  · rintro ⟨key, s, hget, husable, hstatus, rfl⟩
    exact ⟨s, ⟨⟨key, hget⟩, husable, hstatus⟩, rfl⟩

/-- No object has two problems when the problems that are given are those of different signatures
that cannot be used. These are never beaten, and policies are of another kind. -/
theorem nodup_problems_reconcile (hsigs : a.SignaturesKept) (hpolicies : a.PoliciesKept)
    (hnodup : (own.map Problem.key).Nodup)
    (hown : ∀ q ∈ own, ∃ key s, a.userSigs.get? key = some s ∧ s.isUsable = false ∧
      q.key = joinKey Kind.apUserSig.name s.metadata.key) :
    ((a.reconcile own).2.problems.map Problem.key).Nodup := by
  have hbeaten : (((Signature.beaten a.userSigs).map fun s =>
      unusable (.apUserSig s.object) .duplicateTag).map Problem.key).Nodup := by
    rw [List.map_map]
    exact nodup_joinKey .apUserSig (Signature.nodup_keys_beaten hsigs)
  have hlost : (((a.reconcile own).2.lostPolicies.map fun p =>
      unusable (.apPolicy p) .missingUserSig).map Problem.key).Nodup := by
    have hturned : (((a.reconcile own).2.lostPolicies ++
        (a.reconcile own).2.gainedPolicies).map policyKey).Nodup := nodup_keys_reconcile hpolicies
    rw [List.map_append] at hturned
    rw [List.map_map]
    exact nodup_joinKey .apPolicy (List.nodup_append.1 hturned).1
  show ((own ++ (Signature.beaten a.userSigs).map _ ++
    (a.reconcile own).2.lostPolicies.map _).map Problem.key).Nodup
  rw [List.map_append, List.map_append, List.nodup_append, List.nodup_append]
  refine ⟨⟨hnodup, hbeaten, fun k hk l hl heq => ?_⟩, hlost, fun k hk l hl heq => ?_⟩
  · obtain ⟨q, hq, rfl⟩ := List.mem_map.1 hk
    obtain ⟨key, s, hget, hnot, hkey⟩ := hown q hq
    rw [List.map_map, List.mem_map] at hl
    obtain ⟨r, hr, rfl⟩ := hl
    obtain ⟨hstored, husable, -⟩ := (Signature.mem_beaten_iff hsigs).1 hr
    -- two signatures with one key are the same, and only one of these two can be used
    have hsame := (Kind.joinKey_inj (hkey.symm.trans heq)).2
    obtain ⟨key', hget'⟩ := Table.mem_values_iff.1 hstored
    obtain rfl := Table.eq_of_key_eq hsigs hget hget' hsame
    rw [hnot] at husable
    cases husable
  · rw [List.map_map, List.mem_map] at hl
    obtain ⟨p, -, rfl⟩ := hl
    -- a problem of a signature is not one of a policy
    have hkind : ∃ x, k = joinKey Kind.apUserSig.name x := by
      rcases List.mem_append.1 hk with hk | hk
      · obtain ⟨q, hq, rfl⟩ := List.mem_map.1 hk
        obtain ⟨key, s, -, -, hkey⟩ := hown q hq
        exact ⟨_, hkey⟩
      · rw [List.map_map, List.mem_map] at hk
        obtain ⟨r, -, rfl⟩ := hk
        exact ⟨_, rfl⟩
    obtain ⟨x, rfl⟩ := hkind
    cases (Kind.joinKey_inj heq).1

end Reconcile

/-! ## 3. Events -/

/-- The signatures when an event has been received and the contests for the tags have not begun.
Only the entry that the event is about can have changed; what the contests then make of the marks is
the business of `reconcile`. -/
structure Received (before : Table Signature) (e : Event) (stored : Table Signature) : Prop where
  /-- A signature that came is stored as it is. -/
  new : ∀ o, e = .apply (.apUserSig o) → stored.get? o.metadata.key = some (.ofObject o)
  /-- Any other one was there before. -/
  old : ∀ key s, stored.get? key = some s →
    (∃ o, e = .apply (.apUserSig o) ∧ o.metadata.key = key ∧ s = .ofObject o) ∨
      e.place ≠ (.apUserSig, key) ∧ before.get? key = some s

/-- A signature that comes takes the place of the one that it replaces. -/
theorem received_insert (before : Table Signature) (o : ApUserSig) :
    Received before (.apply (.apUserSig o)) (before.insert o.metadata.key (.ofObject o)) where
  new o' ho' := by
    obtain rfl : o = o' := by simpa using ho'
    rw [Table.get?_insert, if_pos rfl]
  old key s hs := by
    rw [Table.get?_insert] at hs
    by_cases hkey : o.metadata.key = key
    · rw [if_pos hkey] at hs
      exact .inl ⟨o, rfl, hkey, (Option.some.inj hs).symm⟩
    · rw [if_neg hkey] at hs
      exact .inr ⟨fun heq => hkey (congrArg Prod.snd heq), hs⟩

/-- One that goes leaves the others. -/
theorem received_erase (before : Table Signature) (gone : String) :
    Received before (.delete .apUserSig gone) (before.erase gone) where
  new o ho := nomatch ho
  old key s hs := by
    rw [Table.get?_erase] at hs
    by_cases hkey : gone = key
    · rw [if_pos hkey] at hs
      cases hs
    · rw [if_neg hkey] at hs
      exact .inr ⟨fun heq => hkey (congrArg Prod.snd heq), hs⟩

section Run

variable {events : List Event}

theorem signaturesKept_run : (empty.run events).SignaturesKept := by
  intro key s hs
  rw [run_eq_ofObjects, ofObjects, Signature.settled, Table.get?_map, Option.map_eq_some_iff] at hs
  obtain ⟨o, ho, rfl⟩ := hs
  rw [Signature.metadata, Signature.object_judged]
  exact key_of_userSigs_run key o ho

/-- A stored signature is the one that was applied last. Its status may be another one than it was
stored with, but not its object. -/
theorem latest_of_userSigs {key : String} {s : Signature}
    (h : (empty.run events).userSigs.get? key = some s) :
    latest (.apUserSig, key) events = some (.apUserSig s.object) := by
  rw [run_eq_ofObjects, ofObjects, Signature.settled, Table.get?_map, Option.map_eq_some_iff] at h
  obtain ⟨o, ho, rfl⟩ := h
  rw [Signature.object_judged]
  exact get?_userSigs_run.1 ho

end Run

/-- The look-up of a signature fails for the reason that its status gives. -/
theorem lookup_apUserSig_eq_error_iff {a : AppProtect} {key : String} {why : Invalid} :
    a.lookup Kind.apUserSig.name key = .error (.invalid why) ↔
      ∃ s, a.userSigs.get? key = some s ∧ s.status = some why := by
  rw [lookup_apUserSig, userSig, usableEntry]
  cases a.userSigs.get? key with
  | none => simp [Except.map]
  | some s => cases hstatus : s.status <;> simp [hstatus, Except.map]

/-- The look-up of a signature that has no status succeeds. -/
theorem exists_lookup_apUserSig_eq_ok_iff {a : AppProtect} {key : String} :
    (∃ o, a.lookup Kind.apUserSig.name key = .ok o) ↔
      ∃ s, a.userSigs.get? key = some s ∧ s.isUsable = true := by
  rw [lookup_apUserSig, userSig, usableEntry]
  cases a.userSigs.get? key with
  | none => simp [Except.map]
  | some s => cases hstatus : s.status <;> simp [hstatus, Signature.isUsable, Except.map]

/-- The problems that are due when an event about a signature has come after others: one for every
policy that is lost, one for every signature that has its tag taken by another one now and could be
used before or has just been stored, and one for a signature that has just been stored and is
malformed. -/
inductive Due (events : List Event) (e : Event) (r : SignatureReport) : Problem → Prop
  | lost (p : ApPolicy) (h : p ∈ r.lostPolicies) :
      Due events e r (unusable (.apPolicy p) .missingUserSig)
  | duplicate (key : String) (o : ApUserSig)
      (hstored : latest (.apUserSig, key) (events ++ [e]) = some (.apUserSig o))
      (hafter : (empty.run (events ++ [e])).lookup Kind.apUserSig.name key =
        .error (.invalid .duplicateTag))
      (h : (∃ o', (empty.run events).lookup Kind.apUserSig.name key = .ok o') ∨
        e = .apply (.apUserSig o)) :
      Due events e r (unusable (.apUserSig o) .duplicateTag)
  | malformed (o : ApUserSig) (why : Invalid) (he : e = .apply (.apUserSig o))
      (h : Signature.Malformed o why) : Due events e r (unusable (.apUserSig o) why)

/-- An answer to an event about a signature mentions no policy twice, and it tells the problems that
are due, each of them once. -/
structure Exact (events : List Event) (e : Event) (r : SignatureReport) : Prop where
  nodup_policies : ((r.lostPolicies ++ r.gainedPolicies).map policyKey).Nodup
  nodup_problems : (r.problems.map Problem.key).Nodup
  mem_problems_iff : ∀ q, q ∈ r.problems ↔ Due events e r q

section Events

variable {events : List Event} {e : Event} {stored : Table Signature} {own : List Problem}

/-- The contests that an event leads to mark the signatures of which it is due to tell that they
have their tags taken. One side reads the entries during the event, the other one what look-ups find
before and after. -/
theorem due_duplicate_iff (hreceived : Received (empty.run events).userSigs e stored)
    (hnext : ∀ key, (empty.run (events ++ [e])).userSigs.get? key =
      (stored.get? key).map (Signature.decided stored)) {q : Problem} :
    (∃ key s, stored.get? key = some s ∧ s.isUsable = true ∧
        (Signature.decided stored s).status = some .duplicateTag ∧
        q = unusable (.apUserSig s.object) .duplicateTag) ↔
      ∃ key o, latest (.apUserSig, key) (events ++ [e]) = some (.apUserSig o) ∧
        (empty.run (events ++ [e])).lookup Kind.apUserSig.name key =
          .error (.invalid .duplicateTag) ∧
        ((∃ o', (empty.run events).lookup Kind.apUserSig.name key = .ok o') ∨
          e = .apply (.apUserSig o)) ∧
        q = unusable (.apUserSig o) .duplicateTag := by
  constructor
  · rintro ⟨key, s, hget, husable, hstatus, rfl⟩
    have hafter := hnext key
    rw [hget, Option.map_some] at hafter
    refine ⟨key, s.object, ?_, lookup_apUserSig_eq_error_iff.2 ⟨_, hafter, hstatus⟩, ?_, rfl⟩
    · have hlatest := latest_of_userSigs hafter
      rwa [Signature.object_decided] at hlatest
    · -- it is new, or it could be used before
      rcases hreceived.old key s hget with ⟨o, rfl, -, rfl⟩ | ⟨-, hbefore⟩
      · exact .inr (by rw [Signature.object_ofObject])
      · exact .inl (exists_lookup_apUserSig_eq_ok_iff.2 ⟨s, hbefore, husable⟩)
  · rintro ⟨key, o, hlatest, hafter, hbefore, rfl⟩
    obtain ⟨s', hs', hstatus⟩ := lookup_apUserSig_eq_error_iff.1 hafter
    have hobject := latest_of_userSigs hs'
    rw [hlatest, Option.some.injEq, Object.apUserSig.injEq] at hobject
    rw [hnext, Option.map_eq_some_iff] at hs'
    obtain ⟨s, hget, rfl⟩ := hs'
    rw [Signature.object_decided] at hobject
    refine ⟨key, s, hget, ?_, hstatus, by rw [hobject]⟩
    -- a signature that is new is not malformed when it is marked
    rcases hreceived.old key s hget with ⟨o', -, -, rfl⟩ | ⟨hplace, hstored⟩
    · exact Signature.isUsable_of_decided_ofObject hstatus
    · rcases hbefore with hbefore | rfl
      · obtain ⟨s', hs', husable⟩ := exists_lookup_apUserSig_eq_ok_iff.1 hbefore
        rw [hstored, Option.some.injEq] at hs'
        exact hs' ▸ husable
      · exact absurd (place_of_latest hlatest) hplace

/-- What signatures lead to is told exactly, when the problems that are given are those of the
signature that came. Both events about signatures are of this form. -/
theorem exact_reconcile (hreceived : Received (empty.run events).userSigs e stored)
    (hnext : empty.run (events ++ [e]) =
      ({ empty.run events with userSigs := stored }.reconcile own).1)
    (hnodup : (own.map Problem.key).Nodup)
    (hown : ∀ q, q ∈ own ↔ ∃ o why, e = .apply (.apUserSig o) ∧ Signature.Malformed o why ∧
      q = unusable (.apUserSig o) why) :
    Exact events e ({ empty.run events with userSigs := stored }.reconcile own).2 := by
  -- the new signature lies under its own key, and so did the others
  have hsigs : AppProtect.SignaturesKept { empty.run events with userSigs := stored } := by
    intro key s hget
    rcases hreceived.old key s hget with ⟨o, -, hkey, rfl⟩ | ⟨-, hbefore⟩
    · rwa [Signature.metadata_ofObject]
    · exact signaturesKept_run key s hbefore
  refine ⟨nodup_keys_reconcile policiesKept_run,
    nodup_problems_reconcile hsigs policiesKept_run hnodup fun q hq => ?_, fun q => ?_⟩
  · -- the problem that is given is that of the new signature, which is malformed
    obtain ⟨o, why, he, hwhy, rfl⟩ := (hown q).1 hq
    refine ⟨_, _, hreceived.new o he, ?_, by rw [Signature.metadata_ofObject]; rfl⟩
    rw [Signature.isUsable, Signature.status_ofObject_eq_some_iff.2 hwhy]
    rfl
  · rw [mem_problems_reconcile_iff hsigs, hown q,
      due_duplicate_iff hreceived fun key => hnext ▸ get?_userSigs_reconcile key]
    constructor
    · rintro (⟨o, why, he, hwhy, rfl⟩ | ⟨key, o, hstored, hafter, h, rfl⟩ | ⟨p, hp, rfl⟩)
      · exact .malformed o why he hwhy
      · exact .duplicate key o hstored hafter h
      · exact .lost p hp
    · rintro (⟨p, hp⟩ | ⟨key, o, hstored, hafter, h⟩ | ⟨o, why, he, hwhy⟩)
      · exact .inr (.inr ⟨p, hp, rfl⟩)
      · exact .inr (.inl ⟨key, o, hstored, hafter, h, rfl⟩)
      · exact .inl ⟨o, why, he, hwhy, rfl⟩

/-- A signature that comes may be malformed, and is told so. -/
theorem exact_applyUserSig (o : ApUserSig) :
    Exact events (.apply (.apUserSig o)) ((empty.run events).applyUserSig o).2 := by
  refine exact_reconcile (received_insert _ o) (run_append ..) ?_ fun q => ?_
  · cases (Signature.ofObject o).status <;> simp
  · simp [← Signature.status_ofObject_eq_some_iff, eq_comm]

/-- Of one that goes nothing is told, but others may be turned. If it was not there, the contests
are as they were. -/
theorem exact_deleteUserSig (gone : String) :
    Exact events (.delete .apUserSig gone) ((empty.run events).deleteUserSig gone).2 := by
  rw [deleteUserSig]
  by_cases hin : (empty.run events).userSigs.contains gone
  · rw [if_pos hin]
    refine exact_reconcile (received_erase _ gone) ?_ (by simp) fun q => by simp
    rw [run_append, step, deleteUserSig, if_pos hin]
  · -- nothing is told of a signature that is not there, and nothing changes
    rw [if_neg hin]
    refine ⟨by simp [SignatureReport.empty], by simp [SignatureReport.empty], fun q => ?_⟩
    have hsame : empty.run (events ++ [.delete .apUserSig gone]) = empty.run events := by
      rw [run_append, step, deleteUserSig, if_neg hin]
    refine iff_of_false (by simp [SignatureReport.empty]) ?_
    rintro (⟨p, hp⟩ | ⟨key, o, -, hafter, ⟨o', hbefore⟩ | he⟩ | ⟨o, why, he, -⟩)
    · simp [SignatureReport.empty] at hp
    · rw [hsame, hbefore] at hafter
      cases hafter
    · cases he
    · cases he

end Events

/-- Who follows the changes of policies, and the lists of those that signatures turn, has the
policies that can be used: after any events, the copy has under every key the policy that a look-up
finds. When a signature comes or goes, no policy is in the lists twice, and the owners are told of
every policy that is lost, of every signature that has its tag taken then, and of the signature
itself when it is malformed, each of them once, and of nothing else. -/
theorem usable_policies_followed (events : List Event) :
    let a := empty.run events
    let copy := Change.follow policyKey Table.empty (empty.policiesTold events)
    (∀ key, (copy.get? key).map Object.apPolicy = (a.lookup "APPolicy" key).toOption) ∧
    (∀ o, Exact events (.apply (.apUserSig o)) (a.applyUserSig o).2) ∧
    ∀ key, Exact events (.delete .apUserSig key) (a.deleteUserSig key).2 := by
  intro a copy
  refine ⟨fun key => ?_, exact_applyUserSig, exact_deleteUserSig⟩
  have hlookup : a.lookup "APPolicy" key = (a.policy key).map .apPolicy := lookup_apPolicy a key
  rw [hlookup, copies_run key]
  cases a.policy key <;> rfl

end AppProtect

end Gatehouse
