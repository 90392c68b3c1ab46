import Gatehouse.Proofs.Change
import Gatehouse.Proofs.Dos.Run
import Gatehouse.Proofs.Resource

/-!
The copy of a consumer of protected resources, and what a look-up finds.

Whether a protected resource is served depends on three tables: its own, and those of the policies
and of the log configurations that it may name. `Turn` says what an event comes to for one key:
either a change tells whether the protected resource is served now, or nothing that a look-up of the
key reads is another than before. That holds because the protected resources that are evaluated
again are all that name the object of the event (`turn_cascade`), and from it follow both that a
consumer has what is served (`copies_run`) and that a look-up whose result differs is told.

A look-up succeeds for what is served and nothing else (`served?_eq_some_iff`): the checks of an
evaluation, made when something has changed, come out as the ones of the look-up, made later.
-/

set_option autoImplicit false

namespace Gatehouse.Dos

/-! ## 1. Changes of protected resources -/

/-- The change, if it is one of a protected resource. -/
def protectedChange? (c : Change DosResource) : Option (Change DosProtected) :=
  match c.resource with
  | .protectedResource p => some ⟨c.op, p, c.error⟩
  | .policy _ | .logConf _ => none

/-- The changes of protected resources. -/
def protectedChanges (changes : List (Change DosResource)) : List (Change DosProtected) :=
  changes.filterMap protectedChange?

/-- A change of a protected resource comes from one that is about it. -/
theorem exists_of_mem_protectedChanges {changes : List (Change DosResource)}
    {c : Change DosProtected} (h : c ∈ protectedChanges changes) :
    ∃ c' ∈ changes, c'.resource = .protectedResource c.resource := by
  obtain ⟨c', hc', hchange⟩ := List.mem_filterMap.1 h
  refine ⟨c', hc', ?_⟩
  rw [protectedChange?] at hchange
  split at hchange
  · obtain rfl := Option.some.inj hchange
    assumption
  · cases hchange
  · cases hchange

/-- The key of a protected resource. -/
def protectedKey (p : DosProtected) : String := p.metadata.key

/-- How a stored protected resource is judged: it is put when nothing is wrong, and else removed
with what is wrong as the error. -/
def verdict (d : Dos) (entry : DosEntry DosProtected) : Change DosProtected :=
  match d.complaint? entry with
  | none => .plain .addOrUpdate entry.object
  | some complaint => ⟨.delete, entry.object, some complaint⟩

section Verdict

variable {d : Dos} {entry : DosEntry DosProtected}

@[simp] theorem resource_verdict : (d.verdict entry).resource = entry.object := by
  rw [verdict]
  split <;> rfl

/-- So it is removed when there is a complaint. -/
theorem isDelete_verdict : (d.verdict entry).isDelete = (d.complaint? entry).isSome := by
  rw [verdict]
  cases d.complaint? entry <;> rfl

/-- To judge a protected resource is to tell of it once. -/
theorem protectedChanges_judge : protectedChanges (d.judge entry).changes = [d.verdict entry] := by
  rw [judge, verdict]
  cases d.complaint? entry <;> rfl

/-- A cascade tells how the protected resources that name the object are judged. -/
theorem protectedChanges_cascade (hkept : d.Kept) {part : DosPart} {key : String}
    {own : Report DosResource} (hown : protectedChanges own.changes = []) :
    protectedChanges (d.cascade part key own).2.changes =
      (d.referring part key).map fun p => d.verdict (.ofProtected p) := by
  rw [changes_cascade hkept, protectedChanges, List.filterMap_append, List.filterMap_flatMap]
  show protectedChanges own.changes ++
    (d.referring part key).flatMap (fun p => protectedChanges (d.judge (.ofProtected p)).changes) = _
  simp only [hown, protectedChanges_judge, List.nil_append]
  exact List.map_eq_flatMap.symm

end Verdict

/-! ## 2. What is served -/

/-- The protected resource of a key, if it is served: it is stored and an evaluation would find
nothing wrong. -/
def served? (d : Dos) (key : String) : Option DosProtected :=
  ((d.protectedResources.get? key).filter fun entry => (d.complaint? entry).isNone).map
    DosEntry.object

/-- What a look-up of the key reads is the same in both stores: the entry itself, and what is found
under the keys that it names. Everything else may differ. -/
structure SameFor (d next : Dos) (key : String) : Prop where
  isEnabled : next.isEnabled = d.isEnabled
  entry : next.protectedResources.get? key = d.protectedResources.get? key
  policy : ∀ entry, d.protectedResources.get? key = some entry →
    ∀ named, DosPart.policy.key? entry.object = some named → next.policy named = d.policy named
  logConf : ∀ entry, d.protectedResources.get? key = some entry →
    ∀ named, DosPart.logConf.key? entry.object = some named → next.logConf named = d.logConf named

/-- A reference is broken or not by what the look-up of its key finds. -/
theorem brokenReference?_congr {d next : Dos} {part : DosPart} {p : DosProtected}
    (h : ∀ named, part.key? p = some named → next.unusable? part named = d.unusable? part named) :
    next.brokenReference? part p = d.brokenReference? part p := by
  rw [brokenReference?, brokenReference?]
  cases hkey : part.key? p with
  | none => rfl
  | some named => rw [Option.bind_some, Option.bind_some, h named hkey]

/-- What is attached is found under the key that is named. -/
theorem named_congr {α : Type} {find find' : String → Except Unusable α}
    {error : Unusable → LookupError} {key? : Option String}
    (h : ∀ key, key? = some key → find' key = find key) :
    named find' error key? = named find error key? := by
  cases key? with
  | none => rfl
  | some key => rw [named, named, h key rfl]

section SameFor

variable {d next : Dos} {key : String}

/-- Then an evaluation complains alike. -/
theorem SameFor.complaint?_eq (h : SameFor d next key) {entry : DosEntry DosProtected}
    (hget : d.protectedResources.get? key = some entry) :
    next.complaint? entry = d.complaint? entry := by
  have hpolicy : next.brokenReference? .policy entry.object =
      d.brokenReference? .policy entry.object := brokenReference?_congr fun named hnamed => by
    rw [unusable?, unusable?, h.policy entry hget named hnamed]
  have hlogConf : next.brokenReference? .logConf entry.object =
      d.brokenReference? .logConf entry.object := brokenReference?_congr fun named hnamed => by
    rw [unusable?, unusable?, h.logConf entry hget named hnamed]
  rw [complaint?, complaint?, hpolicy, hlogConf]

/-- The same protected resource is served, or none. -/
theorem SameFor.served?_eq (h : SameFor d next key) : next.served? key = d.served? key := by
  rw [served?, served?, h.entry]
  cases hget : d.protectedResources.get? key with
  | none => rfl
  | some entry => rw [Option.filter_some, Option.filter_some, h.complaint?_eq hget]

/-- And a look-up of the key finds the same, with what is attached. -/
theorem SameFor.lookup_eq {home reference : String}
    (h : SameFor d next (qualify home reference)) :
    next.lookup home reference = d.lookup home reference := by
  simp only [lookup, h.isEnabled, h.entry]
  cases hget : d.protectedResources.get? (qualify home reference) with
  | none => rfl
  | some entry =>
    have hpolicy : named next.policy .missingPolicy (DosPart.policy.key? entry.object) =
        named d.policy .missingPolicy (DosPart.policy.key? entry.object) :=
      named_congr (h.policy entry hget)
    have hlogConf : named next.logConf .missingLogConf (DosPart.logConf.key? entry.object) =
        named d.logConf .missingLogConf (DosPart.logConf.key? entry.object) :=
      named_congr (h.logConf entry hget)
    simp only [hpolicy, hlogConf]

end SameFor

/-- What an event comes to for one key: a change of what was or is stored there tells whether it is
served now, or nothing that a look-up of it reads has changed. -/
inductive Turn (d next : Dos) (changes : List (Change DosProtected)) (key : String) : Prop
  | told (c : Change DosProtected) (hc : c ∈ changes) (hkey : protectedKey c.resource = key)
      (hstored : ∃ entry, (d.protectedResources.get? key = some entry ∨
        next.protectedResources.get? key = some entry) ∧ entry.object = c.resource)
      (hserved : next.served? key = if c.isDelete then none else some c.resource)
  | kept (hnone : ∀ c ∈ changes, protectedKey c.resource ≠ key) (hsame : SameFor d next key)

section Turn

variable {d next : Dos} {key : String}

/-- A verdict tells whether a stored protected resource is served. The one is made with the event,
the other can be asked at any time. -/
theorem served?_of_get? {entry : DosEntry DosProtected}
    (h : d.protectedResources.get? key = some entry) :
    d.served? key =
      if (d.verdict entry).isDelete then none else some (d.verdict entry).resource := by
  rw [served?, h, Option.filter_some, isDelete_verdict, resource_verdict]
  cases d.complaint? entry <;> rfl

/-- When a policy or a log configuration has changed, all protected resources of which the look-up
can have changed are judged. The others do not name it, so what they name is found as before. -/
theorem turn_cascade {part : DosPart} {changed : String} {own : Report DosResource}
    (hkept : next.Kept) (hown : protectedChanges own.changes = [])
    (henabled : next.isEnabled = d.isEnabled)
    (hprotected : next.protectedResources = d.protectedResources)
    (hpolicy : ∀ named, (part = .policy → named ≠ changed) → next.policy named = d.policy named)
    (hlogConf : ∀ named, (part = .logConf → named ≠ changed) →
      next.logConf named = d.logConf named) :
    Turn d (next.cascade part changed own).1
      (protectedChanges (next.cascade part changed own).2.changes) key := by
  rw [fst_cascade hkept, protectedChanges_cascade hkept hown]
  -- the protected resources that are judged lie under their own keys
  have hmem : ∀ c ∈ (next.referring part changed).map fun p => next.verdict (.ofProtected p),
      ∃ entry, next.protectedResources.get? (protectedKey c.resource) = some entry ∧
        part.key? entry.object = some changed := by
    intro c hc
    obtain ⟨p, hp, rfl⟩ := List.mem_map.1 hc
    obtain ⟨⟨key', entry, hget, rfl⟩, hnames⟩ := mem_referring_iff.1 hp
    refine ⟨entry, ?_, hnames⟩
    have hkey : protectedKey entry.object = key' := hkept.protected_key key' entry hget
    rw [resource_verdict]
    exact (congrArg next.protectedResources.get? hkey).trans hget
  by_cases hnames : ∃ entry, next.protectedResources.get? key = some entry ∧
      part.key? entry.object = some changed
  · obtain ⟨entry, hget, hnames⟩ := hnames
    refine .told (next.verdict entry) ?_ ?_ ⟨entry, .inr hget, resource_verdict.symm⟩
      (served?_of_get? hget)
    · rw [hkept.protectedResource key entry hget]
      exact List.mem_map_of_mem (mem_referring_iff.2 ⟨⟨key, entry, hget, rfl⟩, hnames⟩)
    · rw [resource_verdict]
      exact hkept.protected_key key entry hget
  · refine .kept (fun c hc hkey => hnames (hkey ▸ hmem c hc)) ?_
    have hother : ∀ entry, d.protectedResources.get? key = some entry →
        ∀ named, part.key? entry.object = some named → named ≠ changed := by
      rintro entry hget named hnamed rfl
      exact hnames ⟨entry, hprotected ▸ hget, hnamed⟩
    refine ⟨henabled, by rw [hprotected], fun entry hget named hnamed => hpolicy named ?_,
      fun entry hget named hnamed => hlogConf named ?_⟩
    · rintro rfl
      exact hother entry hget named hnamed
    · rintro rfl
      exact hother entry hget named hnamed

/-- Other policies are found as before when one is put or removed, and so are other log
configurations. -/
theorem policy_insert_of_ne (p : DosPolicy) {named : String} (h : named ≠ p.metadata.key) :
    (d.after (.apply (.dosPolicy p))).policy named = d.policy named := by
  simp only [policy, usable, after, Table.get?_insert, if_neg (Ne.symm h)]

theorem policy_erase_of_ne {gone named : String} (h : named ≠ gone) :
    (d.after (.delete .dosPolicy gone)).policy named = d.policy named := by
  simp only [policy, usable, after, Table.get?_erase, if_neg (Ne.symm h)]

theorem logConf_insert_of_ne (l : LogConf) {named : String} (h : named ≠ l.metadata.key) :
    (d.after (.apply (.dosLogConf l))).logConf named = d.logConf named := by
  simp only [logConf, usable, after, Table.get?_insert, if_neg (Ne.symm h)]

theorem logConf_erase_of_ne {gone named : String} (h : named ≠ gone) :
    (d.after (.delete .dosLogConf gone)).logConf named = d.logConf named := by
  simp only [logConf, usable, after, Table.get?_erase, if_neg (Ne.symm h)]

/-- Nothing happens: there is no change, and everything is as before. -/
theorem turn_self : Turn d d [] key :=
  .kept (by simp) ⟨rfl, rfl, fun _ _ _ _ => rfl, fun _ _ _ _ => rfl⟩

/-- A change of something else is none of a protected resource. -/
theorem protectedChange?_eq_none {c : Change DosResource}
    (h : ∀ p, c.resource ≠ .protectedResource p) : protectedChange? c = none := by
  rw [protectedChange?]
  split
  · exact absurd ‹_› (h _)
  · rfl
  · rfl

/-- What is told of a policy or a log configuration itself is about no protected resource. -/
theorem protectedChanges_ownReport {α : Type} {resource : α → DosResource} {entry : DosEntry α}
    (h : ∀ o p, resource o ≠ .protectedResource p) :
    protectedChanges (ownReport resource entry).changes = [] := by
  refine List.filterMap_eq_nil_iff.2 fun c hc => protectedChange?_eq_none ?_
  rw [ownReport] at hc
  cases hcomplaint : entry.complaint with
  | none => simp [hcomplaint, Report.empty] at hc
  | some complaint =>
    rw [hcomplaint] at hc
    rw [List.mem_singleton.1 hc]
    exact h entry.object

/-- Nor is it when one is removed. -/
theorem protectedChanges_gone {α : Type} {resource : α → DosResource} {stored : Table (DosEntry α)}
    {key : String} (h : ∀ o p, resource o ≠ .protectedResource p) :
    protectedChanges (gone resource stored key).changes = [] := by
  refine List.filterMap_eq_nil_iff.2 fun c hc => protectedChange?_eq_none ?_
  simp only [gone, Report.removed, List.mem_map, Option.mem_toList, Option.map_eq_some_iff] at hc
  obtain ⟨_, ⟨entry, -, rfl⟩, rfl⟩ := hc
  exact h entry.object

/-- A protected resource that is applied is judged, and the look-up of another one reads nothing of
it. -/
theorem turn_applyProtected (p : DosProtected) :
    Turn d (d.evaluate p).1 (protectedChanges (d.evaluate p).2.changes) key := by
  have hchanges : protectedChanges (d.evaluate p).2.changes =
      [(d.evaluate p).1.verdict (.ofProtected p)] := protectedChanges_judge
  rw [hchanges]
  by_cases hkey : p.metadata.key = key
  · have hget : (d.evaluate p).1.protectedResources.get? key = some (.ofProtected p) := by
      rw [evaluate, Table.get?_insert, if_pos hkey]
    refine .told _ List.mem_cons_self ?_ ⟨_, .inr hget, resource_verdict.symm⟩
      (served?_of_get? hget)
    rwa [resource_verdict]
  · have hget : (d.evaluate p).1.protectedResources.get? key = d.protectedResources.get? key := by
      rw [evaluate, Table.get?_insert, if_neg hkey]
    refine .kept (fun c hc => ?_) ⟨rfl, hget, fun _ _ _ _ => rfl, fun _ _ _ _ => rfl⟩
    rw [List.mem_singleton.1 hc, resource_verdict]
    exact hkey

/-- One that is deleted is told to be gone, if it was stored. The deletion of a key that has nothing
is answered with nothing and turns nothing. -/
theorem turn_deleteProtected (hkept : d.Kept) (removed : String) :
    Turn d (d.deleteProtected removed).1
      (protectedChanges (d.deleteProtected removed).2.changes) key := by
  have hgone : (d.deleteProtected removed).1.protectedResources.get? key =
      if removed = key then none else d.protectedResources.get? key := by
    rw [deleteProtected, Table.get?_erase]
  -- A deletion that removes nothing under the key leaves all that is asked of the key.
  have hsame : (removed = key → d.protectedResources.get? key = none) →
      SameFor d (d.deleteProtected removed).1 key := by
    intro habsent
    refine ⟨rfl, ?_, fun _ _ _ _ => rfl, fun _ _ _ _ => rfl⟩
    rw [hgone]
    split_ifs with hkey
    · exact (habsent hkey).symm
    · rfl
  cases hget : d.protectedResources.get? removed with
  | none =>
    have hchanges : protectedChanges (d.deleteProtected removed).2.changes = [] := by
      simp [deleteProtected, gone, hget, Report.removed, protectedChanges]
    rw [hchanges]
    exact .kept (by simp) (hsame fun hkey => hkey ▸ hget)
  | some entry =>
    have hchanges : protectedChanges (d.deleteProtected removed).2.changes =
        [.plain .delete entry.object] := by
      simp [deleteProtected, gone, hget, Report.removed, protectedChanges, protectedChange?,
        Change.plain]
    have hown : protectedKey entry.object = removed := hkept.protected_key removed entry hget
    rw [hchanges]
    by_cases hkey : removed = key
    · refine .told (.plain .delete entry.object) List.mem_cons_self (hown.trans hkey)
        ⟨entry, .inl (hkey ▸ hget), rfl⟩ ?_
      rw [served?, hgone, if_pos hkey]
      simp
    · refine .kept (fun c hc => ?_) (hsame fun h => absurd h hkey)
      rw [List.mem_singleton.1 hc, Change.resource_plain, hown]
      exact hkey

/-- An event tells whether the protected resource of a key is served, or leaves what a look-up of it
reads. There is one case for each kind and operation; copies and look-ups need no other. -/
theorem turn_step (hkept : d.Kept) (e : Event) (key : String) :
    Turn d (d.step e).1 (protectedChanges (d.step e).2.changes) key := by
  have hafter := kept_after hkept e
  rcases e with o | ⟨kind, removed⟩
  · cases o with
    | dosPolicy p =>
      -- The table changes first, then every protected resource that names the entry is told.
      have hstep : d.step (.apply (.dosPolicy p)) = (d.after (.apply (.dosPolicy p))).cascade
          .policy p.metadata.key (ownReport .policy (.ofPolicy p)) := rfl
      rw [hstep]
      exact turn_cascade hafter (protectedChanges_ownReport fun _ _ h => nomatch h) rfl rfl
        (fun _ h => policy_insert_of_ne p (h rfl)) fun _ _ => rfl
    | dosLogConf l =>
      have hstep : d.step (.apply (.dosLogConf l)) = (d.after (.apply (.dosLogConf l))).cascade
          .logConf l.metadata.key (ownReport .logConf (.ofLogConf l)) := rfl
      rw [hstep]
      exact turn_cascade hafter (protectedChanges_ownReport fun _ _ h => nomatch h) rfl rfl
        (fun _ _ => rfl) fun _ h => logConf_insert_of_ne l (h rfl)
    | dosProtected p => exact turn_applyProtected p
    | _ => exact turn_self
  · cases kind with
    | dosPolicy =>
      have hstep : d.step (.delete .dosPolicy removed) =
          (d.after (.delete .dosPolicy removed)).cascade
            .policy removed (gone .policy d.policies removed) := rfl
      rw [hstep]
      exact turn_cascade hafter (protectedChanges_gone fun _ _ h => nomatch h) rfl rfl
        (fun _ h => policy_erase_of_ne (h rfl)) fun _ _ => rfl
    | dosLogConf =>
      have hstep : d.step (.delete .dosLogConf removed) =
          (d.after (.delete .dosLogConf removed)).cascade
            .logConf removed (gone .logConf d.logConfs removed) := rfl
      rw [hstep]
      exact turn_cascade hafter (protectedChanges_gone fun _ _ h => nomatch h) rfl rfl
        (fun _ _ => rfl) fun _ h => logConf_erase_of_ne (h rfl)
    | dosProtected => exact turn_deleteProtected hkept removed
    | _ => exact turn_self

end Turn

/-! ## 3. The copy -/

section Copy

variable {d : Dos}

/-- A cascade goes through the protected resources by their keys, which are their own. So each of
those that name the object is told of once. -/
theorem nodup_keys_cascade (hkept : d.Kept) {part : DosPart} {changed : String}
    {own : Report DosResource} (hown : protectedChanges own.changes = []) :
    ((protectedChanges (d.cascade part changed own).2.changes).map
      fun c => protectedKey c.resource).Nodup := by
  have hreferring : ((d.referring part changed).map protectedKey).Nodup := by
    have hstored : ((d.protectedResources.values.map DosEntry.object).map protectedKey).Nodup := by
      rw [List.map_map]
      exact Table.nodup_map_values hkept.protected_key
    exact hstored.sublist (List.filter_sublist.map _)
  rw [protectedChanges_cascade hkept hown, List.map_map]
  simp only [Function.comp_def, resource_verdict]
  exact hreferring

/-- No event tells twice of one protected resource. So it does not matter in which order a consumer
takes the changes. -/
theorem nodup_keys_step (hkept : d.Kept) (e : Event) :
    ((protectedChanges (d.step e).2.changes).map fun c => protectedKey c.resource).Nodup := by
  have hafter := kept_after hkept e
  rcases e with o | ⟨kind, removed⟩
  · cases o with
    | dosPolicy p =>
      exact nodup_keys_cascade hafter (protectedChanges_ownReport fun _ _ h => nomatch h)
    | dosLogConf l =>
      exact nodup_keys_cascade hafter (protectedChanges_ownReport fun _ _ h => nomatch h)
    | dosProtected p =>
      have hchanges : protectedChanges (d.evaluate p).2.changes =
          [(d.evaluate p).1.verdict (.ofProtected p)] := protectedChanges_judge
      show ((protectedChanges (d.evaluate p).2.changes).map _).Nodup
      rw [hchanges]
      exact List.nodup_singleton _
    | _ => exact List.nodup_nil
  · cases kind with
    | dosPolicy => exact nodup_keys_cascade hafter (protectedChanges_gone fun _ _ h => nomatch h)
    | dosLogConf => exact nodup_keys_cascade hafter (protectedChanges_gone fun _ _ h => nomatch h)
    | dosProtected =>
      show ((protectedChanges (d.deleteProtected removed).2.changes).map _).Nodup
      rw [deleteProtected, gone, Report.removed]
      cases d.protectedResources.get? removed with
      | none => exact List.nodup_nil
      | some entry => exact List.nodup_singleton _
    | _ => exact List.nodup_nil

/-- A copy of the protected resources that are served. It is an exact one: every change of a
protected resource carries the object as it is stored. -/
def Copies (copy : Table DosProtected) (d : Dos) : Prop := ∀ key, copy.get? key = d.served? key

/-- A copy follows what an event is answered with. For a key that is told, the one change decides;
for another one nothing has changed. -/
theorem copies_step (hkept : d.Kept) (e : Event) {copy : Table DosProtected} (h : Copies copy d) :
    Copies (Change.follow protectedKey copy (protectedChanges (d.step e).2.changes))
      (d.step e).1 := by
  intro key
  cases turn_step hkept e key with
  | told c hc hkey _ hserved =>
    rw [hserved, ← hkey]
    exact Change.get?_follow_of_isLast (Change.isLast_of_nodup (nodup_keys_step hkept e) hc)
  | kept hnone hsame => rw [Change.get?_follow_of_forall_ne hnone, h key, hsame.served?_eq]

/-- Whoever has followed all changes of a run has the protected resources that are served. -/
theorem copies_run {isEnabled : Bool} {events : List Event} :
    Copies (Change.follow protectedKey Table.empty
        (protectedChanges ((fresh isEnabled).told events))) ((fresh isEnabled).run events) := by
  induction events using List.reverseRecOn with
  | nil => exact fun key => rfl
  | append_singleton events e ih =>
    rw [told_append, protectedChanges, List.filterMap_append, Change.follow_append, run_append]
    exact copies_step kept_run e ih

end Copy

/-! ## 4. Look-ups -/

/-- What a protected resource is served with: nothing when it names nothing, and else a valid object
that is stored under the key that it names. -/
inductive Attached {α : Type} (key? : Option String) (valid : String → α → Prop) : Option α → Prop
  | unnamed (h : key? = none) : Attached key? valid none
  | named (key : String) (o : α) (hkey : key? = some key) (hvalid : valid key o) :
      Attached key? valid (some o)

/-- What a protected resource names is attached when it can be found. When it names nothing, nothing
is looked for, and the look-up goes on. -/
theorem named_eq_ok_iff {α : Type} {find : String → Except Unusable α}
    {error : Unusable → LookupError} {key? : Option String} {o? : Option α} :
    named find error key? = .ok o? ↔ Attached key? (fun key o => find key = .ok o) o? := by
  cases key? with
  | none =>
    constructor
    · rintro ⟨⟩
      exact .unnamed rfl
    · -- Without a key there is nothing to find, and no attachment can name one.
      rintro (_ | ⟨key, o, hkey, -⟩)
      · rfl
      · cases hkey
  | some key =>
    rw [named]
    constructor
    · intro h
      cases hfind : find key with
      | ok o =>
        rw [hfind] at h
        cases h
        exact .named key o rfl hfind
      | error why =>
        rw [hfind] at h
        cases h
    · rintro (h | ⟨key', o, hkey, hvalid⟩)
      · cases h
      · obtain rfl := Option.some.inj hkey
        rw [hvalid]

section Lookup

variable {d : Dos}

/-- A look-up succeeds for a stored protected resource that is valid, when all that it names can be
used. -/
theorem lookup_eq_ok_iff (henabled : d.isEnabled = true) {home reference : String}
    {x : Protection} :
    d.lookup home reference = .ok x ↔
      ∃ entry, d.protectedResources.get? (qualify home reference) = some entry ∧
        entry.complaint = none ∧ x.protectedResource = entry.object ∧
        Attached (DosPart.policy.key? entry.object) (fun key o => d.policy key = .ok o) x.policy ∧
        Attached (DosPart.logConf.key? entry.object) (fun key o => d.logConf key = .ok o)
          x.logConf := by
  simp only [lookup, henabled, Bool.not_true, Bool.false_eq_true, ↓reduceIte]
  cases hget : d.protectedResources.get? (qualify home reference) with
  | none => simp
  | some entry =>
    cases hcomplaint : entry.complaint with
    -- An entry that is told as unusable protects nothing, whatever it names.
    | some complaint => simp [hcomplaint]
    | none =>
      simp only [hcomplaint]
      constructor
      · intro h
        cases hpolicy : named d.policy .missingPolicy (DosPart.policy.key? entry.object) with
        | error why =>
          rw [hpolicy] at h
          cases h
        | ok policy? =>
          cases hlogConf : named d.logConf .missingLogConf (DosPart.logConf.key? entry.object) with
          | error why =>
            rw [hpolicy, hlogConf] at h
            cases h
          | ok logConf? =>
            rw [hpolicy, hlogConf] at h
            cases h
            exact ⟨entry, rfl, hcomplaint, rfl, named_eq_ok_iff.1 hpolicy,
              named_eq_ok_iff.1 hlogConf⟩
      · rintro ⟨entry', hentry, -, hobject, hpolicy, hlogConf⟩
        obtain rfl := Option.some.inj hentry
        obtain ⟨p, policy?, logConf?⟩ := x
        obtain rfl : p = entry.object := hobject
        rw [named_eq_ok_iff.2 hpolicy, named_eq_ok_iff.2 hlogConf]
        rfl

theorem unusable?_policy_eq_none_iff {key : String} :
    d.unusable? .policy key = none ↔ ∃ o, d.policy key = .ok o := by
  rw [unusable?]
  cases d.policy key <;> simp

theorem unusable?_logConf_eq_none_iff {key : String} :
    d.unusable? .logConf key = none ↔ ∃ o, d.logConf key = .ok o := by
  rw [unusable?]
  cases d.logConf key <;> simp

/-- Something can be attached when the key that is named, if there is one, has a valid object.
Naming nothing is never a fault. -/
theorem exists_attached_iff {α : Type} {key? : Option String} {valid : String → α → Prop} :
    (∃ o?, Attached key? valid o?) ↔ ∀ key, key? = some key → ∃ o, valid key o := by
  constructor
  · rintro ⟨_, ⟨hnone⟩ | ⟨key, o, hkey, hvalid⟩⟩ key' hkey'
    · rw [hnone] at hkey'
      cases hkey'
    · rw [hkey] at hkey'
      exact ⟨o, Option.some.inj hkey' ▸ hvalid⟩
  · intro h
    cases hkey : key? with
    | none => exact ⟨none, .unnamed rfl⟩
    | some key =>
      obtain ⟨o, hvalid⟩ := h key hkey
      exact ⟨some o, .named key o rfl hvalid⟩

/-- A reference is not broken when what is named can be used. -/
theorem brokenReference?_eq_none_iff {part : DosPart} {p : DosProtected} :
    d.brokenReference? part p = none ↔
      ∀ key, part.key? p = some key → d.unusable? part key = none := by
  rw [brokenReference?]
  cases part.key? p <;> simp

/-- An evaluation finds nothing wrong when the entry is valid and what is named can be attached. -/
theorem complaint?_eq_none_iff {entry : DosEntry DosProtected} :
    d.complaint? entry = none ↔ entry.complaint = none ∧
      (∃ policy?, Attached (DosPart.policy.key? entry.object) (fun key o => d.policy key = .ok o)
        policy?) ∧
      ∃ logConf?, Attached (DosPart.logConf.key? entry.object) (fun key o => d.logConf key = .ok o)
        logConf? := by
  rw [exists_attached_iff, exists_attached_iff]
  simp only [← unusable?_policy_eq_none_iff, ← unusable?_logConf_eq_none_iff]
  rw [← brokenReference?_eq_none_iff, ← brokenReference?_eq_none_iff, complaint?]
  cases entry.complaint <;> cases d.brokenReference? .policy entry.object <;> simp

/-- What is served is what a look-up of its key succeeds for, wherever it is made. The module has to
be enabled for that, because a look-up fails otherwise. -/
theorem served?_eq_some_iff (henabled : d.isEnabled = true) {home reference : String}
    {p : DosProtected} :
    d.served? (qualify home reference) = some p ↔
      ∃ x, d.lookup home reference = .ok x ∧ x.protectedResource = p := by
  simp only [lookup_eq_ok_iff henabled, served?, Option.map_eq_some_iff, Option.filter_eq_some_iff,
    Option.isNone_iff_eq_none, complaint?_eq_none_iff]
  constructor
  · rintro ⟨entry, ⟨hget, hcomplaint, ⟨policy?, hpolicy⟩, logConf?, hlogConf⟩, rfl⟩
    exact ⟨⟨entry.object, policy?, logConf?⟩, ⟨entry, hget, hcomplaint, rfl, hpolicy, hlogConf⟩, rfl⟩
  · rintro ⟨x, ⟨entry, hget, hcomplaint, hobject, hpolicy, hlogConf⟩, rfl⟩
    exact ⟨entry, ⟨hget, hcomplaint, ⟨_, hpolicy⟩, _, hlogConf⟩, hobject.symm⟩

end Lookup

/-! ## 5. Runs -/

/-- The policy was applied last under the key, and it has a setting. One without any is stored, and
told as a problem, but protects nothing. -/
def ValidPolicy (events : List Event) (key : String) (p : DosPolicy) : Prop :=
  latest (.dosPolicy, key) events = some (.dosPolicy p) ∧ p.spec.isEmpty = false

/-- The log configuration was applied last under the key, and it has both its parts. It is judged as
the one of App Protect is. -/
def ValidLogConf (events : List Event) (key : String) (l : LogConf) : Prop :=
  latest (.dosLogConf, key) events = some (.dosLogConf l) ∧
    l.spec.content.isObject = true ∧ l.spec.filter.isObject = true

/-- An object is found when it is stored and nothing is wrong with it. -/
theorem usable_eq_ok_iff {α : Type} {part : DosPart} {stored : Table (DosEntry α)} {key : String}
    {o : α} : usable part stored key = .ok o ↔
      ∃ entry, stored.get? key = some entry ∧ entry.complaint = none ∧ entry.object = o := by
  rw [usable]
  cases stored.get? key with
  | none => simp
  | some entry => cases hcomplaint : entry.complaint <;> simp [hcomplaint]

section Run

variable {isEnabled : Bool} {events : List Event} {key : String}

/-- A policy that can be used was applied last and is valid. -/
theorem validPolicy_of_policy {p : DosPolicy}
    (h : ((fresh isEnabled).run events).policy key = .ok p) : ValidPolicy events key p := by
  obtain ⟨entry, hget, hcomplaint, rfl⟩ := usable_eq_ok_iff.1 h
  refine ⟨?_, ?_⟩
  · rw [← find?_run (by simp [kinds]), find?, hget]
    rfl
  · rw [kept_run.policy key entry hget] at hcomplaint
    simpa [DosEntry.ofPolicy, DosPolicySpec.complaint?] using hcomplaint

/-- So was a log configuration that can be used. -/
theorem validLogConf_of_logConf {l : LogConf}
    (h : ((fresh isEnabled).run events).logConf key = .ok l) : ValidLogConf events key l := by
  obtain ⟨entry, hget, hcomplaint, rfl⟩ := usable_eq_ok_iff.1 h
  refine ⟨?_, ?_⟩
  · rw [← find?_run (by simp [kinds]), find?, hget]
    rfl
  · rw [kept_run.logConf key entry hget] at hcomplaint
    simp only [DosEntry.ofLogConf, LogConfSpec.dosComplaint?, Option.map_eq_none_iff,
      LogConfSpec.missingPart?] at hcomplaint
    split_ifs at hcomplaint with hcontent hfilter
    exact ⟨by simpa using hcontent, by simpa using hfilter⟩

theorem Attached.imp {α : Type} {key? : Option String} {valid valid' : String → α → Prop}
    {o? : Option α} (h : Attached key? valid o?) (himp : ∀ key o, valid key o → valid' key o) :
    Attached key? valid' o? := by
  cases h with
  | unnamed hkey => exact .unnamed hkey
  | named key o hkey hvalid => exact .named key o hkey (himp key o hvalid)

/-- An event that is not about a protected resource leaves those that are stored as they are. -/
theorem protectedResources_step {d : Dos} (hkept : d.Kept) {e : Event} (h : e.kind ≠ .dosProtected) :
    (d.step e).1.protectedResources = d.protectedResources := by
  rw [fst_step hkept]
  rcases e with o | ⟨kind, removed⟩
  · cases o <;> first | rfl | exact absurd rfl h
  · cases kind <;> first | rfl | exact absurd rfl h

end Run

/-- Who follows the changes of protected resources has those that look-ups succeed for. After any
events, the copy has a protected resource under a key exactly when a look-up of the key finds it,
wherever it is made; what it is found with are the policy and the log configuration that it names,
if it names any, which were applied last under their keys and are valid. The stored protected
resources are those that were applied last, and to evaluate one of them again changes nothing, so
no event about a policy or a log configuration changes them. -/
theorem protected_resources_followed (events : List Event) :
    let d := (fresh true).run events
    let copy :=
      Change.follow protectedKey Table.empty (protectedChanges ((fresh true).told events))
    (∀ space name p, copy.get? (joinKey space name) = some p ↔
      ∀ home, ∃ x, d.lookup home (joinKey space name) = .ok x ∧ x.protectedResource = p) ∧
    (∀ home reference x, d.lookup home reference = .ok x →
      Attached (DosPart.policy.key? x.protectedResource) (ValidPolicy events) x.policy ∧
      Attached (DosPart.logConf.key? x.protectedResource) (ValidLogConf events) x.logConf) ∧
    (∀ key, (d.protectedResources.get? key).map (Object.dosProtected ∘ DosEntry.object) =
      latest (.dosProtected, key) events) ∧
    (∀ key entry, d.protectedResources.get? key = some entry →
      (d.evaluate entry.object).1 = d) ∧
    ∀ e, e.kind ≠ .dosProtected →
      (d.step e).1.protectedResources = d.protectedResources := by
  intro d copy
  have henabled : d.isEnabled = true := isEnabled_run
  refine ⟨fun space name p => ?_, fun home reference x hx => ?_, fun key => ?_,
    fun key entry hget => congrArg Prod.fst (evaluate_of_stored kept_run hget),
    fun e he => protectedResources_step kept_run he⟩
  · have hserved : ∀ home, copy.get? (joinKey space name) = some p ↔
        ∃ x, d.lookup home (joinKey space name) = .ok x ∧ x.protectedResource = p := by
      intro home
      rw [← served?_eq_some_iff henabled, qualify_joinKey, ← copies_run]
    exact ⟨fun h home => (hserved home).1 h, fun h => (hserved "").2 (h "")⟩
  · obtain ⟨entry, -, -, hobject, hpolicy, hlogConf⟩ := (lookup_eq_ok_iff henabled).1 hx
    rw [hobject]
    exact ⟨hpolicy.imp fun _ _ => validPolicy_of_policy,
      hlogConf.imp fun _ _ => validLogConf_of_logConf⟩
  · have hfind : d.find? (.dosProtected, key) = latest (.dosProtected, key) events :=
      find?_run (by simp [kinds])
    exact hfind

/-- A DoS policy with a setting. -/
def limits : DosPolicy :=
  ⟨{ Meta.blank with space := some "shop", name := some "limits" },
    ⟨some "standard", none, none, none⟩⟩

/-- A protected resource that names that policy. -/
def guarded : DosProtected :=
  ⟨{ Meta.blank with space := some "shop", name := some "web" },
    ⟨true, "web", none, "stderr", "limits", none⟩⟩

/-- A protected resource that came before its policy is found with it afterwards. Nobody applies it
again: it is evaluated when the policy comes. -/
theorem guarded_found :
    let events : List Event := [.apply (.dosProtected guarded), .apply (.dosPolicy limits)]
    ∃ x, ((fresh true).run events).lookup "shop" "web" = .ok x ∧
      Attached (some "shop/limits") (ValidPolicy events) x.policy := by
  intro events
  have hfound : ((fresh true).run events).lookup "shop" "web" = .ok ⟨guarded, some limits, none⟩ :=
    rfl
  refine ⟨_, hfound, ?_⟩
  exact ((protected_resources_followed events).2.1 "shop" "web" _ hfound).1

end Gatehouse.Dos
