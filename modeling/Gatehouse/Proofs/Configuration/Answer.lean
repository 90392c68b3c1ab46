import Gatehouse.Proofs.Configuration.Accounts
import Gatehouse.Proofs.Configuration.Silence

/-!
The whole answer to an event: changes with their errors, and problems.

Every event comes down to one scheme. The store is edited, what the edit can have touched is decided
anew, and when the event is the application of an object that is *refused*, that is meant for the
controller but wrong, its rejection is reported in the answer (`step_apply`). A deletion of what is
not there has nothing decided anew, but from a settled configuration that makes no difference
(`step_delete`). What is decided anew answers with the news of both tables of problems
(`problems_rebuild`), which are all warnings (`isError_of_mem_allNews`), and with changes without
errors (`error_of_mem_allChanges`). So whatever else there is in an answer comes from a rejection.

A change is about a resource that has a slot before or after (`served_of_mem_allChanges`), and one
that has lost its last slot is removed (`exists_delete_mem_allChanges`). None of this uses what the
checks of the kinds ensure.
-/

set_option autoImplicit false

namespace Gatehouse

/-! ## 1. Objects that are refused -/

namespace Admission

/-- The object is meant for the controller, as far as objects of its kind say so. The global
configuration and the kinds that are not kept always are. -/
def selects (a : Admission) : Object → Bool
  | .ingress i => a.selectsIngress i
  | .virtualServer vs => a.selectsClassName vs.spec.ingressClassName
  | .virtualServerRoute vsr => a.selectsClassName vsr.spec.ingressClassName
  | .transportServer ts => a.selectsClassName ts.spec.ingressClassName
  | .policy p => a.selectsClassName p.spec.ingressClassName
  | _ => true

/-- What is wrong with the object. -/
def errors (a : Admission) : Object → List FieldError
  | .ingress i => a.ingressErrors i
  | .virtualServer vs => a.virtualServerErrors vs
  | .virtualServerRoute vsr => a.virtualServerRouteErrors vsr
  | .transportServer ts => a.transportServerErrors ts
  | .globalConfiguration g => a.globalConfigurationErrors g
  | _ => []

/-- The object is meant for the controller, but something is wrong with it. -/
def refuses (a : Admission) (o : Object) : Bool := a.selects o && !(a.errors o).isEmpty

/-- What is let in is meant for the controller and has nothing wrong with it. The kinds that can be
served are those for which an answer can have a rejection. -/
theorem admits_eq (a : Admission) {o : Object} (h : o.kind ∈ Configuration.servedKinds) :
    a.admits o = (a.selects o && (a.errors o).isEmpty) := by
  cases o <;> first | rfl | simp [Configuration.servedKinds, Object.kind] at h

theorem admits_eq_false_of_refuses {a : Admission} {o : Object}
    (hkind : o.kind ∈ Configuration.servedKinds) (h : a.refuses o = true) : a.admits o = false := by
  rw [a.admits_eq hkind]
  rw [refuses, Bool.and_eq_true, Bool.not_eq_true'] at h
  rw [h.1, h.2, Bool.and_false]

end Admission

namespace Configuration

/-! ## 2. The scheme of an answer -/

/-- The problem that tells the rejection of an object. -/
def rejectionOf (o : Object) (error : String) : Problem :=
  .rejection o <|
    match o with
    | .ingress _ => error
    | o => rejectedMessage o error

/-- The answer with the rejection of an object reported in it. A virtual server route is no
resource, so there is no change that its error could be put on. -/
def withRejection (o : Object) (error : String) (r : Report Resource) : Report Resource :=
  if o.kind = .virtualServerRoute then { r with problems := r.problems ++ [rejectionOf o error] }
  else reject o error (rejectionOf o error).message r

/-- An object that is applied has decided anew what it can have touched, and is rejected in the
answer when it is refused. Unlike `step_spec`, this says which errors are put on the changes. -/
theorem step_apply (c : Configuration) {o : Object} (hkind : o.kind ∈ servedKinds) :
    c.step (.apply o) =
      let next := rebuild o.kind (c.withStore (c.store.after c.admission (.apply o)))
      if c.admission.refuses o then
        (next.1, withRejection o (FieldError.summary (c.admission.errors o)) next.2)
      else next := by
  cases o with
  | ingress i => rfl
  | virtualServer vs => rfl
  | virtualServerRoute vsr => rfl
  | transportServer ts => rfl
  | _ => simp [servedKinds, Object.kind] at hkind

theorem step_apply_of_not_served (c : Configuration) {o : Object} (hkind : o.kind ∉ servedKinds) :
    c.step (.apply o) = rebuild o.kind (c.withStore (c.store.after c.admission (.apply o))) := by
  cases o <;> first | rfl | simp [servedKinds, Object.kind] at hkind

/-- A deletion has decided anew what it can have touched, whether there was anything to delete or
not. From a settled configuration, deciding anew without need leaves it as it is and answers
nothing. -/
theorem step_delete {c : Configuration} (hc : c.Settled) (kind : Kind) (key : String) :
    c.step (.delete kind key) =
      rebuild kind (c.withStore (c.store.after c.admission (.delete kind key))) := by
  -- what is not there is not deleted, and then nothing is left to decide
  have hletGo : ∀ {α : Type} (t : Table α) (without : Store) (kind' : Kind),
      (t.get? key = none → without = c.store) →
      c.letGo (t.contains key) without (rebuild kind') = rebuild kind' (c.withStore without) := by
    intro α t without kind' habsent
    unfold letGo
    by_cases hin : t.contains key
    · rw [if_pos hin]
    · rw [if_neg hin, habsent (by simpa [Table.contains] using hin)]
      exact (rebuild_of_settled hc kind').symm
  cases kind with
  | ingress => exact hletGo _ _ .ingress fun h => by rw [Table.erase_of_get?_eq_none h]
  | virtualServer => exact hletGo _ _ .virtualServer fun h => by rw [Table.erase_of_get?_eq_none h]
  | virtualServerRoute =>
    exact hletGo _ _ .virtualServerRoute fun h => by rw [Table.erase_of_get?_eq_none h]
  | transportServer =>
    exact hletGo _ _ .transportServer fun h => by rw [Table.erase_of_get?_eq_none h]
  | _ => rfl

/-! ## 3. Problems -/

/-- The problems that one configuration has and another one did not have, or not so. Each table is
compared with its predecessor only. -/
def allNews (c next : Configuration) : List Problem :=
  Problem.news c.listenerProblems next.listenerProblems ++
    Problem.news c.hostProblems next.hostProblems

/-- Whatever is decided anew, the problems that are told are all that are news. A table that is not
replaced has none. -/
theorem problems_rebuild (kind : Kind) (c : Configuration) :
    (rebuild kind c).2.problems = allNews c (rebuild kind c).1 := by
  have hhosts : c.rebuildHosts.2.problems = allNews c c.rebuildHosts.1 := by
    -- Hosts alone: the table of the listeners is the old one and has no news.
    have hsame : c.rebuildHosts.1.listenerProblems = c.listenerProblems := rfl
    rw [allNews, hsame, news_self, List.nil_append]
    rfl
  have hlisteners : c.rebuildListeners.2.problems = allNews c c.rebuildListeners.1 := by
    have hsame : c.rebuildListeners.1.hostProblems = c.hostProblems := rfl
    rw [allNews, hsame, news_self, List.append_nil]
    rfl
  cases kind
  case ingress | virtualServer | virtualServerRoute => exact hhosts
  case transportServer =>
    simp only [rebuild, rebuildBoth]
    -- A TransportServer rebuilds the hosts too, but only with TLS passthrough.
    by_cases hon : c.passthrough
    · rw [if_pos hon]
      rfl
    · rw [if_neg hon]
      exact hlisteners
  case globalConfiguration => exact hlisteners
  all_goals
    show [] = allNews c c
    rw [allNews, news_self, news_self]
    rfl

/-- A problem is news when it stands and what stood under its key reads otherwise, if anything
did. -/
theorem mem_news_iff {earlier now : Table Problem} {p : Problem} :
    p ∈ Problem.news earlier now ↔
      ∃ key, now.get? key = some p ∧ ∀ q, earlier.get? key = some q → q.readsAs p = false := by
  simp only [Problem.news, List.mem_map, List.mem_filter, Prod.exists, exists_eq_right,
    Table.mem_entries_iff, Bool.not_eq_true', Option.any_eq_false]

/-- What is news stands. -/
theorem exists_stands_of_mem_allNews {c next : Configuration} {p : Problem}
    (h : p ∈ allNews c next) : ∃ key, next.Stands key p := by
  rcases List.mem_append.1 h with h | h
  · obtain ⟨key, hp, -⟩ := mem_news_iff.1 h
    exact ⟨key, .inr hp⟩
  · obtain ⟨key, hp, -⟩ := mem_news_iff.1 h
    exact ⟨key, .inl hp⟩

/-- What stands is a warning under its own key. Errors are told once and never stand. -/
theorem of_stands {c : Configuration} (hc : c.Settled) {key : String} {q : Problem}
    (h : c.Stands key q) : q.key = key ∧ q.isError = false := by
  rcases (stands_iff hc).1 h with hq | hq
  · obtain ⟨hkey, hwarning, -⟩ := HostPlan.of_mem_verdicts (mem_verdicts_of_hostProblems hq)
    exact ⟨hkey, hwarning⟩
  · obtain ⟨r, -, rfl, hproblem⟩ := exists_server_of_listenerProblems hq
    exact ⟨(of_listenerProblem? hproblem).1, (warning_of_listenerProblem? hproblem).1⟩

theorem isError_of_mem_allNews {c next : Configuration} (hnext : next.Settled) {p : Problem}
    (h : p ∈ allNews c next) : p.isError = false := by
  obtain ⟨key, hp⟩ := exists_stands_of_mem_allNews h
  exact (of_stands hnext hp).2

/-! ## 4. Changes -/

/-- The changes of one table have no errors, put what has a slot now, and remove what had one.
Nothing is assumed of the tables here, so it holds of any admission. -/
theorem of_mem_holderChanges {place : String → Slot} {earlier now : Table Resource}
    {before after : Holders} {resources : List Resource} (hbefore : Lists place earlier before)
    (hafter : Lists place now after) {change : ResourceChange}
    (h : change ∈ holderChanges earlier now resources) :
    change.error = none ∧ (change.isDelete = true → Served before change.resource.key) ∧
      (change.isDelete = false → Served after change.resource.key) := by
  obtain ⟨raw, hraw, rfl⟩ := List.mem_map.1 h
  have herror : (withLatest resources raw).error = raw.error := by
    unfold withLatest
    split <;> rfl
  rw [herror, isDelete_withLatest, key_withLatest]
  rcases (mem_slotChanges_iff hbefore hafter).1 (Change.mem_squash_iff.1 hraw).mem with
    ⟨slot, q, hq, -, rfl⟩ | ⟨slot, r, hgained, rfl⟩
  · exact ⟨rfl, fun _ => ⟨slot, q, hq, rfl⟩, nofun⟩
  · exact ⟨rfl, nofun, fun _ => ⟨slot, r, hgained.1, rfl⟩⟩

/-- What one table had and has no more is removed by its changes. The latest form of a resource that
is gone may not exist; it is the key that counts. -/
theorem exists_delete_mem_holderChanges {place : String → Slot} {earlier now : Table Resource}
    {before after : Holders} (resources : List Resource) (hbefore : Lists place earlier before)
    (hafter : Lists place now after) {key : String} (hwas : Served before key)
    (hgone : ¬Served after key) :
    ∃ change ∈ holderChanges earlier now resources,
      change.isDelete = true ∧ change.resource.key = key := by
  obtain ⟨raw, hraw, hdel, hkey⟩ := exists_delete_of_gone hbefore hafter hwas hgone
  exact ⟨withLatest resources raw, List.mem_map_of_mem hraw, by simpa using hdel,
    by simpa using hkey⟩

section Changes

variable {c next : Configuration} {change : ResourceChange} {key : String}

theorem nodup_keys_allChanges : ((allChanges c next).map fun d => d.resource.key).Nodup :=
  Change.nodup_keys_squash _

theorem mem_sides_of_mem_allChanges (h : change ∈ allChanges c next) :
    change ∈ listenerChanges c next ∨ change ∈ hostChanges c next :=
  List.mem_append.1 (mem_dropReleases_iff.1 (Change.mem_squash_iff.1 h).mem).1

/-- Changes that come of a decision have no errors. -/
theorem error_of_mem_allChanges (h : change ∈ allChanges c next) : change.error = none := by
  rcases mem_sides_of_mem_allChanges h with h | h
  · exact (of_mem_holderChanges (lists_listeners c) (lists_listeners next) h).1
  · exact (of_mem_holderChanges (lists_hosts c) (lists_hosts next) h).1

/-- What is removed was served before, and what is put is served now. That what is removed is served
no more needs more than this. -/
theorem served_of_mem_allChanges (h : change ∈ allChanges c next) :
    Served (if change.isDelete then c else next).holders change.resource.key := by
  -- on either side, and then altogether
  have hside : ∀ hosts, (change.isDelete = true →
      Served (sideOf hosts c.holders) change.resource.key) ∧
      (change.isDelete = false → Served (sideOf hosts next.holders) change.resource.key) →
      Served (if change.isDelete then c else next).holders change.resource.key := by
    rintro hosts ⟨hdelete, hput⟩
    cases hop : change.isDelete with
    | true => exact (served_iff_sides hosts).2 (.inl (hdelete hop))
    | false => exact (served_iff_sides hosts).2 (.inl (hput hop))
  rcases mem_sides_of_mem_allChanges h with h | h
  · exact hside false (of_mem_holderChanges (lists_listeners c) (lists_listeners next) h).2
  · exact hside true (of_mem_holderChanges (lists_hosts c) (lists_hosts next) h).2

/-- So a change about a resource that is not served now is a removal. -/
theorem isDelete_of_not_served (h : change ∈ allChanges c next)
    (hgone : ¬Served next.holders change.resource.key) : change.isDelete = true := by
  by_contra hput
  have hserved := served_of_mem_allChanges h
  rw [if_neg hput] at hserved
  exact hgone hserved

/-- What was served and is served no more is removed. The other side does not put it, so its removal
is not left out. -/
theorem exists_delete_mem_allChanges (hwas : Served c.holders key)
    (hgone : ¬Served next.holders key) :
    ∃ change ∈ allChanges c next, change.isDelete = true ∧ change.resource.key = key := by
  have hnot : ∀ hosts, ¬Served (sideOf hosts next.holders) key := fun hosts h =>
    hgone ((served_iff_sides hosts).2 (.inl h))
  have hraw : ∃ raw ∈ listenerChanges c next ++ hostChanges c next,
      raw.isDelete = true ∧ raw.resource.key = key := by
    rcases (served_iff_sides false).1 hwas with hwas | hwas
    · obtain ⟨raw, hmem, h⟩ := exists_delete_mem_holderChanges _ (lists_listeners c)
        (lists_listeners next) hwas (hnot false)
      exact ⟨raw, List.mem_append_left _ hmem, h⟩
    · obtain ⟨raw, hmem, h⟩ := exists_delete_mem_holderChanges _ (lists_hosts c)
        (lists_hosts next) hwas (hnot true)
      exact ⟨raw, List.mem_append_right _ hmem, h⟩
  -- no put of the key, on either side, makes the removal be left out
  have hnever : ∀ d ∈ listenerChanges c next ++ hostChanges c next, d.resource.key = key →
      d.isDelete = true := by
    intro d hd hkey
    by_contra hput
    have hd' : Served (sideOf false next.holders) d.resource.key ∨
        Served (sideOf true next.holders) d.resource.key := by
      rcases List.mem_append.1 hd with hd | hd
      · exact .inl ((of_mem_holderChanges (lists_listeners c) (lists_listeners next) hd).2.2
          (by simpa using hput))
      · exact .inr ((of_mem_holderChanges (lists_hosts c) (lists_hosts next) hd).2.2
          (by simpa using hput))
    rw [hkey] at hd'
    exact hd'.elim (hnot false) (hnot true)
  obtain ⟨raw, hmem, hdel, rfl⟩ := hraw
  have hkept : raw ∈ dropReleases (listenerChanges c next ++ hostChanges c next) :=
    mem_dropReleases_iff.2 ⟨hmem, fun _ => hnever⟩
  obtain ⟨change, hchange, hkey, hdelete⟩ := Change.exists_delete_mem_squash hkept fun d hd =>
    hnever d (mem_dropReleases_iff.1 hd).1
  exact ⟨change, hchange, hdelete, hkey⟩

end Changes

/-! ## 5. Answers -/

/-- What comes of the change from one configuration to another, apart from rejections. -/
def difference (c next : Configuration) : Report Resource := ⟨allChanges c next, allNews c next⟩

theorem report_rebuild (kind : Kind) (c : Configuration) :
    (rebuild kind c).2 = difference c (rebuild kind c).1 := by
  rw [difference, ← changes_rebuild, ← problems_rebuild]

/-- The answer to an application is what comes of it, with the rejection if the object is refused. -/
theorem answer_apply (c : Configuration) {o : Object} (hkind : o.kind ∈ servedKinds) :
    (c.step (.apply o)).2 =
      let answer := difference c (c.step (.apply o)).1
      if c.admission.refuses o then
        withRejection o (FieldError.summary (c.admission.errors o)) answer
      else answer := by
  have hreport := report_rebuild o.kind (c.withStore (c.store.after c.admission (.apply o)))
  rw [c.step_apply hkind]
  by_cases hrefused : c.admission.refuses o
  · simp only [if_pos hrefused, hreport]
    rfl
  · simp only [if_neg hrefused]
    exact hreport

/-- The answer to a deletion is what comes of it. There is nothing to reject. -/
theorem answer_delete {c : Configuration} (hc : c.Settled) (kind : Kind) (key : String) :
    (c.step (.delete kind key)).2 = difference c (c.step (.delete kind key)).1 := by
  rw [step_delete hc]
  exact report_rebuild kind _

end Configuration

end Gatehouse
