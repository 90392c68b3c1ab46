import Gatehouse.Proofs.Configuration.Answer
import Gatehouse.Proofs.Configuration.Parts

/-!
Objects that are applied and not taken on.

Such an object leaves the store as its deletion would (`after_of_not_admits`), so the configuration
decides the same from it, and the answer is the same up to the rejection (`unusable_is_deleted`).

The rejection is put on the change that has the key of the object, whatever that change is about,
and is told as a problem when there is none. That this is always the right place follows from what
an answer is. Whatever has a slot after the event is an object of the store, and the refused object
is not there any more (`not_served_of_not_admits`). So a change with its key can only be a removal,
there is one just when the object was served before, and there is no other one because an answer
mentions a resource once. All other changes are without errors and all other problems are warnings.
So a rejection is reported once (`rejection_reported_once`), whatever the checks of the kinds are.
-/

set_option autoImplicit false

namespace Gatehouse.Configuration

/-! ## 1. Putting an error on a change -/

/-- The changes with an error put on one of them. The others are left as they are, and so is the
order. -/
def Blames (error : String) (changes blamed : List ResourceChange) (change : ResourceChange) :
    Prop :=
  ∃ earlier later, changes = earlier ++ change :: later ∧
    blamed = earlier ++ { change with error := some error } :: later

/-- The error goes to a change with the key when there is one. The others are left as they are, in
their places. -/
theorem exists_blames {key : String} (error : String) {changes : List ResourceChange}
    (h : ∃ d ∈ changes, d.resource.key = key) :
    ∃ change, change.resource.key = key ∧
      Blames error changes (blame key error changes) change := by
  induction changes with
  | nil => simp at h
  | cons d ds ih =>
    by_cases hd : d.resource.key = key
    · exact ⟨d, hd, [], ds, rfl, by simp [blame, hd]⟩
    · have hlater : ∃ d ∈ ds, d.resource.key = key := by simpa [hd] using h
      obtain ⟨change, hkey, earlier, later, rfl, hblame⟩ := ih hlater
      exact ⟨change, hkey, d :: earlier, later, rfl, by simp [blame, hd, hblame]⟩

/-! ## 2. What is left of an object that is not taken on -/

/-- To the store it is as if the object were deleted: nothing is left at its place, and the other
places are as they were. -/
theorem after_of_not_admits (s : Store) {a : Admission} {o : Object} (h : a.admits o = false) :
    s.after a (.apply o) = s.after a (.delete o.kind o.metadata.key) := by
  have hnone : (Event.apply o).object?.filter a.admits = none :=
    Option.filter_some_neg (by simp [h])
  refine Store.ext_find? fun place => ?_
  rw [Store.find?_after, Store.find?_after, hnone]
  rfl

/-- What has a part in what is served is an object of the store. Read backwards, what has gone from
the store has gone from every resource as well. -/
theorem exists_find?_of_serves {c : Configuration} (hc : c.Settled) {o : Object}
    (h : c.Serves o) : ∃ place, c.store.find? place = some o := by
  -- Whatever way an object is served, it is a part of a resource, and parts are stored.
  have hpart : ∀ r ∈ c.resources, o ∈ r.parts → ∃ place, c.store.find? place = some o :=
    fun r hr ho => by
      obtain ⟨slot, hslot⟩ := exists_holder_of_mem_resources hr
      exact find?_of_mem_parts hc hslot ho
  cases o with
  | ingress i =>
    by_cases hminion : i.isMinion
    · simp only [Serves, if_pos hminion] at h
      obtain ⟨r, hr, -, m, hm, rfl⟩ := h
      exact hpart _ hr (List.mem_cons_of_mem _ (List.mem_map_of_mem hm))
    · simp only [Serves, if_neg hminion] at h
      obtain ⟨r, hr, rfl⟩ := h
      exact hpart _ hr List.mem_cons_self
  | virtualServerRoute vsr =>
    obtain ⟨r, hr, hroute⟩ := h
    exact hpart _ hr (List.mem_cons_of_mem _ (List.mem_map_of_mem hroute))
  | virtualServer | transportServer =>
    obtain ⟨r, hr, rfl⟩ := h
    exact hpart _ hr List.mem_cons_self
  | _ => exact absurd h id

section Run

variable {f : Features} {a : Admission} {events : List Event} {o : Object}

/-- Nothing is at the place of the object after it. -/
theorem find?_step_of_not_admits (h : a.admits o = false) :
    (((fresh f a).run events).step (.apply o)).1.store.find? (placeOf o.kind o.metadata.key) =
      none := by
  rw [store_step, admission_run, Store.find?_after]
  exact (if_pos rfl).trans (Option.filter_some_neg (by simp [h]))

/-- No version of the object is in the store after it. -/
theorem find?_ne_of_not_admits (h : a.admits o = false) {old : Object} (hkind : old.kind = o.kind)
    (hkey : old.metadata.key = o.metadata.key) (place : Place) :
    (((fresh f a).run events).step (.apply o)).1.store.find? place ≠ some old := by
  intro hfound
  have hplace : placeOf old.kind old.metadata.key = place := by
    rw [← run_append] at hfound
    exact (of_find?_run place _ hfound).2.1
  rw [← hplace, hkind, hkey, find?_step_of_not_admits h] at hfound
  cases hfound

/-- No resource with the key of the object is served after it. What is served is built from the
store. -/
theorem not_served_of_not_admits (h : a.admits o = false) :
    ¬Served (((fresh f a).run events).step (.apply o)).1.holders o.key := by
  rintro ⟨slot, r, hr, hkey⟩
  obtain ⟨place, hfound⟩ := find?_of_mem_parts (settled_step settled_run _) hr r.object_mem_parts
  obtain ⟨hkind, hmeta⟩ := Kind.joinKey_inj hkey
  exact find?_ne_of_not_admits h (r.kind_object.trans hkind)
    ((congrArg Meta.key r.metadata_object).trans hmeta) place hfound

/-- No version of the object has a part in what is served after it. -/
theorem not_serves_of_not_admits (h : a.admits o = false) {old : Object}
    (hkind : old.kind = o.kind) (hkey : old.metadata.key = o.metadata.key) :
    ¬(((fresh f a).run events).step (.apply o)).1.Serves old := fun hserves => by
  obtain ⟨place, hfound⟩ := exists_find?_of_serves (settled_step settled_run _) hserves
  exact find?_ne_of_not_admits h hkind hkey place hfound

end Run

theorem not_served_of_route {holders : Holders} {o : Object}
    (h : o.kind = .virtualServerRoute) : ¬Served holders o.key := by
  rintro ⟨slot, r, -, hkey⟩
  have hkind : r.kind = .virtualServerRoute := (Kind.joinKey_inj hkey).1.trans h
  cases r <;> cases hkind

theorem exists_mem_resources_iff {c : Configuration} {key : String} :
    (∃ r ∈ c.resources, r.key = key) ↔ Served c.holders key := exists_mem_servedBy_iff

/-! ## 3. Rejections are reported once -/

/-- One change is about the resource with the key. It removes it and has the error; no other change
has an error, and no problem is one. -/
structure RejectedOnChange (key error : String) (r : Report Resource) : Prop where
  one : ∃ earlier change later, r.changes = earlier ++ change :: later ∧
    change.resource.key = key ∧ change.op = .delete ∧ change.error = some error ∧
    ∀ d ∈ earlier ++ later, d.resource.key ≠ key ∧ d.error = none
  quiet : ∀ p ∈ r.problems, p.isError = false

/-- The rejection is the one problem that is an error. No change is about its object, and none has
an error. -/
structure RejectedAsProblem (rejection : Problem) (r : Report Resource) : Prop where
  one : r.problems.filter (·.isError) = [rejection]
  others : ∀ d ∈ r.changes, d.resource.key ≠ rejection.key ∧ d.error = none

/-- No change has an error, and no problem is one. This is how an answer looks when nothing was
refused; warnings may be in it. -/
structure Unblamed (r : Report Resource) : Prop where
  plain : ∀ d ∈ r.changes, d.error = none
  quiet : ∀ p ∈ r.problems, p.isError = false

section Reports

variable {o : Object} {error : String} {r : Report Resource}

/-- Where a change is about the object, it takes the error. -/
theorem withRejection_of_mentioned (hkind : o.kind ≠ .virtualServerRoute)
    (h : ∃ d ∈ r.changes, d.resource.key = o.key) :
    withRejection o error r = { r with changes := blame o.key error r.changes } := by
  have hany : (r.changes.any fun d => d.resource.key == o.key) = true := by
    simpa only [List.any_eq_true, beq_iff_eq] using h
  simp only [withRejection, if_neg hkind, reject]
  exact if_pos hany

/-- Where none is, there is a problem. -/
theorem withRejection_of_not_mentioned
    (h : o.kind = .virtualServerRoute ∨ ¬∃ d ∈ r.changes, d.resource.key = o.key) :
    withRejection o error r = { r with problems := r.problems ++ [rejectionOf o error] } := by
  by_cases hkind : o.kind = .virtualServerRoute
  · rw [withRejection, if_pos hkind]
  · have hany : ¬(r.changes.any fun d => d.resource.key == o.key) = true := by
      simpa only [List.any_eq_true, beq_iff_eq] using h.resolve_left hkind
    simp only [withRejection, if_neg hkind, reject]
    exact if_neg hany

variable (o error r) in
/-- A rejection is put on a change or told as a problem. -/
theorem withRejection_eq :
    ((∃ d ∈ r.changes, d.resource.key = o.key) ∧
      withRejection o error r = { r with changes := blame o.key error r.changes }) ∨
    withRejection o error r = { r with problems := r.problems ++ [rejectionOf o error] } := by
  by_cases h : o.kind = .virtualServerRoute ∨ ¬∃ d ∈ r.changes, d.resource.key = o.key
  · exact .inr (withRejection_of_not_mentioned h)
  · obtain ⟨hkind, hmentioned⟩ := not_or.1 h
    exact .inl ⟨not_not.1 hmentioned, withRejection_of_mentioned hkind (not_not.1 hmentioned)⟩

/-- The rejection of what is only removed is put on its removal. There is one change with the key,
so no other one can be blamed, and no problem is added. -/
theorem rejectedOnChange_withRejection (hkind : o.kind ≠ .virtualServerRoute) (hr : Unblamed r)
    (hnodup : (r.changes.map fun d => d.resource.key).Nodup)
    (hmentioned : ∃ d ∈ r.changes, d.resource.key = o.key)
    (hdelete : ∀ d ∈ r.changes, d.resource.key = o.key → d.isDelete = true) :
    RejectedOnChange o.key error (withRejection o error r) := by
  rw [withRejection_of_mentioned hkind hmentioned]
  obtain ⟨change, hkey, earlier, later, hchanges, hblame⟩ := exists_blames error hmentioned
  have hmem : change ∈ r.changes := by simp [hchanges]
  have hop : change.op = .delete := by simpa [Change.isDelete] using hdelete change hmem hkey
  -- the answer mentions a resource once
  rw [hchanges, (List.perm_middle.map _).nodup_iff, List.map_cons, List.nodup_cons] at hnodup
  have hothers : ∀ d ∈ earlier ++ later, d.resource.key ≠ o.key := fun d hd hsame =>
    hnodup.1 (List.mem_map.2 ⟨d, hd, hsame.trans hkey.symm⟩)
  have hplain : ∀ d ∈ earlier ++ later, d.error = none := fun d hd => by
    refine hr.plain d ?_
    rw [hchanges, List.perm_middle.mem_iff]
    exact List.mem_cons_of_mem _ hd
  exact ⟨⟨earlier, { change with error := some error }, later, hblame, hkey, hop, rfl,
    fun d hd => ⟨hothers d hd, hplain d hd⟩⟩, hr.quiet⟩

/-- The rejection of what is not mentioned is told as a problem. -/
theorem rejectedAsProblem_withRejection (hr : Unblamed r)
    (hmentioned : ¬∃ d ∈ r.changes, d.resource.key = o.key) :
    RejectedAsProblem (rejectionOf o error) (withRejection o error r) := by
  rw [withRejection_of_not_mentioned (.inr hmentioned)]
  have hquiet : r.problems.filter (·.isError) = [] :=
    List.filter_eq_nil_iff.2 fun p hp => by simp [hr.quiet p hp]
  refine ⟨?_, fun d hd => ⟨fun hkey => hmentioned ⟨d, hd, hkey⟩, hr.plain d hd⟩⟩
  rw [List.filter_append, hquiet]
  rfl

end Reports

section Answers

variable {c next : Configuration} {key : String}

theorem unblamed_difference (hnext : next.Settled) : Unblamed (difference c next) where
  plain _ := error_of_mem_allChanges
  quiet _ := isError_of_mem_allNews hnext

/-- What is served no more is mentioned when it was served. So which of the two ways a rejection
goes is decided by what was served before. -/
theorem mentioned_iff_of_not_served (hgone : ¬Served next.holders key) :
    (∃ d ∈ (difference c next).changes, d.resource.key = key) ↔ Served c.holders key := by
  constructor
  · rintro ⟨d, hd, rfl⟩
    have hserved := served_of_mem_allChanges hd
    rwa [if_pos (isDelete_of_not_served hd hgone)] at hserved
  · intro hwas
    obtain ⟨d, hd, -, hkey⟩ := exists_delete_mem_allChanges hwas hgone
    exact ⟨d, hd, hkey⟩

end Answers

/-- Whatever the checks are, after any events the rejection of an object that is refused is reported
once. When a resource with the key of the object was served, it is reported on the change that
removes that resource, and otherwise, which is always so for a virtual server route, as a problem.
Nothing else in the answer is blamed on anything, and nothing at all is when the object is not
refused. -/
theorem rejection_reported_once (f : Features) (a : Admission) (events : List Event) (o : Object)
    (hkind : o.kind ∈ servedKinds) :
    let c := (fresh f a).run events
    let answer := (c.step (.apply o)).2
    let error := FieldError.summary (a.errors o)
    let served := ∃ r ∈ c.resources, r.key = o.key
    (a.refuses o = true → o.kind ≠ .virtualServerRoute → served →
      RejectedOnChange o.key error answer) ∧
    (a.refuses o = true → (o.kind = .virtualServerRoute ∨ ¬served) →
      RejectedAsProblem (rejectionOf o error) answer) ∧
    (a.refuses o = false → Unblamed answer) := by
  intro c answer error served
  have hnext : (c.step (.apply o)).1.Settled := settled_step settled_run _
  have hadmission : c.admission = a := admission_run
  -- The answer is what a deletion would say, which blames nobody, and the rejection put into it.
  have hplain : Unblamed (difference c (c.step (.apply o)).1) := unblamed_difference hnext
  have hanswer : answer = if a.refuses o then
      withRejection o error (difference c (c.step (.apply o)).1)
      else difference c (c.step (.apply o)).1 := by
    have h := answer_apply c hkind
    rw [hadmission] at h
    exact h
  -- After a rejection the key is not served, so a change about it can only be a deletion.
  have hgone : a.refuses o = true → ¬Served (c.step (.apply o)).1.holders o.key := fun hrefused =>
    not_served_of_not_admits (Admission.admits_eq_false_of_refuses hkind hrefused)
  refine ⟨fun hrefused hroute hserved => ?_, fun hrefused hnot => ?_, fun hnot => ?_⟩
  · rw [hanswer, if_pos hrefused]
    have hwas : Served c.holders o.key := exists_mem_resources_iff.1 hserved
    exact rejectedOnChange_withRejection hroute hplain nodup_keys_allChanges
      ((mentioned_iff_of_not_served (hgone hrefused)).2 hwas)
      fun d hd hkey => isDelete_of_not_served hd (hkey ▸ hgone hrefused)
  · rw [hanswer, if_pos hrefused]
    have hwas : ¬Served c.holders o.key := by
      rcases hnot with hroute | hnot
      · exact not_served_of_route hroute
      · exact mt exists_mem_resources_iff.2 hnot
    exact rejectedAsProblem_withRejection hplain
      (mt (mentioned_iff_of_not_served (hgone hrefused)).1 hwas)
  · rw [hanswer, hnot]
    exact hplain

/-- A virtual server that is served comes again without a host. It is removed, and the removal says
why. -/
theorem rejection_of_served_server :
    let a := Admission.checked "nginx" Features.none
    let broken := Object.virtualServer (plainServer "tea" "" 2 10)
    let c := (fresh Features.none a).run
      [.apply (.virtualServer (plainServer "tea" "tea.example.com" 1 10))]
    broken.kind ∈ servedKinds ∧ a.refuses broken = true ∧
      (∃ r ∈ c.resources, r.key = "VirtualServer/shop/tea") ∧
      RejectedOnChange "VirtualServer/shop/tea" "spec.host: Required value"
        (c.step (.apply broken)).2 := by
  intro a broken c
  have hkind : broken.kind ∈ servedKinds := by decide
  have hrefused : a.refuses broken = true := by decide +kernel
  have hkey : broken.key = "VirtualServer/shop/tea" := by decide
  have herror : FieldError.summary (a.errors broken) = "spec.host: Required value" := by
    decide +kernel
  have hserved : ∃ r ∈ c.resources, r.key = "VirtualServer/shop/tea" := by
    refine exists_mem_resources_iff.2 ⟨.host "tea.example.com", ?_⟩
    exact ⟨.virtualServer ⟨plainServer "tea" "tea.example.com" 1 10, [], []⟩, by decide +kernel,
      by decide⟩
  refine ⟨hkind, hrefused, hserved, ?_⟩
  -- The key and the text in the claim are those of the object, so the theorem speaks of them.
  rw [← hkey] at hserved ⊢
  rw [← herror]
  exact (rejection_reported_once Features.none a _ broken hkind).1 hrefused (by decide) hserved

/-! ## 4. What is not taken on is let go -/

/-- The answers are the same up to the report of one rejection: an error that is put on a change, or
a problem that is added. -/
def SameButRejection (r blamed : Report Resource) : Prop :=
  (∃ change error, Blames error r.changes blamed.changes change ∧ blamed.problems = r.problems) ∨
    ∃ p, p.isError = true ∧ blamed.changes = r.changes ∧ blamed.problems = r.problems ++ [p]

/-- Reporting a rejection is nothing else than one of the two. -/
theorem sameButRejection_withRejection (o : Object) (error : String) (r : Report Resource) :
    SameButRejection r (withRejection o error r) := by
  rcases withRejection_eq o error r with ⟨hmentioned, h⟩ | h
  · obtain ⟨change, -, hblames⟩ := exists_blames error hmentioned
    rw [h]
    exact .inl ⟨change, error, hblames, rfl⟩
  · rw [h]
    exact .inr ⟨rejectionOf o error, rfl, rfl, rfl⟩

section Deletion

variable {c : Configuration} (hc : c.Settled) {o : Object}

include hc

/-- An object that is not taken on leaves the configuration as its deletion does. -/
theorem state_of_not_admits (h : c.admission.admits o = false) :
    (c.step (.apply o)).1 = (c.step (.delete o.kind o.metadata.key)).1 := by
  rw [step_of_settled hc, step_of_settled hc, after_of_not_admits c.store h]

/-- An object that is not meant for the controller is deleted. -/
theorem step_of_not_selects (hkind : o.kind ∈ servedKinds) (h : c.admission.selects o = false) :
    c.step (.apply o) = c.step (.delete o.kind o.metadata.key) := by
  have hadmits : c.admission.admits o = false := by
    rw [c.admission.admits_eq hkind, h, Bool.false_and]
  have hrefuses : ¬c.admission.refuses o = true := by simp [Admission.refuses, h]
  have hstate := state_of_not_admits hc hadmits
  refine Prod.ext hstate ?_
  rw [answer_apply c hkind, answer_delete hc, hstate]
  exact if_neg hrefuses

/-- The answer to an object that is refused is that to its deletion, with the rejection. Both have
the same decided anew, from the same store. -/
theorem answer_of_refuses (hkind : o.kind ∈ servedKinds) (h : c.admission.refuses o = true) :
    (c.step (.apply o)).2 = withRejection o (FieldError.summary (c.admission.errors o))
      (c.step (.delete o.kind o.metadata.key)).2 := by
  have hadmits := Admission.admits_eq_false_of_refuses hkind h
  rw [answer_apply c hkind, answer_delete hc, state_of_not_admits hc hadmits]
  exact if_pos h

end Deletion

/-- A global configuration that is wrong is deleted. -/
theorem applyGlobalConfiguration_of_errors (c : Configuration) {g : GlobalConfiguration}
    (h : c.admission.globalConfigurationErrors g ≠ []) :
    c.applyGlobalConfiguration g = (c.deleteGlobalConfiguration.1, c.deleteGlobalConfiguration.2,
      c.admission.globalConfigurationErrors g) := by
  have hwrong : ¬(c.admission.globalConfigurationErrors g).isEmpty = true := by simpa using h
  simp only [applyGlobalConfiguration, if_neg hwrong]
  rfl

/-- Whatever the checks are, after any events to apply an object that cannot be used is to delete
it. One that is not meant for the controller leaves the same configuration and has the same answer
as its deletion; one that is refused leaves the same configuration and has the same answer up to one
rejection; a global configuration that is wrong leaves the same configuration and has the same
answer, and its errors are told besides. So no version of the object is left from before, neither in
the store nor in what is served. -/
theorem unusable_is_deleted (f : Features) (a : Admission) (events : List Event) :
    let c := (fresh f a).run events
    (∀ o, o.kind ∈ servedKinds → a.selects o = false →
      c.step (.apply o) = c.step (.delete o.kind o.metadata.key)) ∧
    (∀ o, o.kind ∈ servedKinds → a.refuses o = true →
      (c.step (.apply o)).1 = (c.step (.delete o.kind o.metadata.key)).1 ∧
        SameButRejection (c.step (.delete o.kind o.metadata.key)).2 (c.step (.apply o)).2) ∧
    (∀ g, a.globalConfigurationErrors g ≠ [] →
      c.applyGlobalConfiguration g = (c.deleteGlobalConfiguration.1,
        c.deleteGlobalConfiguration.2, a.globalConfigurationErrors g)) ∧
    ∀ o, a.admits o = false →
      (c.step (.apply o)).1.store.find? (placeOf o.kind o.metadata.key) = none ∧
        ∀ old : Object, old.kind = o.kind → old.metadata.key = o.metadata.key →
          ¬(c.step (.apply o)).1.Serves old := by
  intro c
  have hc : c.Settled := settled_run
  have hadmission : c.admission = a := admission_run
  refine ⟨fun o hkind hnot => ?_, fun o hkind hrefused => ?_, fun g hwrong => ?_,
    fun o hnot => ⟨find?_step_of_not_admits hnot, fun old => not_serves_of_not_admits hnot⟩⟩
  · exact step_of_not_selects hc hkind (by rwa [hadmission])
  · -- Refused and deleted leave the same store; the answers differ by the rejection.
    have hrefused' : c.admission.refuses o = true := by rwa [hadmission]
    refine ⟨state_of_not_admits hc (Admission.admits_eq_false_of_refuses hkind hrefused'), ?_⟩
    rw [answer_of_refuses hc hkind hrefused']
    exact sameButRejection_withRejection o _ _
  · have h := applyGlobalConfiguration_of_errors c (g := g) (by rwa [hadmission])
    rwa [hadmission] at h

/-- A virtual server that is served comes again for another class, or without a host, and is gone
either way. -/
theorem served_server_is_deleted :
    let a := Admission.checked "nginx" Features.none
    let broken := Object.virtualServer (plainServer "tea" "" 2 10)
    let moved := Object.virtualServer
      { plainServer "tea" "tea.example.com" 2 10 with
        spec := { (plainServer "tea" "tea.example.com" 2 10).spec with
          ingressClassName := "other" } }
    let c := (fresh Features.none a).run
      [.apply (.virtualServer (plainServer "tea" "tea.example.com" 1 10))]
    a.refuses broken = true ∧ a.selects moved = false ∧
      c.step (.apply moved) = c.step (.delete .virtualServer "shop/tea") ∧
      (c.step (.apply broken)).1 = (c.step (.delete .virtualServer "shop/tea")).1 := by
  intro a broken moved c
  have hrefused : a.refuses broken = true := by decide +kernel
  have hnot : a.selects moved = false := by decide +kernel
  obtain ⟨hmoved, hbroken, -, -⟩ := unusable_is_deleted Features.none a
    [.apply (.virtualServer (plainServer "tea" "tea.example.com" 1 10))]
  exact ⟨hrefused, hnot, hmoved moved (by decide) hnot, (hbroken broken (by decide) hrefused).1⟩

end Gatehouse.Configuration
