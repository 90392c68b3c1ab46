import Gatehouse.Proofs.Configuration.Rejection

/-!
What the owners of objects are told is what stands.

Two tables of problems stand, each is replaced when its side is decided anew, and an answer tells
what is news in either of them (`mem_allNews_iff`). A transport server can pass from one table to
the other, so a problem of one table has to be compared with what stood in the other. It reads
differently, because the problems of listeners and of hosts have different words
(`not_readsAs_of_mem_allNews`). No key is in both tables at once, so an answer mentions an object
once (`nodup_keys_allNews`). A rejection is told besides, but of an object that is gone from the
store, so nothing stands under its key any more (`not_stands_of_not_admits`).

From this a step keeps what a run has to have: the last thing that is told about an object with a
standing problem is that problem (`problems_told_once`).
-/

set_option autoImplicit false

namespace Gatehouse

namespace Problem

/-! ## 1. What is told about an object -/

/-- Problems read alike when the owner cannot tell them apart: the same severity, reason and
message. What object they are about is not part of it. -/
theorem readsAs_iff {p q : Problem} : p.readsAs q = true ↔
    p.isError = q.isError ∧ p.reason = q.reason ∧ p.message = q.message := by
  simp [readsAs, and_assoc]

theorem readsAs_refl (p : Problem) : p.readsAs p = true := readsAs_iff.2 ⟨rfl, rfl, rfl⟩

/-- Reading alike is transitive, so a problem that has been told stays told while others that read
like it stand. -/
theorem readsAs_trans {p q r : Problem} (hpq : p.readsAs q = true) (hqr : q.readsAs r = true) :
    p.readsAs r = true := by
  obtain ⟨herror, hreason, hmessage⟩ := readsAs_iff.1 hpq
  obtain ⟨herror', hreason', hmessage'⟩ := readsAs_iff.1 hqr
  exact readsAs_iff.2 ⟨herror.trans herror', hreason.trans hreason', hmessage.trans hmessage'⟩

/-- The last of some problems that is about the object with the key. It is what the owner of the
object has heard last. -/
def lastAbout (key : String) (problems : List Problem) : Option Problem :=
  (problems.filter fun p => p.key == key).getLast?

/-- What is told later comes before what was told earlier. If nothing is told later, the earlier one
stays. -/
theorem lastAbout_append (key : String) (earlier later : List Problem) :
    lastAbout key (earlier ++ later) = (lastAbout key later).or (lastAbout key earlier) := by
  rw [lastAbout, List.filter_append, List.getLast?_append]
  rfl

theorem lastAbout_eq_none_iff {key : String} {problems : List Problem} :
    lastAbout key problems = none ↔ ∀ p ∈ problems, p.key ≠ key := by
  simp [lastAbout]

theorem of_lastAbout {key : String} {problems : List Problem} {p : Problem}
    (h : lastAbout key problems = some p) : p ∈ problems ∧ p.key = key := by
  simpa using List.mem_filter.1 (List.mem_of_getLast? h)

end Problem

namespace Configuration

/-- All problems that the configuration answers some events with, in their order. -/
def problemsTold (c : Configuration) : List Event → List Problem
  | [] => []
  | e :: events => (c.step e).2.problems ++ (c.step e).1.problemsTold events

theorem problemsTold_append (c : Configuration) (events : List Event) (e : Event) :
    c.problemsTold (events ++ [e]) =
      c.problemsTold events ++ ((c.run events).step e).2.problems := by
  induction events generalizing c with
  | nil => simp [problemsTold, run]
  | cons e' events ih =>
    rw [List.cons_append, problemsTold, ih, problemsTold, List.append_assoc]
    rfl

/-! ## 2. What stands -/

/-- Every problem of a host stands apart from every problem of a listener. Their messages differ in
the first letter, which is all that is needed of the texts. -/
theorem message_of_hostProblems {c : Configuration} (hc : c.Settled) {key : String} {q : Problem}
    (h : c.hostProblems.get? key = some q) : q.message.toList.head? ≠ some 'L' := by
  rw [hc.hostProblems_eq] at h
  exact (HostPlan.of_mem_verdicts (mem_verdicts_of_hostProblems h)).2.2

/-- The messages about listeners are those that begin with the letter. -/
theorem message_of_listenerProblems {c : Configuration} (hc : c.Settled) {key : String}
    {q : Problem} (h : c.listenerProblems.get? key = some q) :
    q.message.toList.head? = some 'L' := by
  rw [hc.listenerProblems_eq] at h
  obtain ⟨r, -, -, hproblem⟩ := exists_server_of_listenerProblems h
  exact (warning_of_listenerProblem? hproblem).2

/-- No key is in both tables, as no object is judged by both plans. -/
theorem hostProblems_eq_none_of_listenerProblems {c : Configuration} (hc : c.Settled)
    (hs : c.store.Sound) {key : String} {q : Problem}
    (h : c.listenerProblems.get? key = some q) : c.hostProblems.get? key = none := by
  rw [hc.listenerProblems_eq] at h
  obtain ⟨r, hr, rfl, -⟩ := exists_server_of_listenerProblems h
  refine Option.eq_none_iff_forall_ne_some.2 fun p hp => ?_
  rw [hc.hostProblems_eq] at hp
  exact key_ne_of_verdicts hs hr (mem_verdicts_of_hostProblems hp) rfl

/-- One problem at most stands under a key. So it can be said of an object what its problem is. -/
theorem eq_of_stands {c : Configuration} (hc : c.Settled) (hs : c.store.Sound) {key : String}
    {p q : Problem} (hp : c.Stands key p) (hq : c.Stands key q) : p = q := by
  rcases hp with hp | hp <;> rcases hq with hq | hq
  · exact Option.some.inj (hp.symm.trans hq)
  · rw [hostProblems_eq_none_of_listenerProblems hc hs hq] at hp
    cases hp
  · rw [hostProblems_eq_none_of_listenerProblems hc hs hp] at hq
    cases hq
  · exact Option.some.inj (hp.symm.trans hq)

/-! ## 3. News -/

section News

variable {c next : Configuration} {p : Problem}

theorem stands_of_mem_allNews (hnext : next.Settled) (h : p ∈ allNews c next) :
    next.Stands p.key p := by
  obtain ⟨key, hp⟩ := exists_stands_of_mem_allNews h
  rwa [(of_stands hnext hp).1]

/-- What stands is news, or reads as what stood before. It may have stood in the same table only,
which is the one it is compared with. -/
theorem mem_allNews_or_of_stands {key : String} (h : next.Stands key p) :
    p ∈ allNews c next ∨ ∃ q, c.Stands key q ∧ q.readsAs p = true := by
  -- in the table of the problem
  have hnews : ∀ {earlier now : Table Problem}, now.get? key = some p →
      p ∈ Problem.news earlier now ∨ ∃ q, earlier.get? key = some q ∧ q.readsAs p = true := by
    intro earlier now hp
    by_cases hsame : ∃ q, earlier.get? key = some q ∧ q.readsAs p = true
    · exact .inr hsame
    · refine .inl (mem_news_iff.2 ⟨key, hp, fun q hq => ?_⟩)
      by_contra hreads
      exact hsame ⟨q, hq, by simpa using hreads⟩
  rcases h with hp | hp
  · rcases hnews hp with hmem | ⟨q, hq, hreads⟩
    · exact .inl (List.mem_append_right _ hmem)
    · exact .inr ⟨q, .inl hq, hreads⟩
  · rcases hnews hp with hmem | ⟨q, hq, hreads⟩
    · exact .inl (List.mem_append_left _ hmem)
    · exact .inr ⟨q, .inr hq, hreads⟩

/-- What is news does not read as what stood before, in either table. In its own table it was
compared; in the other one the words are different. -/
theorem not_readsAs_of_mem_allNews (hc : c.Settled) (hnext : next.Settled)
    (h : p ∈ allNews c next) {q : Problem} (hq : c.Stands p.key q) : q.readsAs p = false := by
  -- problems of different tables have different words
  have hword : q.message.toList.head? ≠ p.message.toList.head? → q.readsAs p = false := fun hne => by
    by_contra hreads
    exact hne (by rw [(Problem.readsAs_iff.1 (by simpa using hreads)).2.2])
  rcases List.mem_append.1 h with h | h <;> obtain ⟨key, hp, hnew⟩ := mem_news_iff.1 h
  · obtain rfl : p.key = key := (of_stands hnext (.inr hp)).1
    rcases hq with hq | hq
    · refine hword fun heq => message_of_hostProblems hc hq ?_
      rw [heq, message_of_listenerProblems hnext hp]
    · exact hnew q hq
  · obtain rfl : p.key = key := (of_stands hnext (.inl hp)).1
    rcases hq with hq | hq
    · exact hnew q hq
    · refine hword fun heq => message_of_hostProblems hnext hp ?_
      rw [← heq, message_of_listenerProblems hc hq]

/-- The news of a table with problems under their own keys have the keys of some entries. -/
theorem keys_news_sublist {earlier now : Table Problem}
    (hkeys : ∀ key q, now.get? key = some q → q.key = key) :
    ((Problem.news earlier now).map Problem.key).Sublist now.keys := by
  rw [← Table.map_values_eq_keys hkeys]
  exact (List.filter_sublist.map _).map _

/-- The news are about different objects, within a table because of its keys and between the tables
because they share none. -/
theorem nodup_keys_allNews (hnext : next.Settled) (hs : next.store.Sound) :
    ((allNews c next).map Problem.key).Nodup := by
  have hhosts : ∀ key q, next.hostProblems.get? key = some q → q.key = key :=
    fun key q hq => (of_stands hnext (.inl hq)).1
  have hlisteners : ∀ key q, next.listenerProblems.get? key = some q → q.key = key :=
    fun key q hq => (of_stands hnext (.inr hq)).1
  rw [allNews, List.map_append, List.nodup_append]
  refine ⟨(keys_news_sublist hlisteners).nodup (Table.nodup_keys _),
    (keys_news_sublist hhosts).nodup (Table.nodup_keys _), fun key hl other hh heq => ?_⟩
  obtain ⟨q, hq⟩ := Table.mem_keys_iff.1 ((keys_news_sublist hlisteners).subset hl)
  obtain ⟨r, hr⟩ := Table.mem_keys_iff.1 ((keys_news_sublist hhosts).subset hh)
  rw [← heq, hostProblems_eq_none_of_listenerProblems hnext hs hq] at hr
  cases hr

end News

/-! ## 4. Steps and runs -/

/-- An answer is what comes of the event, with a rejection when an object is refused. Which text the
rejection has does not matter here. -/
theorem answer_step {c : Configuration} (hc : c.Settled) (e : Event) :
    (c.step e).2 = difference c (c.step e).1 ∨
      ∃ o error, e = .apply o ∧ c.admission.admits o = false ∧
        (c.step e).2 = withRejection o error (difference c (c.step e).1) := by
  rcases e with o | ⟨kind, key⟩
  · by_cases hkind : o.kind ∈ servedKinds
    · rw [answer_apply c hkind]
      by_cases hrefused : c.admission.refuses o
      · exact .inr ⟨o, _, rfl, Admission.admits_eq_false_of_refuses hkind hrefused,
          if_pos hrefused⟩
      · exact .inl (if_neg hrefused)
    · left
      rw [step_apply_of_not_served c hkind]
      exact report_rebuild o.kind _
  · exact .inl (answer_delete hc kind key)

/-- What an answer tells when it leads from one configuration to another. `stands` excludes problems
that are gone already, and `all` that a new one is left out; a run keeps what was told last by these
two (`Tells.lastAbout`). -/
structure Tells (c next : Configuration) (problems : List Problem) : Prop where
  /-- The problems are about different objects. -/
  nodup : (problems.map Problem.key).Nodup
  /-- None of them reads as what stood before. -/
  fresh : ∀ p ∈ problems, ∀ q, c.Stands p.key q → q.readsAs p = false
  /-- They are what stands after, where anything does. -/
  stands : ∀ p ∈ problems, ∀ q, next.Stands p.key q → p = q
  /-- What is not told read as it does before. -/
  all : ∀ key p, next.Stands key p → p ∈ problems ∨ ∃ q, c.Stands key q ∧ q.readsAs p = true

section Tells

variable {c next : Configuration} (hc : c.Settled) (hnext : next.Settled)
  (hs : next.store.Sound)

include hc hnext hs

/-- What comes of an event is told in this way. No object is refused in this case. -/
theorem tells_allNews : Tells c next (allNews c next) where
  nodup := nodup_keys_allNews hnext hs
  fresh _ hp _ := not_readsAs_of_mem_allNews hc hnext hp
  stands _ hp _ := eq_of_stands hnext hs (stands_of_mem_allNews hnext hp)
  all _ _ := mem_allNews_or_of_stands

/-- An error may be told besides about an object of which no problem stands. It reads like none that
stood, since what stands are warnings. -/
theorem tells_allNews_concat {p : Problem} (herror : p.isError = true)
    (hnone : ∀ q, ¬next.Stands p.key q) : Tells c next (allNews c next ++ [p]) where
  nodup := by
    rw [List.map_append, List.nodup_append]
    refine ⟨nodup_keys_allNews hnext hs, List.nodup_singleton _, fun key hkey other hother heq => ?_⟩
    obtain ⟨q, hq, rfl⟩ := List.mem_map.1 hkey
    obtain rfl := List.mem_singleton.1 hother
    exact hnone q (heq ▸ stands_of_mem_allNews hnext hq)
  fresh q hq r hr := by
    rcases List.mem_append.1 hq with hq | hq
    · exact not_readsAs_of_mem_allNews hc hnext hq hr
    · -- what stands is a warning
      obtain rfl := List.mem_singleton.1 hq
      by_contra hreads
      have hsame := (Problem.readsAs_iff.1 (by simpa using hreads)).1
      rw [(of_stands hc hr).2, herror] at hsame
      cases hsame
  stands q hq r hr := by
    rcases List.mem_append.1 hq with hq | hq
    · exact eq_of_stands hnext hs (stands_of_mem_allNews hnext hq) hr
    · obtain rfl := List.mem_singleton.1 hq
      exact absurd hr (hnone r)
  all key q hq := (mem_allNews_or_of_stands hq).imp_left (List.mem_append_left _)

end Tells

/-- When the last about an object was what stood, it is so after an answer. If the answer is about
the object, it tells what stands; if not, what stands reads as it did. -/
theorem Tells.lastAbout {c next : Configuration} {told problems : List Problem}
    (h : Tells c next problems) (hnext : next.Settled)
    (hbefore : ∀ key p, c.Stands key p →
      ∃ q, Problem.lastAbout key told = some q ∧ q.readsAs p = true)
    (key : String) (p : Problem) (hp : next.Stands key p) :
    ∃ q, Problem.lastAbout key (told ++ problems) = some q ∧ q.readsAs p = true := by
  rw [Problem.lastAbout_append]
  cases hlast : Problem.lastAbout key problems with
  | some q =>
    obtain ⟨hq, rfl⟩ := Problem.of_lastAbout hlast
    obtain rfl := h.stands q hq p hp
    exact ⟨q, rfl, q.readsAs_refl⟩
  | none =>
    rcases h.all key p hp with hmem | ⟨q, hq, hreads⟩
    · exact absurd (of_stands hnext hp).1 (Problem.lastAbout_eq_none_iff.1 hlast p hmem)
    · obtain ⟨r, hr, hreads'⟩ := hbefore key q hq
      exact ⟨r, hr, Problem.readsAs_trans hreads' hreads⟩

section Run

variable {className : String} {f : Features} {events : List Event}

/-- No problem stands about an object that is not taken on. It is gone from the store, and the plans
judge nothing else. -/
theorem not_stands_of_not_admits {o : Object}
    (h : (Admission.checked className f).admits o = false) (q : Problem) :
    ¬(((fresh f (.checked className f)).run events).step (.apply o)).1.Stands o.key q := by
  intro hq
  have hsound : (((fresh f (.checked className f)).run events).step (.apply o)).1.store.Sound := by
    rw [← run_append]
    exact sound_run
  obtain ⟨kind, hkind, key, old, hfound, hkey⟩ :=
    exists_object_of_stands (settled_step settled_run _) hsound hq
  obtain ⟨rfl, rfl⟩ := Kind.joinKey_inj hkey
  have hplace : placeOf o.kind o.metadata.key = (o.kind, o.metadata.key) :=
    if_neg fun heq => by simp [heq, servedKinds] at hkind
  rw [← hplace, find?_step_of_not_admits h] at hfound
  cases hfound

/-- Every answer of a run tells in this way. The two cases are whether the object of the event is
refused. -/
theorem tells_step (e : Event) :
    Tells ((fresh f (.checked className f)).run events)
      (((fresh f (.checked className f)).run events).step e).1
      (((fresh f (.checked className f)).run events).step e).2.problems := by
  have hc : ((fresh f (.checked className f)).run events).Settled := settled_run
  have hnext := settled_step hc e
  have hs : (((fresh f (.checked className f)).run events).step e).1.store.Sound := by
    rw [← run_append]
    exact sound_run
  rcases answer_step hc e with h | ⟨o, error, rfl, hnot, h⟩
  · rw [h]
    exact tells_allNews hc hnext hs
  · rw [admission_run] at hnot
    rw [h]
    rcases withRejection_eq o error (difference _ _) with ⟨-, h⟩ | h <;> rw [h]
    · exact tells_allNews hc hnext hs
    · exact tells_allNews_concat hc hnext hs rfl (not_stands_of_not_admits hnot)

end Run

/-- Problems are told when they come up and not again. After any events, the last problem that was
told about an object with a standing problem reads as that problem does. The problems that an event
is answered with are about different objects, and none of them reads as one that stood for its
object before. -/
theorem problems_told_once (className : String) (f : Features) (events : List Event) :
    let start := fresh f (.checked className f)
    let c := start.run events
    (∀ key p, c.Stands key p →
      ∃ q, Problem.lastAbout key (start.problemsTold events) = some q ∧ q.readsAs p = true) ∧
    ∀ e, ((c.step e).2.problems.map Problem.key).Nodup ∧
      ∀ p ∈ (c.step e).2.problems, ∀ q, c.Stands p.key q → q.readsAs p = false := by
  intro start c
  refine ⟨?_, fun e => ⟨(tells_step e).nodup, (tells_step e).fresh⟩⟩
  -- From the right: what stands after an event was told by it, or stood and was not told again.
  induction events using List.reverseRecOn with
  | nil => exact fun key p hp => by rcases hp with hp | hp <;> cases hp
  | append_singleton events e ih =>
    intro key p hp
    rw [problemsTold_append]
    rw [show c = _ from run_append start events e] at hp
    exact (tells_step e).lastAbout (settled_step settled_run e) ih key p hp

/-- A virtual server asks for a host that an older one has, then comes without a host, and then asks
for the host of the older one again. -/
theorem problem_told_again :
    let start := fresh Features.none (.checked "nginx" Features.none)
    let events : List Event :=
      [.apply (.virtualServer (plainServer "tea" "cafe.example.com" 1 10)),
        .apply (.virtualServer (plainServer "milk" "cafe.example.com" 1 20)),
        .apply (.virtualServer (plainServer "milk" "" 2 20)),
        .apply (.virtualServer (plainServer "milk" "cafe.example.com" 3 20))]
    let about := "VirtualServer/shop/milk"
    ((start.problemsTold events).filter fun p => p.key == about).map (·.isError) =
        [false, true, false] ∧
      ∃ p, (start.run events).Stands about p ∧
        ∃ q, Problem.lastAbout about (start.problemsTold events) = some q ∧ q.readsAs p = true := by
  intro start events about
  -- Only that a problem stands is evaluated; that the last told one reads like it is the theorem.
  have hsome : ((start.run events).hostProblems.get? about).isSome = true := by decide +kernel
  obtain ⟨p, hp⟩ := Option.isSome_iff_exists.1 hsome
  exact ⟨by decide +kernel, p, .inl hp,
    (problems_told_once "nginx" Features.none events).1 about p (.inl hp)⟩

end Configuration

end Gatehouse
