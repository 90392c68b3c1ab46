import Gatehouse.Proofs.Plan.Changes

/-!
In which order slots are given up and taken.

While a consumer follows the changes from one assignment to the next, its copy is partly what was
served before and partly what is served after. Two resources of such a copy can only serve the same
host or listener when one of them is old and the other one new: the slot passes from the one to the
other, and the one that takes it has been mentioned and the one that gives it up has not. So the
copies on the way have every slot at most once exactly when, of each two resources between which a
slot passes, the one that gives it up is mentioned first (`Leads.no_doubleClaim_iff`). A resource
that is served no longer is, because removals come first.

What remains are resources that give up one slot and keep or get another. Within one table they are
mentioned in the order in which they give up slots, whoever takes them (`before_holderChanges_iff`).
Of a resource that moves between the tables only its coming is told, so it is mentioned with the
listeners when it comes to one and with the hosts, after all listeners, when it comes to a host.
-/

set_option autoImplicit false

namespace Gatehouse

open Change (mentioned Before puts OnlyPut)

/-! ## 1. Copies on the way -/

/-- Two resources of a copy serve the same host or the same listener. They are told apart by the
keys that they have in the copy. -/
def DoubleClaim (copy : Table Resource) : Prop :=
  ∃ slot key other, key ≠ other ∧ (copy.get? key).any (·.serves slot) = true ∧
    (copy.get? other).any (·.serves slot) = true

/-- What a copy has under a key, if anything. -/
theorem any_eq_true_iff {α : Type} {p : α → Bool} {o : Option α} :
    o.any p = true ↔ ∃ a, o = some a ∧ p a = true := by
  cases o <;> simp

section Leads

variable {earlier now : Holders} {changes : List ResourceChange} {served : Table Resource}
  {key : String} {r : Resource} {n : Nat}

/-- The resources that have slots, under their keys. It is the copy that a consumer has before it
follows the changes. -/
def TableOf (holders : Holders) (served : Table Resource) : Prop :=
  ∀ key r, served.get? key = some r ↔ (∃ slot, holders slot = some r) ∧ r.key = key

/-- On the way, what has been put is as it is after, and what has not been mentioned is as it was
before. -/
theorem Leads.get?_on_the_way (h : Leads earlier now changes) :
    (Change.follow Resource.key served (changes.take n)).get? key = some r ↔
      (∃ c ∈ changes.take n, c.isDelete = false ∧ c.resource = r ∧ r.key = key) ∨
      (key ∉ mentioned Resource.key (changes.take n) ∧ served.get? key = some r) := by
  have hnodup : ((changes.take n).map fun c => c.resource.key).Nodup := by
    rw [List.map_take]
    exact h.nodup.sublist (List.take_sublist _ _)
  by_cases hmention : key ∈ mentioned Resource.key (changes.take n)
  · obtain ⟨c, hc, rfl⟩ := List.mem_map.1 hmention
    -- each resource is mentioned once, so its first mention is the last word about it
    rw [Change.get?_follow_of_isLast (Change.isLast_of_nodup hnodup hc)]
    constructor
    · intro hget
      by_cases hdel : c.isDelete
      · simp [hdel] at hget
      · rw [if_neg hdel] at hget
        obtain rfl := Option.some.inj hget
        exact .inl ⟨c, hc, by simpa using hdel, rfl, rfl⟩
    · rintro (⟨d, hd, hput, rfl, hkey⟩ | ⟨hnot, -⟩)
      · have heq : d = c := List.inj_on_of_nodup_map hnodup hd hc hkey
        rw [← heq, hput]
        rfl
      · exact absurd hmention hnot
  · have hnone : ∀ c ∈ changes.take n, c.resource.key ≠ key := fun c hc hkey =>
      hmention (List.mem_map.2 ⟨c, hc, hkey⟩)
    rw [Change.get?_follow_of_forall_ne hnone]
    constructor
    · intro hget
      exact .inr ⟨hmention, hget⟩
    · rintro (⟨c, hc, -, rfl, hkey⟩ | ⟨-, hget⟩)
      · exact absurd hkey (hnone c hc)
      · exact hget

/-- Who loses a slot to another resource is mentioned: it is gone, or it is another resource now and
has to be put. -/
theorem Leads.loser_mentioned (h : Leads earlier now changes) (he : Holding earlier)
    (hn : Holding now) {slot : Slot} {q : Resource} (hq : earlier slot = some q)
    (hr : now slot = some r) (hne : q.key ≠ r.key) : q.key ∈ mentioned Resource.key changes := by
  by_contra hnot
  have hnone : ∀ c ∈ changes, c.resource.key ≠ q.key := fun c hc hkey =>
    hnot (Change.mem_mentioned_iff.2 ⟨c, hc, hkey⟩)
  obtain ⟨other, q', hq', hkey⟩ := h.served_of_not_mentioned ⟨slot, q, hq, rfl⟩ hnone
  obtain ⟨p, hp, hsame⟩ := h.exists_equivalent_of_not_mentioned hq' (hkey ▸ hnone)
  have hpq : p = q :=
    he.unique other p slot q hp hq ((Resource.key_eq_of_equivalent hsame).trans hkey)
  -- it would have kept the slot
  have hstill := he.kept hn hp hq' hsame (hpq ▸ hq)
  rw [hr] at hstill
  exact hne (Option.some.inj hstill ▸ hkey.symm)

/-- Who is served no longer is mentioned before whoever is put, because removals come first. So only
resources that are served before and after can come too late. -/
theorem Leads.gone_first (h : Leads earlier now changes) {c : ResourceChange} (hc : c ∈ changes)
    (hput : c.isDelete = false) (hwas : Served earlier key) (hgone : ¬Served now key) :
    Before Resource.key changes key c.resource.key := by
  obtain ⟨d, hd, hdel, rfl⟩ := h.exists_delete key hwas hgone
  have hremoval : d.resource.key ∈ mentioned Resource.key (changes.filter Change.isDelete) :=
    List.mem_map_of_mem (List.mem_filter.2 ⟨hd, hdel⟩)
  have hnot : c.resource.key ∉ mentioned Resource.key (changes.filter Change.isDelete) := by
    intro hmem
    obtain ⟨e, he, hkey⟩ := Change.mem_mentioned_iff.1 hmem
    obtain ⟨he, hedel⟩ := List.mem_filter.1 he
    rw [List.inj_on_of_nodup_map h.nodup he hc hkey, hput] at hedel
    cases hedel
  rw [← Change.filter_isDelete_append_of_deletesFirst h.deletesFirst,
    Change.before_append_iff_left hremoval]
  exact Change.before_of_notMem hremoval hnot

/-- Who takes a slot from another resource is put. -/
theorem Leads.taker_put (h : Leads earlier now changes) {slot : Slot} {q : Resource}
    (hq : earlier slot = some q) (hr : now slot = some r) (hne : q.key ≠ r.key) :
    ∃ c ∈ changes, c.isDelete = false ∧ c.resource = r := by
  refine h.exists_put slot r ⟨hr, fun p hp => ?_⟩
  by_contra hsame
  rw [hq] at hp
  obtain rfl := Option.some.inj hp
  exact hne (Resource.key_eq_of_equivalent (by simpa using hsame))

/-- A resource of a copy on the way has been put and has its slots now, or it has not been mentioned
and had them before. -/
theorem Leads.slot_on_the_way (h : Leads earlier now changes) (he : Holding earlier)
    (hn : Holding now) (hserved : TableOf earlier served) {slot : Slot}
    (hr : (Change.follow Resource.key served (changes.take n)).get? key = some r)
    (hserves : r.serves slot = true) :
    r.key = key ∧ ((now slot = some r ∧ r.key ∈ mentioned Resource.key (changes.take n)) ∨
      (earlier slot = some r ∧ r.key ∉ mentioned Resource.key (changes.take n))) := by
  rcases h.get?_on_the_way.1 hr with ⟨c, hc, hput, rfl, hkey⟩ | ⟨hnot, hold⟩
  · obtain ⟨place, hgained⟩ := h.put c (List.mem_of_mem_take hc) hput
    exact ⟨hkey, .inl ⟨hn.holds place _ hgained.1 slot hserves, List.mem_map_of_mem hc⟩⟩
  · obtain ⟨⟨place, hplace⟩, hkey⟩ := (hserved key r).1 hold
    exact ⟨hkey, .inr ⟨he.holds place r hplace slot hserves, hkey.symm ▸ hnot⟩⟩

/-- While the resource that takes a slot has been mentioned and the one that gives it up has not,
the copy has both. That is the only way for a copy to have a slot twice. -/
theorem Leads.doubleClaim_of_late (h : Leads earlier now changes) (he : Holding earlier)
    (hn : Holding now) (hserved : TableOf earlier served) {slot : Slot} {q : Resource}
    (hq : earlier slot = some q) (hr : now slot = some r) (hne : q.key ≠ r.key)
    (hin : r.key ∈ mentioned Resource.key (changes.take n))
    (hnot : q.key ∉ mentioned Resource.key (changes.take n)) :
    DoubleClaim (Change.follow Resource.key served (changes.take n)) := by
  obtain ⟨c, hc, hput, rfl⟩ := h.taker_put hq hr hne
  obtain ⟨d, hd, hkey⟩ := Change.mem_mentioned_iff.1 hin
  have hdc : d = c := List.inj_on_of_nodup_map h.nodup (List.mem_of_mem_take hd) hc hkey
  have hold : (Change.follow Resource.key served (changes.take n)).get? q.key = some q :=
    h.get?_on_the_way.2 (.inr ⟨hnot, (hserved q.key q).2 ⟨⟨slot, hq⟩, rfl⟩⟩)
  have hnew : (Change.follow Resource.key served (changes.take n)).get? c.resource.key =
      some c.resource := h.get?_on_the_way.2 (.inl ⟨c, hdc ▸ hd, hput, rfl, rfl⟩)
  exact ⟨slot, q.key, c.resource.key, hne, any_eq_true_iff.2 ⟨q, hold, he.serves slot q hq⟩,
    any_eq_true_iff.2 ⟨c.resource, hnew, hn.serves slot _ hr⟩⟩

/-- The copies on the way have every slot at most once exactly when whoever gives a slot up and is
served still is mentioned before whoever takes it. -/
theorem Leads.no_doubleClaim_iff (h : Leads earlier now changes) (he : Holding earlier)
    (hn : Holding now) (hserved : TableOf earlier served) :
    (∀ n, ¬DoubleClaim (Change.follow Resource.key served (changes.take n))) ↔
      ∀ slot q r, earlier slot = some q → now slot = some r → q.key ≠ r.key → Served now q.key →
        Before Resource.key changes q.key r.key := by
  constructor
  · intro hnever slot q r hq hr hne _
    obtain ⟨c, hc, -, rfl⟩ := h.taker_put hq hr hne
    refine (Change.before_iff_forall_take (List.mem_map_of_mem hc) hne).2 fun n hin => ?_
    by_contra hnot
    exact hnever n (h.doubleClaim_of_late he hn hserved hq hr hne hin hnot)
  · intro horder
    -- whoever had the slot is mentioned in every prefix that mentions whoever has it now
    have hmixed : ∀ (n : Nat) (slot : Slot) (q r : Resource), earlier slot = some q →
        now slot = some r → r.key ∈ mentioned Resource.key (changes.take n) →
        q.key ∉ mentioned Resource.key (changes.take n) → q.key = r.key := by
      intro n slot q r hq hr hin hnot
      by_contra hne
      obtain ⟨c, hc, hput, rfl⟩ := h.taker_put hq hr hne
      have hfirst : Before Resource.key changes q.key c.resource.key := by
        by_cases hstill : Served now q.key
        · exact horder slot q _ hq hr hne hstill
        · exact h.gone_first hc hput ⟨slot, q, hq, rfl⟩ hstill
      exact hnot ((Change.before_iff_forall_take (List.mem_map_of_mem hc) hne).1 hfirst n hin)
    rintro n ⟨slot, key, other, hne, hkey, hother⟩
    obtain ⟨r, hr, hrserves⟩ := any_eq_true_iff.1 hkey
    obtain ⟨q, hq, hqserves⟩ := any_eq_true_iff.1 hother
    obtain ⟨rfl, hrslot⟩ := h.slot_on_the_way he hn hserved hr hrserves
    obtain ⟨rfl, hqslot⟩ := h.slot_on_the_way he hn hserved hq hqserves
    rcases hrslot with ⟨hr, hrin⟩ | ⟨hr, hrnot⟩ <;>
      rcases hqslot with ⟨hq, hqin⟩ | ⟨hq, hqnot⟩
    · exact hne (by rw [Option.some.inj (hr.symm.trans hq)])
    · exact hne (hmixed n slot q r hq hr hrin hqnot).symm
    · exact hne (hmixed n slot r q hr hq hqin hrnot)
    · exact hne (by rw [Option.some.inj (hr.symm.trans hq)])

end Leads

/-! ## 2. The order within one table -/

/-- The keys of the resources that give up slots: of those that are free now, and then of those that
passed on to another resource. -/
def releases (earlier now : Table Resource) : List String :=
  mentioned Resource.key ((slotChanges earlier now).filter Change.isDelete)

section Slots

variable {place : String → Slot} {earlier now : Table Resource} {before after : Holders}
  {resources : List Resource} {a b : String}

/-- A key is there when its resource has lost a slot, whether or not somebody has taken it. It may
have other slots still. -/
theorem mem_releases_iff (hbefore : Lists place earlier before) (hafter : Lists place now after) :
    a ∈ releases earlier now ↔
      ∃ slot q, before slot = some q ∧ (∀ r, after slot = some r → r.key ≠ q.key) ∧ q.key = a := by
  rw [releases, Change.mem_mentioned_iff]
  constructor
  · rintro ⟨c, hc, rfl⟩
    obtain ⟨hc, hdel⟩ := List.mem_filter.1 hc
    rcases (mem_slotChanges_iff hbefore hafter).1 hc with
      ⟨slot, q, hq, hlost, rfl⟩ | ⟨slot, r, -, rfl⟩
    · exact ⟨slot, q, hq, hlost, rfl⟩
    · cases hdel
  · rintro ⟨slot, q, hq, hlost, rfl⟩
    have hin := (mem_slotChanges_iff hbefore hafter).2 (.inl ⟨slot, q, hq, hlost, rfl⟩)
    exact ⟨_, List.mem_filter.2 ⟨hin, rfl⟩, rfl⟩

/-- Who loses a slot to another resource gives it up. -/
theorem mem_releases_of_passed (hbefore : Lists place earlier before)
    (hafter : Lists place now after) {name : String} {q r : Resource}
    (hq : earlier.get? name = some q) (hr : now.get? name = some r) (hne : q.key ≠ r.key) :
    q.key ∈ releases earlier now := by
  rw [← hbefore.get] at hq
  rw [← hafter.get] at hr
  refine (mem_releases_iff hbefore hafter).2 ⟨place name, q, hq, fun p hp => ?_, rfl⟩
  obtain rfl : r = p := Option.some.inj (hr.symm.trans hp)
  exact hne.symm

/-- Two resources that are put are mentioned in the order in which they give up slots, and one that
gives up none comes after one that does. The removals of the slots come before the puts, and
squashing keeps the first mentions. -/
theorem before_holderChanges_iff
    (ha : OnlyPut Resource.key (holderChanges earlier now resources) a)
    (hb : OnlyPut Resource.key (holderChanges earlier now resources) b)
    (hreleases : a ∈ releases earlier now) :
    Before Resource.key (holderChanges earlier now resources) a b ↔
      (releases earlier now).idxOf a < (releases earlier now).idxOf b := by
  -- the resources are renewed, their keys stay
  have hkeys : mentioned Resource.key (holderChanges earlier now resources) =
      mentioned Resource.key (Change.squash Resource.key (slotChanges earlier now)) := by
    simp [mentioned, holderChanges]
  have honly : ∀ {key}, OnlyPut Resource.key (holderChanges earlier now resources) key →
      OnlyPut Resource.key (Change.squash Resource.key (slotChanges earlier now)) key := by
    intro key hkey c hc hckey
    have hput := hkey (withLatest resources c) (List.mem_map_of_mem hc) (by simpa using hckey)
    simpa using hput
  have hfirst : Change.DeletesFirst (slotChanges earlier now) := deletesFirst_slotChanges
  rw [Before, hkeys, ← Before, Change.before_squash_iff (honly ha) (honly hb),
    ← Change.filter_isDelete_append_of_deletesFirst hfirst,
    Change.before_append_iff_left hreleases]
  rfl

end Slots

/-! ## 3. The order of both tables -/

/-- In the changes of both tables, two resources that are put stand in the order of their puts.
Their removals have been left out by then. -/
theorem before_squash_dropReleases_iff {changes : List ResourceChange} {a b : String}
    (ha : a ∈ mentioned Resource.key (puts changes))
    (hb : b ∈ mentioned Resource.key (puts changes)) :
    Before Resource.key (Change.squash Resource.key (dropReleases changes)) a b ↔
      Before Resource.key (puts changes) a b := by
  -- removals of what is put are left out
  have honly : ∀ {key}, key ∈ mentioned Resource.key (puts changes) →
      OnlyPut Resource.key (dropReleases changes) key := by
    intro key hkey c hc hckey
    obtain ⟨d, hd, rfl⟩ := Change.mem_mentioned_iff.1 hkey
    obtain ⟨hd, hput⟩ := Change.mem_puts_iff.1 hd
    by_contra hdel
    have hdel' := (mem_dropReleases_iff.1 hc).2 (by simpa using hdel) d hd hckey.symm
    rw [hput] at hdel'
    cases hdel'
  have hsame : puts (dropReleases changes) = puts changes := by
    rw [puts, puts, dropReleases, List.filter_filter]
    refine List.filter_congr fun c _ => ?_
    cases c.isDelete <;> simp
  rw [Change.before_squash_iff (honly ha).squash (honly hb).squash,
    ← Change.before_puts_iff (honly ha) (honly hb), hsame]

namespace Leads

variable {earlier now : Holders} {changes : List ResourceChange} {key : String}

/-- What is put is what has gained a slot. -/
theorem mem_puts_iff (h : Leads earlier now changes) :
    key ∈ mentioned Resource.key (puts changes) ↔
      ∃ slot r, Gained earlier now slot r ∧ r.key = key := by
  rw [Change.mem_mentioned_iff]
  constructor
  · rintro ⟨c, hc, hkey⟩
    obtain ⟨hc, hput⟩ := Change.mem_puts_iff.1 hc
    obtain ⟨slot, hgained⟩ := h.put c hc hput
    exact ⟨slot, c.resource, hgained, hkey⟩
  · rintro ⟨slot, r, hgained, hkey⟩
    obtain ⟨c, hc, hput, rfl⟩ := h.exists_put slot r hgained
    exact ⟨c, Change.mem_puts_iff.2 ⟨hc, hput⟩, hkey⟩

/-- So it is served. -/
theorem served_of_mem_puts (h : Leads earlier now changes)
    (hkey : key ∈ mentioned Resource.key (puts changes)) : Served now key := by
  obtain ⟨slot, r, hgained, hr⟩ := h.mem_puts_iff.1 hkey
  exact ⟨slot, r, hgained.1, hr⟩

/-- What is served is mentioned by puts only. -/
theorem onlyPut (h : Leads earlier now changes) (hserved : Served now key) :
    OnlyPut Resource.key changes key := by
  rintro c hc rfl
  by_contra hdel
  exact (h.delete c hc (by simpa using hdel)).2 hserved

/-- What is mentioned and is served is put. -/
theorem mem_puts_of_mentioned (h : Leads earlier now changes) (hserved : Served now key)
    (hkey : key ∈ mentioned Resource.key changes) :
    key ∈ mentioned Resource.key (puts changes) := by
  obtain ⟨c, hc, rfl⟩ := Change.mem_mentioned_iff.1 hkey
  exact Change.mem_mentioned_iff.2 ⟨c, Change.mem_puts_iff.2 ⟨hc, h.onlyPut hserved c hc rfl⟩, rfl⟩

end Leads

/-- What is served and was not served before is put. -/
theorem Leads.mem_puts_of_new {earlier now : Holders} {changes : List ResourceChange} {key : String}
    (h : Leads earlier now changes) (hserved : Served now key) (hnew : ¬Served earlier key) :
    key ∈ mentioned Resource.key (puts changes) := by
  obtain ⟨slot, r, hr, rfl⟩ := hserved
  refine h.mem_puts_iff.2 ⟨slot, r, ⟨hr, fun q hq => ?_⟩, rfl⟩
  by_contra hsame
  exact hnew ⟨slot, q, hq, Resource.key_eq_of_equivalent (by simpa using hsame)⟩

section Both

variable {earlier now : Holders} {bound hosted : List ResourceChange} {slot : Slot} {q r : Resource}

/-- Who takes a slot on one side is put by the changes of that side. -/
theorem Leads.taker_mem_puts {hosts : Bool} {changes : List ResourceChange}
    (h : Leads (sideOf hosts earlier) (sideOf hosts now) changes) (hside : slot.isHost = hosts)
    (hq : earlier slot = some q) (hr : now slot = some r) (hne : q.key ≠ r.key) :
    r.key ∈ mentioned Resource.key (puts changes) := by
  obtain ⟨c, hc, hput, rfl⟩ := h.taker_put (sideOf_eq_some_iff.2 ⟨hside, hq⟩)
    (sideOf_eq_some_iff.2 ⟨hside, hr⟩) hne
  exact Change.mem_mentioned_iff.2 ⟨c, Change.mem_puts_iff.2 ⟨hc, hput⟩, rfl⟩

/-- Who loses a slot on one side and is served on that side still is put by its changes. -/
theorem Leads.loser_mem_puts {hosts : Bool} {changes : List ResourceChange}
    (h : Leads (sideOf hosts earlier) (sideOf hosts now) changes) (he : Holding earlier)
    (hn : Holding now) (hside : slot.isHost = hosts) (hq : earlier slot = some q)
    (hr : now slot = some r) (hne : q.key ≠ r.key) (hstill : Served (sideOf hosts now) q.key) :
    q.key ∈ mentioned Resource.key (puts changes) :=
  h.mem_puts_of_mentioned hstill (h.loser_mentioned he.side hn.side
    (sideOf_eq_some_iff.2 ⟨hside, hq⟩) (sideOf_eq_some_iff.2 ⟨hside, hr⟩) hne)

/-- Who loses a slot on one side and is served on the other one now is put by the changes of the
other one. -/
theorem Leads.mover_mem_puts {hosts : Bool} {changes : List ResourceChange}
    (h : Leads (sideOf hosts earlier) (sideOf hosts now) changes) (he : Holding earlier)
    (hside : slot.isHost = !hosts) (hq : earlier slot = some q)
    (hmoved : Served (sideOf hosts now) q.key) :
    q.key ∈ mentioned Resource.key (puts changes) :=
  h.mem_puts_of_new hmoved fun hbefore =>
    he.not_served_sides hbefore ⟨slot, q, sideOf_eq_some_iff.2 ⟨hside, hq⟩, rfl⟩

/-- What is served on one side is not put by the changes of the other one, since no resource is on
both. -/
theorem Leads.not_mem_puts {hosts : Bool} {changes : List ResourceChange} {key : String}
    (h : Leads (sideOf hosts earlier) (sideOf hosts now) changes) (hn : Holding now)
    (hserved : Served (sideOf (!hosts) now) key) :
    key ∉ mentioned Resource.key (puts changes) := fun hkey =>
  hn.not_served_sides (h.served_of_mem_puts hkey) hserved

variable (he : Holding earlier) (hn : Holding now)
  (hl : Leads (sideOf false earlier) (sideOf false now) bound)
  (hh : Leads (sideOf true earlier) (sideOf true now) hosted)
  (hq : earlier slot = some q) (hr : now slot = some r) (hne : q.key ≠ r.key)

include he hn hl hh hq hr hne

/-- A host passes on from a resource that has another host now: the changes of the hosts decide. -/
theorem Leads.before_both_iff_of_host (hslot : slot.isHost = true)
    (hstill : Served (sideOf true now) q.key) :
    Before Resource.key (Change.squash Resource.key (dropReleases (bound ++ hosted))) q.key
      r.key ↔ Before Resource.key hosted q.key r.key := by
  have hserved : Served (sideOf true now) r.key :=
    ⟨slot, r, sideOf_eq_some_iff.2 ⟨hslot, hr⟩, rfl⟩
  have hloser := hh.loser_mem_puts he hn hslot hq hr hne hstill
  have htaker := hh.taker_mem_puts hslot hq hr hne
  rw [before_squash_dropReleases_iff (by simp [hloser]) (by simp [htaker]), Change.puts_append,
    Change.before_append_iff_right (hl.not_mem_puts hn hstill) (hl.not_mem_puts hn hserved),
    Change.before_puts_iff (hh.onlyPut hstill) (hh.onlyPut hserved)]

/-- A host passes on from a resource that has a listener now: it is mentioned with the listeners,
which is early enough. -/
theorem Leads.before_both_of_host (hslot : slot.isHost = true)
    (hmoved : Served (sideOf false now) q.key) :
    Before Resource.key (Change.squash Resource.key (dropReleases (bound ++ hosted))) q.key
      r.key := by
  have hserved : Served (sideOf true now) r.key :=
    ⟨slot, r, sideOf_eq_some_iff.2 ⟨hslot, hr⟩, rfl⟩
  have hmover := hl.mover_mem_puts he hslot hq hmoved
  have htaker := hh.taker_mem_puts hslot hq hr hne
  rw [before_squash_dropReleases_iff (by simp [hmover]) (by simp [htaker]), Change.puts_append,
    Change.before_append_iff_left hmover]
  exact Change.before_of_notMem hmover (hl.not_mem_puts hn hserved)

omit hh in
/-- A listener passes on from a resource that has another listener now: the changes of the listeners
decide. -/
theorem Leads.before_both_iff_of_listener (hslot : slot.isHost = false)
    (hstill : Served (sideOf false now) q.key) :
    Before Resource.key (Change.squash Resource.key (dropReleases (bound ++ hosted))) q.key
      r.key ↔ Before Resource.key bound q.key r.key := by
  have hserved : Served (sideOf false now) r.key :=
    ⟨slot, r, sideOf_eq_some_iff.2 ⟨hslot, hr⟩, rfl⟩
  have hloser := hl.loser_mem_puts he hn hslot hq hr hne hstill
  have htaker := hl.taker_mem_puts hslot hq hr hne
  rw [before_squash_dropReleases_iff (by simp [hloser]) (by simp [htaker]), Change.puts_append,
    Change.before_append_iff_left hloser,
    Change.before_puts_iff (hl.onlyPut hstill) (hl.onlyPut hserved)]

/-- A listener passes on from a resource that has a host now: it is mentioned with the hosts, which
is too late. -/
theorem Leads.not_before_both_of_listener (hslot : slot.isHost = false)
    (hmoved : Served (sideOf true now) q.key) :
    ¬Before Resource.key (Change.squash Resource.key (dropReleases (bound ++ hosted))) q.key
      r.key := by
  have hmover := hh.mover_mem_puts he hslot hq hmoved
  have htaker := hl.taker_mem_puts hslot hq hr hne
  rw [before_squash_dropReleases_iff (by simp [hmover]) (by simp [htaker]), Change.puts_append]
  exact Change.not_before_append (hl.not_mem_puts hn hmoved) htaker

end Both

end Gatehouse
