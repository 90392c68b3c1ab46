import Gatehouse.Proofs.Change
import Gatehouse.Proofs.Plan.Holders

/-!
The changes from one assignment of slots to the next.

`Leads` says what a consumer can rely on: every resource that came to a slot is put, every resource
that is served no longer is removed, nothing else is told, each resource is mentioned once, and the
removals come first. The argument goes in three steps. The changes of the slots are read off one
slot at a time (`mem_slotChanges_iff`). Squashing them makes the slots of one resource agree: a
resource that is removed from one slot and put to another is put, and one that is removed from a
slot and stays unchanged at another cannot be, because an unchanged resource has lost nothing
(`Holding.kept`). So the changes of one table lead from the earlier table to the present one
(`leads_holderChanges`). Last, hosts and listeners are brought together: no resource has both at the
same time, so a removal by one side stands exactly when the other side does not put the resource
(`Leads.both`).

What leads from one assignment to the next also keeps a copy of the served resources up to date
(`Leads.copies`).
-/

set_option autoImplicit false

namespace Gatehouse

/-! ## 1. What a consumer can rely on -/

/-- The slot has the resource, and had nothing equivalent before. A slot that passes to another
resource has gained it, and so has one whose resource came to be rendered in another way. -/
def Gained (earlier now : Holders) (slot : Slot) (r : Resource) : Prop :=
  now slot = some r ∧ ∀ q, earlier slot = some q → q.equivalent r = false

/-- Following the changes leads from one assignment to the next. Nothing is told twice, removals
come first, and whatever is told is so and whatever there is to tell is told. -/
structure Leads (earlier now : Holders) (changes : List ResourceChange) : Prop where
  /-- No resource is mentioned twice. -/
  nodup : (changes.map fun c => c.resource.key).Nodup
  /-- The removals come first. -/
  deletesFirst : Change.DeletesFirst changes
  /-- What is put has gained a slot, and is put as it is now. -/
  put : ∀ c ∈ changes, c.isDelete = false → ∃ slot, Gained earlier now slot c.resource
  /-- What is removed was served and is served no longer. -/
  delete : ∀ c ∈ changes, c.isDelete = true →
    Served earlier c.resource.key ∧ ¬Served now c.resource.key
  /-- What has gained a slot is put. -/
  exists_put : ∀ slot r, Gained earlier now slot r →
    ∃ c ∈ changes, c.isDelete = false ∧ c.resource = r
  /-- What is served no longer is removed. -/
  exists_delete : ∀ key, Served earlier key → ¬Served now key →
    ∃ c ∈ changes, c.isDelete = true ∧ c.resource.key = key

/-- What the slot has and was not gained was there before, perhaps in another form that is
equivalent. -/
theorem exists_equivalent_of_not_gained {earlier now : Holders} {slot : Slot} {r : Resource}
    (hr : now slot = some r) (h : ¬Gained earlier now slot r) :
    ∃ q, earlier slot = some q ∧ q.equivalent r = true := by
  by_contra hnone
  refine h ⟨hr, fun q hq => ?_⟩
  by_contra heq
  exact hnone ⟨q, hq, by simpa using heq⟩

/-- A removal stays when its resource is never put. All other changes stay anyway, so a resource
that moves between the sides is put and not removed. -/
theorem mem_dropReleases_iff {changes : List ResourceChange} {c : ResourceChange} :
    c ∈ dropReleases changes ↔ c ∈ changes ∧ (c.isDelete = true →
      ∀ d ∈ changes, d.resource.key = c.resource.key → d.isDelete = true) := by
  rw [dropReleases, List.mem_filter]
  refine and_congr_right fun _ => ?_
  cases c.isDelete with
  | false => simp
  | true =>
    rw [Bool.not_true, Bool.false_or, Bool.not_eq_true', List.any_eq_false]
    constructor
    · intro h _ d hd hkey
      by_contra hput
      exact h d hd (by simp [hput, hkey])
    · intro h d hd hput
      rw [Bool.and_eq_true, Bool.not_eq_true', beq_iff_eq] at hput
      exact absurd (h rfl d hd hput.2) (by simp [hput.1])

/-- Where no resource is mentioned twice, no removal is left out. -/
theorem dropReleases_of_nodup {changes : List ResourceChange}
    (h : (changes.map fun c => c.resource.key).Nodup) : dropReleases changes = changes := by
  refine List.filter_eq_self.2 fun c hc => ?_
  have hstays : c ∈ dropReleases changes := by
    refine mem_dropReleases_iff.2 ⟨hc, fun hdel d hd hkey => ?_⟩
    rw [List.inj_on_of_nodup_map h hd hc hkey]
    exact hdel
  exact (List.mem_filter.1 hstays).2

namespace Leads

variable {earlier now : Holders} {changes : List ResourceChange}

/-- Who is served and is not put was served before. -/
theorem served_of_not_put (h : Leads earlier now changes) {key : String}
    (hnone : ∀ c ∈ changes, c.resource.key = key → c.isDelete = true) (hserved : Served now key) :
    Served earlier key := by
  obtain ⟨slot, r, hr, rfl⟩ := hserved
  by_cases hgained : Gained earlier now slot r
  · obtain ⟨c, hc, hput, rfl⟩ := h.exists_put slot r hgained
    exact absurd (hnone c hc rfl) (by simp [hput])
  · obtain ⟨q, hq, hsame⟩ := exists_equivalent_of_not_gained hr hgained
    exact ⟨slot, q, hq, Resource.key_eq_of_equivalent hsame⟩

/-- What is served and is not mentioned was there before, in an equivalent form. -/
theorem exists_equivalent_of_not_mentioned (h : Leads earlier now changes) {slot : Slot}
    {r : Resource} (hr : now slot = some r) (hnone : ∀ c ∈ changes, c.resource.key ≠ r.key) :
    ∃ q, earlier slot = some q ∧ q.equivalent r = true := by
  refine exists_equivalent_of_not_gained hr fun hgained => ?_
  obtain ⟨c, hc, -, rfl⟩ := h.exists_put slot r hgained
  exact hnone c hc rfl

theorem served_of_not_mentioned (h : Leads earlier now changes) {key : String}
    (hwas : Served earlier key) (hnone : ∀ c ∈ changes, c.resource.key ≠ key) :
    Served now key := by
  by_contra hgone
  obtain ⟨c, hc, -, hkey⟩ := h.exists_delete key hwas hgone
  exact hnone c hc hkey

/-- Where every slot has what it had before, perhaps in another form that is rendered alike, there
is nothing to tell. -/
theorem eq_nil_of_rendering_eq (h : Leads earlier now changes)
    (hsame : ∀ slot, (earlier slot).map Resource.rendering = (now slot).map Resource.rendering) :
    changes = [] := by
  refine List.eq_nil_iff_forall_not_mem.2 fun c hc => ?_
  cases hop : c.isDelete with
  | false =>
    obtain ⟨slot, hr, hnew⟩ := h.put c hc hop
    have hslot := hsame slot
    rw [hr, Option.map_some, Option.map_eq_some_iff] at hslot
    obtain ⟨q, hq, hrendering⟩ := hslot
    have hdiffers := hnew q hq
    rw [Resource.equivalent_iff.2 hrendering] at hdiffers
    cases hdiffers
  | true =>
    obtain ⟨⟨slot, q, hq, hkey⟩, hgone⟩ := h.delete c hc hop
    have hslot := (hsame slot).symm
    rw [hq, Option.map_some, Option.map_eq_some_iff] at hslot
    obtain ⟨r, hr, hrendering⟩ := hslot
    -- what is rendered alike has the same key
    have hsamekey := Resource.key_eq_of_equivalent (Resource.equivalent_iff.2 hrendering)
    exact hgone ⟨slot, r, hr, hsamekey.trans hkey⟩

/-- The errors that are put on changes do not matter. So a rejection that is reported on a change
leaves the rest of what is known of the answer as it is. -/
theorem of_map_bare_eq (h : Leads earlier now changes) {others : List ResourceChange}
    (hsame : others.map Change.bare = changes.map Change.bare) : Leads earlier now others where
  nodup := by
    have hkeys : Change.mentioned Resource.key others = Change.mentioned Resource.key changes :=
      Change.mentioned_congr hsame
    show (Change.mentioned Resource.key others).Nodup
    rw [hkeys]
    exact h.nodup
  deletesFirst := by
    -- `isDelete` reads the action only, which is the first half of a bare change.
    have hfirst : (changes.map Change.bare).Pairwise fun b d => d.1 = .delete → b.1 = .delete :=
      List.pairwise_map.2 (h.deletesFirst.imp fun hcd => by
        simpa [Change.isDelete, Change.bare] using hcd)
    rw [← hsame, List.pairwise_map] at hfirst
    exact hfirst.imp fun hcd => by simpa [Change.isDelete, Change.bare] using hcd
  put c hc hput := by
    obtain ⟨d, hd, hresource, hdel⟩ := Change.exists_of_map_bare_eq hsame hc
    rw [← hresource]
    exact h.put d hd (hdel.trans hput)
  delete c hc hdelete := by
    obtain ⟨d, hd, hresource, hdel⟩ := Change.exists_of_map_bare_eq hsame hc
    rw [← hresource]
    exact h.delete d hd (hdel.trans hdelete)
  exists_put slot r hgained := by
    obtain ⟨c, hc, hput, rfl⟩ := h.exists_put slot r hgained
    obtain ⟨d, hd, hresource, hdel⟩ := Change.exists_of_map_bare_eq hsame.symm hc
    exact ⟨d, hd, hdel.trans hput, hresource⟩
  exists_delete key hwas hgone := by
    obtain ⟨c, hc, hdelete, rfl⟩ := h.exists_delete key hwas hgone
    obtain ⟨d, hd, hresource, hdel⟩ := Change.exists_of_map_bare_eq hsame.symm hc
    exact ⟨d, hd, hdel.trans hdelete, by rw [hresource]⟩

end Leads

/-! ## 2. One table of slots -/

/-- The table lists the assignment, by the names of the slots. The slots that the names stand for
are the hosts for one table and the listeners for the other. -/
structure Lists (place : String → Slot) (t : Table Resource) (holders : Holders) : Prop where
  get : ∀ name, holders (place name) = t.get? name
  only : ∀ slot r, holders slot = some r → ∃ name, slot = place name

section Slots

variable {place : String → Slot} {earlier now : Table Resource} {before after : Holders}
  {resources : List Resource}

/-- What only one of two tables has is what stands under a name that the other one has nothing
for. -/
theorem mem_onlyIn_iff {these those : Table Resource} {r : Resource} :
    r ∈ onlyIn these those ↔ ∃ name, these.get? name = some r ∧ those.get? name = none := by
  simp only [onlyIn, List.mem_map, List.mem_filter, Prod.exists, exists_eq_right,
    Table.mem_entries_iff, Table.contains, Bool.not_eq_true', Option.isSome_eq_false_iff,
    Option.isNone_iff_eq_none]

/-- A slot is replaced when it has a resource with another key; then the former one is removed. A
slot that has nothing now is not replaced, and its removal is another one. -/
theorem replacedIn_eq_some_iff {slot : String × Resource} {c : ResourceChange} :
    replacedIn now slot = some c ↔
      ∃ r, now.get? slot.1 = some r ∧ r.key ≠ slot.2.key ∧ c = .plain .delete slot.2 := by
  unfold replacedIn
  cases hr : now.get? slot.1 with
  | none => simp
  | some r =>
    by_cases hkey : slot.2.key = r.key
    · simp [hkey]
    · -- resources with different keys are not equivalent
      have hdiffer : slot.2.equivalent r = false := by
        by_contra hsame
        exact hkey (Resource.key_eq_of_equivalent (by simpa using hsame))
      simp [hkey, hdiffer, Ne.symm hkey, @eq_comm _ _ c]

/-- A slot is updated when it had something that is not equivalent. That may be the same object in
an earlier form or another object. -/
theorem updatedIn_eq_some_iff {slot : String × Resource} {c : ResourceChange} :
    updatedIn earlier slot = some c ↔
      ∃ q, earlier.get? slot.1 = some q ∧ q.equivalent slot.2 = false ∧
        c = .plain .addOrUpdate slot.2 := by
  unfold updatedIn
  cases hq : earlier.get? slot.1 with
  | none => simp
  | some q => by_cases hsame : q.equivalent slot.2 <;> simp [hsame, @eq_comm _ _ c]

/-- What the changes of the slots are: a resource is removed from a slot that does not have it any
more, and put to a slot that it has gained. -/
theorem mem_slotChanges_iff (hbefore : Lists place earlier before) (hafter : Lists place now after)
    {c : ResourceChange} :
    c ∈ slotChanges earlier now ↔
      (∃ slot q, before slot = some q ∧ (∀ r, after slot = some r → r.key ≠ q.key) ∧
        c = .plain .delete q) ∨
      ∃ slot r, Gained before after slot r ∧ c = .plain .addOrUpdate r := by
  simp only [slotChanges, List.mem_append, List.mem_map, List.mem_filterMap, mem_onlyIn_iff,
    Prod.exists, Table.mem_entries_iff, replacedIn_eq_some_iff, updatedIn_eq_some_iff,
    ← hbefore.get, ← hafter.get]
  constructor
  · -- slots that are free, replaced, changed and new, in this order
    rintro (((⟨q, ⟨name, hq, hr⟩, rfl⟩ | ⟨name, q, hq, r, hr, hne, rfl⟩) |
      ⟨name, r, hr, q, hq, hdiffer, rfl⟩) | ⟨r, ⟨name, hr, hq⟩, rfl⟩)
    · exact .inl ⟨place name, q, hq, fun r hr' => by simp [hr] at hr', rfl⟩
    · exact .inl ⟨place name, q, hq, fun r' hr' => Option.some.inj (hr.symm.trans hr') ▸ hne, rfl⟩
    · refine .inr ⟨place name, r, ⟨hr, fun q' hq' => ?_⟩, rfl⟩
      exact Option.some.inj (hq.symm.trans hq') ▸ hdiffer
    · exact .inr ⟨place name, r, ⟨hr, fun q hq' => by simp [hq] at hq'⟩, rfl⟩
  · rintro (⟨slot, q, hq, hne, rfl⟩ | ⟨slot, r, ⟨hr, hdiffer⟩, rfl⟩)
    · obtain ⟨name, rfl⟩ := hbefore.only slot q hq
      -- whether the slot is free now or passed on
      cases hr : after (place name) with
      | none => exact .inl (.inl (.inl ⟨q, ⟨name, hq, hr⟩, rfl⟩))
      | some r => exact .inl (.inl (.inr ⟨name, q, hq, r, hr, hne r hr, rfl⟩))
    · obtain ⟨name, rfl⟩ := hafter.only slot r hr
      -- whether the slot was free or had another resource
      cases hq : before (place name) with
      | none => exact .inr ⟨r, ⟨name, hr, hq⟩, rfl⟩
      | some q => exact .inl (.inr ⟨name, r, hr, q, hq, hdiffer q hq, rfl⟩)

/-- The changes of the slots name the removals first. -/
theorem deletesFirst_slotChanges : Change.DeletesFirst (slotChanges earlier now) := by
  -- Four stretches: what is gone, what is replaced, what is updated and what is new. The first two
  -- delete.
  rw [slotChanges, List.append_assoc]
  refine Change.deletesFirst_append (fun c hc => ?_) fun c hc => ?_
  · rcases List.mem_append.1 hc with hc | hc
    · obtain ⟨q, -, rfl⟩ := List.mem_map.1 hc
      rfl
    · obtain ⟨slot, -, hslot⟩ := List.mem_filterMap.1 hc
      obtain ⟨r, -, -, rfl⟩ := replacedIn_eq_some_iff.1 hslot
      rfl
  · rcases List.mem_append.1 hc with hc | hc
    · obtain ⟨slot, -, hslot⟩ := List.mem_filterMap.1 hc
      obtain ⟨q, -, -, rfl⟩ := updatedIn_eq_some_iff.1 hslot
      rfl
    · obtain ⟨r, -, rfl⟩ := List.mem_map.1 hc
      rfl

/-! ## 3. The changes of one table -/

/-- Taking the latest form of a resource makes no removal of a change, nor the reverse. -/
@[simp] theorem isDelete_withLatest (resources : List Resource) (c : ResourceChange) :
    (withLatest resources c).isDelete = c.isDelete := by
  unfold withLatest
  split <;> rfl

@[simp] theorem key_withLatest (resources : List Resource) (c : ResourceChange) :
    (withLatest resources c).resource.key = c.resource.key := by
  unfold withLatest
  split
  · rename_i r hr
    simpa using List.find?_some hr
  · rfl

/-- A change that carries its resource as it was built last stays as it is. -/
theorem withLatest_of_mem (hnodup : (resources.map Resource.key).Nodup) {c : ResourceChange}
    (hc : c.resource ∈ resources) : withLatest resources c = c := by
  unfold withLatest
  split
  · rename_i r hr
    have heq : r = c.resource :=
      List.inj_on_of_nodup_map hnodup (List.mem_of_find?_eq_some hr) hc
        (by simpa using List.find?_some hr)
    rw [heq]
  · rfl

/-- The changes of a table mention no resource twice, since that is what squashing them is for. -/
theorem nodup_keys_holderChanges :
    ((holderChanges earlier now resources).map fun c => c.resource.key).Nodup := by
  rw [holderChanges, List.map_map]
  simpa [Function.comp_def] using Change.nodup_keys_squash (slotChanges earlier now)

/-- And they come with the removals first, as those of the slots do. -/
theorem deletesFirst_holderChanges :
    Change.DeletesFirst (holderChanges earlier now resources) := by
  rw [holderChanges, Change.DeletesFirst, List.pairwise_map]
  refine List.Pairwise.imp ?_ (Change.deletesFirst_squash (slotChanges earlier now))
  intro c d hcd
  simpa using hcd

/-- What is answered about one table is answered about both when the other one has not changed: to
changes that mention nothing twice, squashing them once more does nothing. -/
theorem squash_dropReleases_holderChanges :
    Change.squash Resource.key (dropReleases (holderChanges earlier now resources)) =
      holderChanges earlier now resources := by
  rw [dropReleases_of_nodup nodup_keys_holderChanges,
    Change.squash_of_nodup nodup_keys_holderChanges deletesFirst_holderChanges]

/-- A table that has not changed has no changes. A resource is equivalent to itself and has its own
key, so no slot is replaced or updated. -/
theorem holderChanges_self (t : Table Resource) : holderChanges t t resources = [] := by
  have honly : onlyIn t t = [] := List.eq_nil_iff_forall_not_mem.2 fun r hr => by
    obtain ⟨name, hin, hout⟩ := mem_onlyIn_iff.1 hr
    rw [hin] at hout
    cases hout
  have hreplaced : t.entries.filterMap (replacedIn t) = [] :=
    List.filterMap_eq_nil_iff.2 fun slot hslot => by
      have hget : t.get? slot.1 = some slot.2 := Table.mem_entries_iff.1 hslot
      simp [replacedIn, hget]
  have hupdated : t.entries.filterMap (updatedIn t) = [] :=
    List.filterMap_eq_nil_iff.2 fun slot hslot => by
      have hget : t.get? slot.1 = some slot.2 := Table.mem_entries_iff.1 hslot
      simp [updatedIn, hget, Resource.equivalent_refl]
  simp [holderChanges, slotChanges, honly, hreplaced, hupdated]

section Squashed

variable (hbefore : Lists place earlier before) (hafter : Lists place now after)

include hbefore hafter

/-- A put among the changes of the slots is of something that a slot has gained. -/
theorem gained_of_mem_slotChanges {c : ResourceChange} (hc : c ∈ slotChanges earlier now)
    (hput : c.isDelete = false) : ∃ slot, Gained before after slot c.resource := by
  rcases (mem_slotChanges_iff hbefore hafter).1 hc with
    ⟨slot, q, -, -, rfl⟩ | ⟨slot, r, hgained, rfl⟩
  · cases hput
  · exact ⟨slot, hgained⟩

/-- A resource that the squashed changes remove has lost its last slot: had it kept one unchanged,
it would have kept all. -/
theorem gone_of_mem_squash (hb : Holding before) (ha : Holding after) {c : ResourceChange}
    (hc : c ∈ Change.squash Resource.key (slotChanges earlier now)) (hdel : c.isDelete = true) :
    Served before c.resource.key ∧ ¬Served after c.resource.key := by
  rcases (mem_slotChanges_iff hbefore hafter).1 (Change.mem_squash_iff.1 hc).mem with
    ⟨slot, q, hq, hlost, rfl⟩ | ⟨slot, r, -, rfl⟩
  · refine ⟨⟨slot, q, hq, rfl⟩, ?_⟩
    rintro ⟨other, r, hr, hkey⟩
    -- a gain elsewhere would be a put, and the last change of the key would be one
    have hkept : ¬Gained before after other r := fun hgained => by
      have hput := (mem_slotChanges_iff hbefore hafter).2 (.inr ⟨other, r, hgained, rfl⟩)
      have hdel' :=
        Change.isDelete_of_mem_squash deletesFirst_slotChanges.settling hc hdel hput hkey
      cases hdel'
    obtain ⟨q', hq', hsame⟩ := exists_equivalent_of_not_gained hr hkept
    have hqq : q' = q :=
      hb.unique other q' slot q hq' hq ((Resource.key_eq_of_equivalent hsame).trans hkey)
    exact hlost r (hb.kept ha hq' hr hsame (hqq ▸ hq)) hkey
  · cases hdel

/-- What a slot has gained is put. There is a change that says so for the slot, and squashing keeps
a put of its key, which is of the same resource because an assignment has each in one form only. -/
theorem exists_put_of_gained (ha : Holding after) {slot : Slot} {r : Resource}
    (hgained : Gained before after slot r) :
    ∃ c ∈ Change.squash Resource.key (slotChanges earlier now),
      c.isDelete = false ∧ c.resource = r := by
  have hraw := (mem_slotChanges_iff hbefore hafter).2 (.inr ⟨slot, r, hgained, rfl⟩)
  obtain ⟨c, hc, hkey, hput⟩ :=
    Change.exists_put_mem_squash deletesFirst_slotChanges.settling hraw rfl
  obtain ⟨other, hother⟩ :=
    gained_of_mem_slotChanges hbefore hafter (Change.mem_squash_iff.1 hc).mem hput
  exact ⟨c, hc, hput, ha.unique other _ slot r hother.1 hgained.1 hkey⟩

/-- Who was served and is not has been removed from all its slots and put to none, so squashing
leaves the removal. -/
theorem exists_delete_of_gone {key : String} (hwas : Served before key)
    (hgone : ¬Served after key) :
    ∃ c ∈ Change.squash Resource.key (slotChanges earlier now),
      c.isDelete = true ∧ c.resource.key = key := by
  obtain ⟨slot, q, hq, rfl⟩ := hwas
  have hraw : Change.plain .delete q ∈ slotChanges earlier now :=
    (mem_slotChanges_iff hbefore hafter).2
      (.inl ⟨slot, q, hq, fun r hr hkey => hgone ⟨slot, r, hr, hkey⟩, rfl⟩)
  have hnever : ∀ d ∈ slotChanges earlier now, d.resource.key = q.key → d.isDelete = true := by
    intro d hd hkey
    by_contra hput
    obtain ⟨other, hother⟩ := gained_of_mem_slotChanges hbefore hafter hd (by simpa using hput)
    exact hgone ⟨other, d.resource, hother.1, hkey⟩
  obtain ⟨c, hc, hkey, hdel⟩ := Change.exists_delete_mem_squash hraw hnever
  exact ⟨c, hc, hdel, hkey⟩

end Squashed

/-- The changes of one table lead from the earlier table to the present one. What is put is the
resource as it was built last, and that is the one in the table already. -/
theorem leads_holderChanges (hbefore : Lists place earlier before) (hafter : Lists place now after)
    (hb : Holding before) (ha : Holding after) (hnodup : (resources.map Resource.key).Nodup)
    (hmem : ∀ slot r, after slot = some r → r ∈ resources) :
    Leads before after (holderChanges earlier now resources) where
  nodup := nodup_keys_holderChanges
  deletesFirst := deletesFirst_holderChanges
  put c' hc' hput := by
    obtain ⟨c, hc, rfl⟩ := List.mem_map.1 hc'
    obtain ⟨slot, hgained⟩ := gained_of_mem_slotChanges hbefore hafter
      (Change.mem_squash_iff.1 hc).mem (by simpa using hput)
    -- What a put carries is the resource as it is now, so replacing it by the latest changes
    -- nothing.
    rw [withLatest_of_mem hnodup (hmem slot _ hgained.1)]
    exact ⟨slot, hgained⟩
  delete c' hc' hdel := by
    obtain ⟨c, hc, rfl⟩ := List.mem_map.1 hc'
    rw [key_withLatest]
    exact gone_of_mem_squash hbefore hafter hb ha hc (by simpa using hdel)
  exists_put slot r hgained := by
    obtain ⟨c, hc, hput, rfl⟩ := exists_put_of_gained hbefore hafter ha hgained
    refine ⟨withLatest resources c, List.mem_map_of_mem hc, by simpa using hput, ?_⟩
    rw [withLatest_of_mem hnodup (hmem slot _ hgained.1)]
  exists_delete key hwas hgone := by
    obtain ⟨c, hc, hdel, hkey⟩ := exists_delete_of_gone hbefore hafter hwas hgone
    exact ⟨withLatest resources c, List.mem_map_of_mem hc, by simpa using hdel, by simpa using hkey⟩

end Slots

/-! ## 4. Hosts and listeners together -/

/-- The hosts of an assignment, or its listeners. -/
def sideOf (hosts : Bool) (holders : Holders) : Holders := fun slot =>
  if slot.isHost = hosts then holders slot else none

section Sides

variable {holders earlier now : Holders} {hosts : Bool} {slot : Slot} {r : Resource} {key : String}

theorem sideOf_eq_some_iff :
    sideOf hosts holders slot = some r ↔ slot.isHost = hosts ∧ holders slot = some r := by
  unfold sideOf
  split <;> simp [*]

/-- Who is served is served on one side or on the other. -/
theorem served_iff_sides (hosts : Bool) :
    Served holders key ↔
      Served (sideOf hosts holders) key ∨ Served (sideOf (!hosts) holders) key := by
  constructor
  · rintro ⟨slot, r, hr, hkey⟩
    by_cases hside : slot.isHost = hosts
    · exact .inl ⟨slot, r, sideOf_eq_some_iff.2 ⟨hside, hr⟩, hkey⟩
    · exact .inr ⟨slot, r, sideOf_eq_some_iff.2 ⟨Bool.eq_not_of_ne hside, hr⟩, hkey⟩
  · rintro (⟨slot, r, hr, hkey⟩ | ⟨slot, r, hr, hkey⟩) <;>
      exact ⟨slot, r, (sideOf_eq_some_iff.1 hr).2, hkey⟩

/-- A slot gains something on its side when it gains it at all. -/
theorem gained_sideOf_iff :
    Gained (sideOf hosts earlier) (sideOf hosts now) slot r ↔
      slot.isHost = hosts ∧ Gained earlier now slot r := by
  unfold Gained
  by_cases hside : slot.isHost = hosts <;> simp [sideOf, hside]

/-- A side of an assignment is an assignment of the same kind. -/
theorem Holding.side (h : Holding holders) : Holding (sideOf hosts holders) where
  serves slot r hr := h.serves slot r (sideOf_eq_some_iff.1 hr).2
  holds slot r hr other hother := by
    obtain ⟨hside, hr⟩ := sideOf_eq_some_iff.1 hr
    have hsame := Resource.isHost_eq_of_serves hother (h.serves slot r hr)
    exact sideOf_eq_some_iff.2 ⟨hsame.trans hside, h.holds slot r hr other hother⟩
  unique slot r other q hr hq :=
    h.unique slot r other q (sideOf_eq_some_iff.1 hr).2 (sideOf_eq_some_iff.1 hq).2

/-- No resource is on both sides: what it has is what it says that it serves, and none says so of a
host and of a listener. -/
theorem Holding.not_served_sides (h : Holding holders)
    (hserved : Served (sideOf hosts holders) key) : ¬Served (sideOf (!hosts) holders) key := by
  rintro ⟨other, q, hq, hqkey⟩
  obtain ⟨slot, r, hr, hrkey⟩ := hserved
  obtain ⟨hside, hr⟩ := sideOf_eq_some_iff.1 hr
  obtain ⟨hother, hq⟩ := sideOf_eq_some_iff.1 hq
  -- it would be one resource that serves a host and a listener
  have heq : r = q := h.unique slot r other q hr hq (hrkey.trans hqkey.symm)
  have hsame := Resource.isHost_eq_of_serves (h.serves slot r hr) (heq ▸ h.serves other q hq)
  rw [hside, hother] at hsame
  simp at hsame

/-- What one side removes and the other does not put is gone. The other side cannot have it, since
it did not have it before. -/
theorem Leads.gone_of_delete {theseChanges thoseChanges : List ResourceChange}
    (hearlier : Holding earlier)
    (hthese : Leads (sideOf hosts earlier) (sideOf hosts now) theseChanges)
    (hthose : Leads (sideOf (!hosts) earlier) (sideOf (!hosts) now) thoseChanges)
    {c : ResourceChange} (hc : c ∈ theseChanges) (hdel : c.isDelete = true)
    (hnone : ∀ d ∈ thoseChanges, d.resource.key = c.resource.key → d.isDelete = true) :
    Served earlier c.resource.key ∧ ¬Served now c.resource.key := by
  obtain ⟨hwas, hnot⟩ := hthese.delete c hc hdel
  refine ⟨(served_iff_sides hosts).2 (.inl hwas), fun hserved => ?_⟩
  rcases (served_iff_sides hosts).1 hserved with hhere | hthere
  · exact hnot hhere
  · exact hearlier.not_served_sides hwas (hthose.served_of_not_put hnone hthere)

section Both

variable {bound hosted : List ResourceChange}
  (hl : Leads (sideOf false earlier) (sideOf false now) bound)
  (hh : Leads (sideOf true earlier) (sideOf true now) hosted)

include hl hh

/-- What is put by a side has been gained, by the assignment as well as by the side. -/
theorem Leads.gained_of_mem_both {c : ResourceChange} (hc : c ∈ bound ++ hosted)
    (hput : c.isDelete = false) : ∃ slot, Gained earlier now slot c.resource := by
  rcases List.mem_append.1 hc with hc | hc
  · obtain ⟨slot, hgained⟩ := hl.put c hc hput
    exact ⟨slot, (gained_sideOf_iff.1 hgained).2⟩
  · obtain ⟨slot, hgained⟩ := hh.put c hc hput
    exact ⟨slot, (gained_sideOf_iff.1 hgained).2⟩

/-- What has been gained is put by its side. -/
theorem Leads.exists_put_both (hgained : Gained earlier now slot r) :
    ∃ c ∈ bound ++ hosted, c.isDelete = false ∧ c.resource = r := by
  cases hside : slot.isHost
  · obtain ⟨c, hc, h⟩ := hl.exists_put slot r (gained_sideOf_iff.2 ⟨hside, hgained⟩)
    exact ⟨c, List.mem_append_left _ hc, h⟩
  · obtain ⟨c, hc, h⟩ := hh.exists_put slot r (gained_sideOf_iff.2 ⟨hside, hgained⟩)
    exact ⟨c, List.mem_append_right _ hc, h⟩

/-- What is gone was served on a side, and that side removes it. -/
theorem Leads.exists_delete_both (hwas : Served earlier key) (hgone : ¬Served now key) :
    ∃ c ∈ bound ++ hosted, c.isDelete = true ∧ c.resource.key = key := by
  have hnot : ∀ hosts, ¬Served (sideOf hosts now) key := fun hosts h =>
    hgone ((served_iff_sides hosts).2 (.inl h))
  rcases (served_iff_sides false).1 hwas with hwas | hwas
  · obtain ⟨c, hc, h⟩ := hl.exists_delete key hwas (hnot false)
    exact ⟨c, List.mem_append_left _ hc, h⟩
  · obtain ⟨c, hc, h⟩ := hh.exists_delete key hwas (hnot true)
    exact ⟨c, List.mem_append_right _ hc, h⟩

/-- Whatever leads from one assignment to the next on both sides leads there altogether. All it
takes to join the two lists is to leave out the removals of what the other side puts. -/
theorem Leads.both (hearlier : Holding earlier) (hnow : Holding now) :
    Leads earlier now (Change.squash Resource.key (dropReleases (bound ++ hosted))) := by
  -- after the releases are left out, no key has a removal and a put
  have hsettling : Change.Settling Resource.key (dropReleases (bound ++ hosted)) :=
    List.pairwise_of_forall_mem_list fun c hc d hd hkey hdel =>
      (mem_dropReleases_iff.1 hd).2 hdel c (mem_dropReleases_iff.1 hc).1 hkey
  have hput : ∀ c ∈ Change.squash Resource.key (dropReleases (bound ++ hosted)),
      c.isDelete = false → ∃ slot, Gained earlier now slot c.resource := fun c hc hput =>
    hl.gained_of_mem_both hh (mem_dropReleases_iff.1 (Change.mem_squash_iff.1 hc).mem).1 hput
  refine ⟨Change.nodup_keys_squash _, Change.deletesFirst_squash _, hput, ?_, ?_, ?_⟩
  · intro c hc hdel
    obtain ⟨hin, hnone⟩ := mem_dropReleases_iff.1 (Change.mem_squash_iff.1 hc).mem
    rcases List.mem_append.1 hin with hin | hin
    · exact Leads.gone_of_delete hearlier hl hh hin hdel fun d hd =>
        hnone hdel d (List.mem_append_right _ hd)
    · exact Leads.gone_of_delete hearlier hh hl hin hdel fun d hd =>
        hnone hdel d (List.mem_append_left _ hd)
  · intro slot r hgained
    obtain ⟨c, hc, hcput, rfl⟩ := hl.exists_put_both hh hgained
    have hkept : c ∈ dropReleases (bound ++ hosted) :=
      mem_dropReleases_iff.2 ⟨hc, fun hdel => absurd hdel (by simp [hcput])⟩
    obtain ⟨d, hd, hkey, hdput⟩ := Change.exists_put_mem_squash hsettling hkept hcput
    obtain ⟨other, hother⟩ := hput d hd hdput
    exact ⟨d, hd, hdput, hnow.unique other _ slot _ hother.1 hgained.1 hkey⟩
  · intro key hwas hgone
    have hnever : ∀ d ∈ bound ++ hosted, d.resource.key = key → d.isDelete = true := by
      intro d hd hkey
      by_contra hdput
      obtain ⟨slot, hgained⟩ := hl.gained_of_mem_both hh hd (by simpa using hdput)
      exact hgone ⟨slot, d.resource, hgained.1, hkey⟩
    obtain ⟨c, hc, hdel, rfl⟩ := hl.exists_delete_both hh hwas hgone
    have hkept : c ∈ dropReleases (bound ++ hosted) :=
      mem_dropReleases_iff.2 ⟨hc, fun _ => hnever⟩
    obtain ⟨d, hd, hkey, hddel⟩ := Change.exists_delete_mem_squash hkept fun d hd =>
      hnever d (mem_dropReleases_iff.1 hd).1
    exact ⟨d, hd, hddel, hkey⟩

end Both

end Sides

/-! ## 5. Copies -/

/-- The copy has, under the keys of the resources that have slots, resources equivalent to them, and
nothing else. Exact copies are more than can be had, as an update that changes nothing is not
told. -/
structure Copies (copy : Table Resource) (holders : Holders) : Prop where
  /-- What the copy has is served, in an equivalent form. -/
  sound : ∀ key q, copy.get? key = some q →
    ∃ slot r, holders slot = some r ∧ r.key = key ∧ q.equivalent r = true
  /-- What is served is in the copy. -/
  complete : ∀ slot r, holders slot = some r →
    ∃ q, copy.get? r.key = some q ∧ q.equivalent r = true

theorem copies_empty {holders : Holders} (h : ∀ slot, holders slot = none) :
    Copies Table.empty holders where
  sound key q hq := by simp at hq
  complete slot r hr := by simp [h slot] at hr

section Copies

variable {earlier now : Holders} {changes : List ResourceChange} {copy : Table Resource}

/-- What a resource of the copy is after the changes. Each is mentioned once, so the one change that
mentions it decides. -/
theorem Leads.get?_follow (h : Leads earlier now changes) {c : ResourceChange} (hc : c ∈ changes) :
    (Change.follow Resource.key copy changes).get? c.resource.key =
      if c.isDelete then none else some c.resource :=
  Change.get?_follow_of_isLast (Change.isLast_of_nodup h.nodup hc)

/-- A consumer that follows what leads from one assignment to the next keeps its copy up to date.
The cases are whether the resource is mentioned and, if so, how. -/
theorem Leads.copies (h : Leads earlier now changes) (hearlier : Holding earlier)
    (hnow : Holding now) (hcopy : Copies copy earlier) :
    Copies (Change.follow Resource.key copy changes) now where
  sound key q hq := by
    by_cases hmentioned : ∃ c ∈ changes, c.resource.key = key
    · obtain ⟨c, hc, rfl⟩ := hmentioned
      rw [h.get?_follow hc] at hq
      by_cases hdel : c.isDelete
      · simp [hdel] at hq
      · -- what is put is there after the changes
        obtain ⟨slot, hgained⟩ := h.put c hc (by simpa using hdel)
        rw [if_neg hdel] at hq
        obtain rfl := Option.some.inj hq
        exact ⟨slot, c.resource, hgained.1, rfl, Resource.equivalent_refl _⟩
    · have hnone : ∀ c ∈ changes, c.resource.key ≠ key := fun c hc hkey => hmentioned ⟨c, hc, hkey⟩
      rw [Change.get?_follow_of_forall_ne hnone] at hq
      obtain ⟨slot, r, hr, rfl, hsame⟩ := hcopy.sound key q hq
      -- a resource that is not mentioned is served still, in an equivalent form
      obtain ⟨other, r', hr', hkey⟩ := h.served_of_not_mentioned ⟨slot, r, hr, rfl⟩ hnone
      obtain ⟨q', hq', hsame'⟩ := h.exists_equivalent_of_not_mentioned hr' (hkey ▸ hnone)
      have heq : q' = r :=
        hearlier.unique other q' slot r hq' hr ((Resource.key_eq_of_equivalent hsame').trans hkey)
      rw [heq] at hsame'
      exact ⟨other, r', hr', hkey, Resource.equivalent_trans hsame hsame'⟩
  complete slot r hr := by
    by_cases hmentioned : ∃ c ∈ changes, c.resource.key = r.key
    · obtain ⟨c, hc, hkey⟩ := hmentioned
      -- what has a slot is not removed
      have hput : c.isDelete = false := by
        by_contra hdel
        exact (h.delete c hc (by simpa using hdel)).2 ⟨slot, r, hr, hkey.symm⟩
      obtain ⟨other, hgained⟩ := h.put c hc hput
      have heq : c.resource = r := hnow.unique other _ slot r hgained.1 hr hkey
      refine ⟨r, ?_, Resource.equivalent_refl r⟩
      rw [← hkey, h.get?_follow hc, hput, heq]
      rfl
    · have hnone : ∀ c ∈ changes, c.resource.key ≠ r.key := fun c hc hkey =>
        hmentioned ⟨c, hc, hkey⟩
      obtain ⟨q', hq', hsame'⟩ := h.exists_equivalent_of_not_mentioned hr hnone
      obtain ⟨q, hq, hsame⟩ := hcopy.complete slot q' hq'
      refine ⟨q, ?_, Resource.equivalent_trans hsame hsame'⟩
      rw [Change.get?_follow_of_forall_ne hnone, ← Resource.key_eq_of_equivalent hsame']
      exact hq

end Copies

end Gatehouse
