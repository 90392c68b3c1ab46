import Gatehouse.Proofs.Change

/-!
A squashed list is determined by what it is for.

It has one change for every key, which is the last one of the key; the removals come before the
others, and among the removals, and among the others, the keys are in the order in which they were
first mentioned (`Squashed`). Two lists of which this is true have the same changes, since a key has
one last change (`IsLast.unique`), in the same order, since of two of their changes one has to come
first (`Squashed.eq`). So squashing can be described without saying how it is done.

That it gives the order of the first mentions is shown before the removals are put first: the last
changes take the places of the first ones (`before_lastPerKey_iff`), and leaving out either group
keeps the order of the other.
-/

set_option autoImplicit false

universe u

namespace Gatehouse.Change

variable {α : Type u} {keyOf : α → String} {changes out : List (Change α)}

/-! ## 1. The description -/

/-- The list has the last change of every key and nothing else, the removals before the others, and
either of them in the order in which their keys were first mentioned. -/
structure Squashed (keyOf : α → String) (changes out : List (Change α)) : Prop where
  /-- No key is there twice. -/
  nodup : (mentioned keyOf out).Nodup
  /-- The keys are those of the list that was squashed. -/
  mentioned_iff : ∀ key, key ∈ mentioned keyOf out ↔ key ∈ mentioned keyOf changes
  /-- What is there is the last change of its key, with its resource and its error. -/
  last : ∀ c ∈ out, IsLast keyOf changes c
  /-- No removal comes after something else. -/
  deletesFirst : DeletesFirst out
  /-- Of two removals, and of two others, the one that was mentioned first comes first. -/
  order : out.Pairwise fun c d => c.isDelete = d.isDelete →
    Before keyOf changes (keyOf c.resource) (keyOf d.resource)

/-! ## 2. There is one such list -/

/-- A key has one last change, which is why the description leaves no choice of changes. -/
theorem IsLast.unique {c d : Change α} (hc : IsLast keyOf changes c) (hd : IsLast keyOf changes d)
    (hkey : keyOf c.resource = keyOf d.resource) : c = d :=
  List.inj_on_of_nodup_map (nodup_keys_squash changes) (mem_squash_iff.2 hc) (mem_squash_iff.2 hd)
    hkey

namespace Squashed

variable {other : List (Change α)}

/-- The changes are the last ones of all keys. -/
theorem mem_iff (h : Squashed keyOf changes out) {c : Change α} :
    c ∈ out ↔ IsLast keyOf changes c := by
  refine ⟨h.last c, fun hc => ?_⟩
  obtain ⟨d, hd, hkey⟩ := mem_mentioned_iff.1 ((h.mentioned_iff (keyOf c.resource)).2
    (mem_mentioned_iff.2 ⟨c, hc.mem, rfl⟩))
  rw [hc.unique (h.last d hd) hkey.symm]
  exact hd

/-- Two lists of which the description is true are the same. They have the same changes, and two
changes cannot both come before the other. -/
theorem eq (h : Squashed keyOf changes out) (h' : Squashed keyOf changes other) : out = other := by
  have hperm : out.Perm other :=
    (List.perm_ext_iff_of_nodup (List.Nodup.of_map _ h.nodup) (List.Nodup.of_map _ h'.nodup)).2
      fun c => h.mem_iff.trans h'.mem_iff.symm
  refine List.Perm.eq_of_pairwise ?_ (h.deletesFirst.and h.order) (h'.deletesFirst.and h'.order)
    hperm
  rintro c d - - ⟨hdc, hcd⟩ ⟨hcd', hdc'⟩
  -- each is a removal when the other is, so both claim to have been mentioned first
  have hop : c.isDelete = d.isDelete := Bool.eq_iff_iff.2 ⟨hcd', hdc⟩
  exact absurd (hcd hop) (Nat.lt_asymm (hdc' hop.symm))

end Squashed

/-! ## 3. Squashing gives it -/

/-- A list that mentions no key twice mentions its keys in its own order. -/
theorem pairwise_before_of_nodup (h : (mentioned keyOf changes).Nodup) :
    changes.Pairwise fun c d => Before keyOf changes (keyOf c.resource) (keyOf d.resource) := by
  induction changes with
  | nil => exact .nil
  | cons c cs ih =>
    obtain ⟨hnot, hrest⟩ := List.nodup_cons.1 h
    have hne : ∀ d ∈ cs, keyOf c.resource ≠ keyOf d.resource := fun d hd heq =>
      hnot (mem_mentioned_iff.2 ⟨d, hd, heq.symm⟩)
    refine List.pairwise_cons.2 ⟨fun d hd => before_cons_iff.2 ⟨hne d hd, .inl rfl⟩, ?_⟩
    exact (ih hrest).imp_of_mem fun _ he hbefore => before_cons_iff.2 ⟨hne _ he, .inr hbefore⟩

/-- The last changes are in the order of the first mentions. -/
theorem pairwise_before_lastPerKey (changes : List (Change α)) :
    (lastPerKey keyOf changes).Pairwise fun c d =>
      Before keyOf changes (keyOf c.resource) (keyOf d.resource) :=
  (pairwise_before_of_nodup (nodup_keys_lastPerKey changes)).imp before_lastPerKey_iff.1

/-- The list that squashing gives is as described. Removals are put first, and filtering keeps an
order. -/
theorem squashed_squash (keyOf : α → String) (changes : List (Change α)) :
    Squashed keyOf changes (squash keyOf changes) where
  nodup := nodup_keys_squash changes
  mentioned_iff key := by
    rw [mem_mentioned_iff, mem_mentioned_iff]
    constructor
    · rintro ⟨c, hc, hkey⟩
      exact ⟨c, (mem_squash_iff.1 hc).mem, hkey⟩
    · rintro ⟨c, hc, rfl⟩
      obtain ⟨d, hd, hkey⟩ := exists_isLast keyOf hc
      exact ⟨d, mem_squash_iff.2 hd, hkey⟩
  last _ hc := mem_squash_iff.1 hc
  deletesFirst := deletesFirst_squash changes
  order := by
    have hlast : (lastPerKey keyOf changes).Pairwise fun c d => c.isDelete = d.isDelete →
        Before keyOf changes (keyOf c.resource) (keyOf d.resource) := by
      refine (pairwise_before_lastPerKey changes).imp ?_
      exact fun hbefore _ => hbefore
    refine List.pairwise_append.2 ⟨hlast.sublist List.filter_sublist,
      hlast.sublist List.filter_sublist, fun c hc d hd hop => ?_⟩
    -- a removal and a change that is none
    have hdelete := (List.mem_filter.1 hc).2
    have hput := (List.mem_filter.1 hd).2
    simp [← hop, hdelete] at hput

/-! ## 4. What it is for -/

/-- Following the squashed list leads to the same copy. The last change of a key decides what the
copy has under it, and it is in both lists. -/
theorem follow_squash (copy : Table α) (changes : List (Change α)) :
    follow keyOf copy (squash keyOf changes) = follow keyOf copy changes := by
  refine Table.ext_get? fun key => ?_
  by_cases hkey : ∃ c ∈ changes, keyOf c.resource = key
  · obtain ⟨c, hc, rfl⟩ := hkey
    obtain ⟨d, hd, hsame⟩ := exists_isLast keyOf hc
    have hstill : IsLast keyOf (squash keyOf changes) d :=
      isLast_of_nodup (nodup_keys_squash changes) (mem_squash_iff.2 hd)
    rw [← hsame, get?_follow_of_isLast hd, get?_follow_of_isLast hstill]
  · have hnone : ∀ c ∈ changes, keyOf c.resource ≠ key := fun c hc heq => hkey ⟨c, hc, heq⟩
    rw [get?_follow_of_forall_ne hnone,
      get?_follow_of_forall_ne fun c hc => hnone c (mem_squash_iff.1 hc).mem]

/-- Squashing gives exactly the last change of every key, the removals before the others, and either
of them in the order in which their keys were first mentioned. A squashed list stays as it is, and
whoever follows it has the same copy as who follows the list that was squashed. -/
theorem squash_exact (keyOf : α → String) (changes : List (Change α)) :
    (∀ out, squash keyOf changes = out ↔ Squashed keyOf changes out) ∧
      squash keyOf (squash keyOf changes) = squash keyOf changes ∧
      ∀ copy, follow keyOf copy (squash keyOf changes) = follow keyOf copy changes := by
  refine ⟨fun out => ⟨?_, fun h => (squashed_squash keyOf changes).eq h⟩, ?_,
    fun copy => follow_squash copy changes⟩
  · rintro rfl
    exact squashed_squash keyOf changes
  · exact squash_of_nodup (nodup_keys_squash changes) (deletesFirst_squash changes)

end Gatehouse.Change
