import Gatehouse.Seniority
import Mathlib

/-!
Seniority is the order of a rank.

What decides between two objects is written down as one value, `Meta.rank`: the creation time first,
a missing one below all others, and then the identifier, read downwards. Ranks are linearly ordered,
and an object is senior to another one exactly when its rank is the lower one (`Meta.wins_iff`). So
nothing about the order has to be shown by cases again: that it is asymmetric, that not being senior
is transitive, and that two objects without a senior one have the same rank.

A ranking puts a list in that order and leaves what has the same rank in the order of the list. So
its head is the first of the most senior ones (`exists_split_of_head?_bySeniority`). In a list by
keys that is the one that no other one precedes, where keys decide between equals
(`head?_bySeniority_eq_some_iff`).
-/

set_option autoImplicit false

namespace Gatehouse

/-! ## 1. Ranks -/

/-- The place of an instant in time: the second, then the fraction. -/
def Instant.position (t : Instant) : ℤ ×ₗ ℕ := toLex (t.second, t.nano)

/-- The place of a creation time, the missing one first. -/
def ageRank : Option Instant → WithBot (ℤ ×ₗ ℕ)
  | none => ⊥
  | some t => t.position

/-- The place of an identifier, the missing one first. -/
def uidRank : Option String → WithBot String
  | none => ⊥
  | some uid => uid

/-- What decides between two objects; the lower rank is senior. Identifiers are compared downwards,
which is why they come in the dual order. -/
def Meta.rank (m : Meta) : WithBot (ℤ ×ₗ ℕ) ×ₗ (WithBot String)ᵒᵈ :=
  toLex (ageRank m.created, OrderDual.toDual (uidRank m.uid))

/-- An instant is before another one when its second is, or with the same second its fraction. That
is the order of pairs. -/
theorem Instant.before_iff_position {a b : Instant} :
    a.before b = true ↔ a.position < b.position := by
  rw [before_iff, position, position, Prod.Lex.toLex_lt_toLex]

/-- The position says all of an instant, so equal positions are equal instants. -/
theorem Instant.position_injective : Function.Injective Instant.position := by
  intro a b h
  obtain ⟨hsecond, hnano⟩ := Prod.mk.inj (toLex.injective h)
  cases a
  cases b
  simp_all

/-- Of two creation times the earlier one has the lower rank, and a missing one comes before all
that are there. -/
theorem createdBefore_iff {a b : Option Instant} :
    createdBefore a b = true ↔ ageRank a < ageRank b := by
  cases a with
  | none => cases b <;> simp [createdBefore, ageRank]
  | some a =>
    cases b with
    | none => simp [createdBefore, ageRank]
    | some b => simp [createdBefore, ageRank, Instant.before_iff_position]

/-- The same of identifiers, which are compared as texts. -/
theorem uidBefore_iff {a b : Option String} : uidBefore a b = true ↔ uidRank a < uidRank b := by
  cases a with
  | none => cases b <;> simp [uidBefore, uidRank]
  | some a => cases b <;> simp [uidBefore, uidRank]

/-- No two creation times have the same rank, the missing one included. -/
theorem ageRank_injective : Function.Injective ageRank := by
  intro a b h
  cases a <;> cases b <;> simp_all [ageRank, Instant.position_injective.eq_iff]

/-- Nor have two identifiers. -/
theorem uidRank_injective : Function.Injective uidRank := by
  intro a b h
  cases a <;> cases b <;> simp_all [uidRank]

namespace Meta

/-- The rank says no more than the creation time and the identifier. Objects that agree in both
cannot be told apart by seniority. -/
theorem rank_eq_iff {a b : Meta} :
    a.rank = b.rank ↔ a.created = b.created ∧ a.uid = b.uid := by
  rw [rank, rank, toLex.injective.eq_iff, Prod.mk.injEq, OrderDual.toDual_inj,
    ageRank_injective.eq_iff, uidRank_injective.eq_iff]

/-! ## 2. Seniority -/

/-- The senior object is the one with the lower rank. All that follows about seniority is read off
this, from facts about linear orders. -/
theorem wins_iff {a b : Meta} : a.wins b = true ↔ a.rank < b.rank := by
  rw [rank, rank, Prod.Lex.toLex_lt_toLex, OrderDual.toDual_lt_toDual, ← createdBefore_iff,
    ← uidBefore_iff, ageRank_injective.eq_iff, wins]
  by_cases h : a.created = b.created
  · -- no time is before itself
    have hnot : createdBefore b.created b.created = false := by
      rw [← Bool.not_eq_true, createdBefore_iff]
      exact lt_irrefl _
    simp [h, hnot]
  · simp [h]

/-- Since ranks are linearly ordered, who is not senior has a rank that is the same or a greater
one. -/
theorem wins_eq_false_iff {a b : Meta} : a.wins b = false ↔ b.rank ≤ a.rank := by
  rw [← Bool.not_eq_true, wins_iff, not_lt]

theorem wins_asymm {a b : Meta} (h : a.wins b = true) : b.wins a = false :=
  wins_eq_false_iff.2 (wins_iff.1 h).le

/-- Who is not senior to an object is not senior to its seniors' betters either. Holders may be
displaced several times, and this is what compares the first with the last. -/
theorem not_wins_trans {a b c : Meta} (hab : a.wins b = false) (hbc : b.wins c = false) :
    a.wins c = false :=
  wins_eq_false_iff.2 ((wins_eq_false_iff.1 hbc).trans (wins_eq_false_iff.1 hab))

/-- Of two objects that differ in the creation time or the identifier, one is senior. -/
theorem wins_of_not_wins {a b : Meta} (h : a.wins b = false)
    (hne : (a.created, a.uid) ≠ (b.created, b.uid)) : b.wins a = true := by
  refine wins_iff.2 (lt_of_le_of_ne (wins_eq_false_iff.1 h) fun heq => hne ?_)
  obtain ⟨hcreated, huid⟩ := rank_eq_iff.1 heq
  rw [hcreated, huid]

/-- Nothing but the ranks decides. -/
theorem wins_congr {a a' b b' : Meta} (ha : a.rank = a'.rank) (hb : b.rank = b'.rank) :
    a.wins b = a'.wins b' := by
  rw [Bool.eq_iff_iff, wins_iff, wins_iff, ha, hb]

/-- The first object is senior to the second, or neither is senior and its key is the smaller
one. -/
def Precedes (a b : Meta) : Prop :=
  a.wins b = true ∨ a.wins b = false ∧ b.wins a = false ∧ a.key < b.key

/-- To precede is to have the lower rank and key, as a pair. So it is a linear order of objects with
different keys, whether or not seniority decides between them. -/
theorem precedes_iff {a b : Meta} :
    a.Precedes b ↔ toLex (a.rank, a.key) < toLex (b.rank, b.key) := by
  rw [Precedes, Prod.Lex.toLex_lt_toLex, wins_iff, wins_eq_false_iff, wins_eq_false_iff]
  constructor
  · rintro (h | ⟨hle, hge, hkey⟩)
    · exact .inl h
    · exact .inr ⟨hge.antisymm hle, hkey⟩
  · rintro (h | ⟨heq, hkey⟩)
    · exact .inl h
    · exact .inr ⟨heq.ge, heq.le, hkey⟩

/-- Of two objects with different keys, one precedes the other. -/
theorem precedes_of_not_precedes {a b : Meta} (h : ¬a.Precedes b) (hkey : a.key ≠ b.key) :
    b.Precedes a := by
  rw [precedes_iff, not_lt] at h
  refine precedes_iff.2 (lt_of_le_of_ne h fun heq => hkey ?_)
  exact (congrArg Prod.snd (toLex.injective heq)).symm

end Meta

/-! ## 3. Rankings -/

section Rankings

variable {α β : Type} {metaOf : α → Meta}

/-- The ranking of one more item is the ranking so far with the item put into it. Inductions on a
ranking go through the list from the left, as the ranking itself does. -/
theorem bySeniority_append (xs : List α) (x : α) :
    bySeniority metaOf (xs ++ [x]) = rankIn metaOf x (bySeniority metaOf xs) := by
  simp [bySeniority]

/-- Putting an item into a ranking loses nothing and adds nothing else. -/
theorem rankIn_perm (x : α) (ranking : List α) : (rankIn metaOf x ranking).Perm (x :: ranking) := by
  induction ranking with
  | nil => exact .refl _
  | cons y ranking ih =>
    rw [rankIn]
    split
    · exact .refl _
    · exact (ih.cons y).trans (.swap x y ranking)

/-- A ranking has what the list has, as often. Only the order is a new one. -/
theorem bySeniority_perm (xs : List α) : (bySeniority metaOf xs).Perm xs := by
  induction xs using List.reverseRecOn with
  | nil => exact .refl _
  | append_singleton xs x ih =>
    rw [bySeniority_append]
    exact (rankIn_perm x _).trans ((ih.cons x).trans (List.perm_append_singleton x xs).symm)

theorem mem_bySeniority_iff {xs : List α} {y : α} : y ∈ bySeniority metaOf xs ↔ y ∈ xs :=
  (bySeniority_perm xs).mem_iff

theorem bySeniority_eq_nil_iff {xs : List α} : bySeniority metaOf xs = [] ↔ xs = [] := by
  simp only [List.eq_nil_iff_forall_not_mem, mem_bySeniority_iff]

/-- Where an item goes in a ranking depends on its metadata only. -/
theorem rankIn_map (f : β → α) (x : β) (ranking : List β) :
    rankIn metaOf (f x) (ranking.map f) = (rankIn (metaOf ∘ f) x ranking).map f := by
  induction ranking with
  | nil => rfl
  | cons y ranking ih =>
    rw [List.map_cons, rankIn, rankIn, apply_ite (List.map f), ih]
    rfl

/-- Only the metadata decide the order. A list may be ranked before or after its items are changed
into others, provided that the metadata go with them. -/
theorem bySeniority_map (f : β → α) (xs : List β) :
    bySeniority metaOf (xs.map f) = (bySeniority (metaOf ∘ f) xs).map f := by
  induction xs using List.reverseRecOn with
  | nil => rfl
  | append_singleton xs x ih =>
    rw [List.map_append, List.map_singleton, bySeniority_append, bySeniority_append, ih, rankIn_map]

/-- An item becomes the head of a ranking when there is none or when it is senior to the head there
is, and otherwise the head stays. -/
theorem head?_rankIn (x : α) (ranking : List α) :
    (rankIn metaOf x ranking).head? =
      some ((ranking.head?.filter fun y => !(metaOf x).wins (metaOf y)).getD x) := by
  cases ranking with
  | nil => rfl
  | cons y ranking =>
    rw [rankIn, List.head?_cons, Option.filter_some]
    by_cases h : (metaOf x).wins (metaOf y) <;> simp [h]

/-- The head of a ranking is senior to what comes before it in the list, and nothing that comes
after it is senior to it. So of several equals that nobody beats, it is the first. -/
theorem exists_split_of_head?_bySeniority {xs : List α} {h : α}
    (hhead : (bySeniority metaOf xs).head? = some h) :
    ∃ earlier later, xs = earlier ++ h :: later ∧
      (∀ x ∈ earlier, (metaOf h).wins (metaOf x) = true) ∧
      ∀ x ∈ later, (metaOf x).wins (metaOf h) = false := by
  induction xs using List.reverseRecOn generalizing h with
  | nil => cases hhead
  | append_singleton xs x ih =>
    rw [bySeniority_append, head?_rankIn, Option.some.injEq] at hhead
    cases hfirst : (bySeniority metaOf xs).head? with
    | none =>
      -- then the list is empty so far
      have hnil : xs = [] := bySeniority_eq_nil_iff.1 (List.head?_eq_none_iff.1 hfirst)
      rw [hfirst, Option.filter_none, Option.getD_none] at hhead
      exact ⟨[], [], by simp [hnil, hhead], nofun, nofun⟩
    | some first =>
      obtain ⟨earlier, later, hxs, hearlier, hlater⟩ := ih hfirst
      rw [hfirst, Option.filter_some] at hhead
      by_cases hwins : (metaOf x).wins (metaOf first) = true
      · -- the newcomer is senior to the head, and with that to all
        rw [hwins, Bool.not_true, if_neg Bool.false_ne_true, Option.getD_none] at hhead
        subst hhead
        refine ⟨xs, [], rfl, fun y hy => ?_, nofun⟩
        rw [Meta.wins_iff] at hwins ⊢
        rw [hxs, List.mem_append, List.mem_cons] at hy
        rcases hy with hy | rfl | hy
        · exact hwins.trans (Meta.wins_iff.1 (hearlier y hy))
        · exact hwins
        · exact hwins.trans_le (Meta.wins_eq_false_iff.1 (hlater y hy))
      · rw [Bool.not_eq_true] at hwins
        rw [hwins, Bool.not_false, if_pos rfl, Option.getD_some] at hhead
        subst hhead
        refine ⟨earlier, later ++ [x], by simp [hxs], hearlier, fun y hy => ?_⟩
        rcases List.mem_append.1 hy with hy | hy
        · exact hlater y hy
        · rwa [List.mem_singleton.1 hy]

/-- In a list by keys nothing precedes the head: what comes before it in the list is beaten by it,
and what comes after it has the greater key. -/
theorem not_precedes_of_head?_bySeniority {xs : List α}
    (hkeys : xs.Pairwise fun x y => (metaOf x).key < (metaOf y).key) {h : α}
    (hhead : (bySeniority metaOf xs).head? = some h) :
    h ∈ xs ∧ ∀ x ∈ xs, ¬(metaOf x).Precedes (metaOf h) := by
  obtain ⟨earlier, later, rfl, hearlier, hlater⟩ := exists_split_of_head?_bySeniority hhead
  obtain ⟨-, hright, -⟩ := List.pairwise_append.1 hkeys
  refine ⟨by simp, fun x hx hprecedes => ?_⟩
  rcases hprecedes with hwins | ⟨-, hnot, hkey⟩ <;> rcases List.mem_append.1 hx with hx | hx
  · rw [Meta.wins_asymm (hearlier x hx)] at hwins
    cases hwins
  · rcases List.mem_cons.1 hx with rfl | hx
    · rw [Meta.wins_irrefl] at hwins
      cases hwins
    · rw [hlater x hx] at hwins
      cases hwins
  · -- what comes before the head has lost to it, whatever its key
    rw [hearlier x hx] at hnot
    cases hnot
  · rcases List.mem_cons.1 hx with rfl | hx
    · exact lt_irrefl _ hkey
    · exact lt_asymm hkey ((List.pairwise_cons.1 hright).1 x hx)

/-- In a list by keys, the head of the ranking is the one that no other one precedes. The other
direction holds because of two objects with different keys one precedes the other. -/
theorem head?_bySeniority_eq_some_iff {xs : List α}
    (hkeys : xs.Pairwise fun x y => (metaOf x).key < (metaOf y).key) {h : α} :
    (bySeniority metaOf xs).head? = some h ↔
      h ∈ xs ∧ ∀ x ∈ xs, ¬(metaOf x).Precedes (metaOf h) := by
  refine ⟨not_precedes_of_head?_bySeniority hkeys, fun ⟨hmem, hnone⟩ => ?_⟩
  -- the head precedes every other one, so it can be no other one
  cases hhead : (bySeniority metaOf xs).head? with
  | none =>
    rw [bySeniority_eq_nil_iff.1 (List.head?_eq_none_iff.1 hhead)] at hmem
    exact absurd hmem List.not_mem_nil
  | some first =>
    obtain ⟨hfirstmem, hbefore⟩ := not_precedes_of_head?_bySeniority hkeys hhead
    have hkey : (metaOf first).key = (metaOf h).key := by
      by_contra hne
      exact hbefore h hmem (Meta.precedes_of_not_precedes (hnone first hfirstmem) hne)
    have hnodup : (xs.map fun x => (metaOf x).key).Nodup := by
      rw [List.Nodup, List.pairwise_map]
      exact hkeys.imp fun hlt => ne_of_lt hlt
    rw [List.inj_on_of_nodup_map hnodup hfirstmem hmem hkey]

end Rankings

end Gatehouse
