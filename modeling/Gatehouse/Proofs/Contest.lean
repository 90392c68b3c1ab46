import Gatehouse.Contest
import Gatehouse.Proofs.Seniority
import Gatehouse.Proofs.Table
import Mathlib.Data.List.Nodup

/-!
Who holds a slot after a contest: one of those who claimed it, and someone whenever anyone did.

Both follow by induction on the claims from what one more claim does, which is either to take the
slot or to leave the holder in place. Claimants are numbers here; `get?_holding_iff` goes from the
number of a holder to the thing that has the number.

Four more facts are proved the same way. Nobody who claimed a slot is senior to its holder
(`not_wins_of_get?_settle`), because whoever was displaced, and whoever was turned away, was not
senior to the one who stayed. The holder is senior to whoever came after it
(`wins_of_get?_settle`), because it would have been displaced otherwise. Every claim ends as the
holding of the slot or as one loss of it (`count_lost_add_isHolder`): a claim adds one to the sum of
both, and a displacement turns a holding into a loss. And the outcome depends on nothing but the
slots, the numbers and the ranks of the claims (`settle_congr`). In a contest of items, the claims of
a number are for the slots that the item wants (`claimedBy_claims`).
-/

set_option autoImplicit false

universe u

namespace Gatehouse

/-! ## 1. Claims one after the other -/

/-- A claim leaves the holder of a slot as it is, unless the slot is the one that is claimed and the
claimant takes it. Nothing more is needed of a claim to follow who holds a slot. -/
theorem Standing.get?_claim (s : Standing) (c : Claim) (slot : String) :
    (s.claim c).holders.get? slot = s.holders.get? slot ∨
      slot = c.slot ∧ (s.claim c).holders.get? slot = some c := by
  unfold Standing.claim
  rcases hslot : s.holders.get? c.slot with _ | holder
  · by_cases h : c.slot = slot
    · exact .inr ⟨h.symm, by simp [Table.get?_insert, h]⟩
    · exact .inl (by simp [Table.get?_insert, h])
  · by_cases hwins : holder.metadata.wins c.metadata
    · exact .inl (by simp [hwins])
    · by_cases h : c.slot = slot
      · exact .inr ⟨h.symm, by simp [hwins, Table.get?_insert, h]⟩
      · exact .inl (by simp [hwins, Table.get?_insert, h])

/-- After a claim its slot is held, by the claimant or by whoever has turned it away. -/
theorem Standing.exists_get?_claim (s : Standing) (c : Claim) :
    ∃ holder, (s.claim c).holders.get? c.slot = some holder := by
  unfold Standing.claim
  rcases hslot : s.holders.get? c.slot with _ | holder
  · exact ⟨c, by simp [Table.get?_insert]⟩
  · by_cases hwins : holder.metadata.wins c.metadata
    · exact ⟨holder, by simp [hwins, hslot]⟩
    · exact ⟨c, by simp [hwins, Table.get?_insert]⟩

/-- A holder is one of those who claimed the slot. A claim itself is what is kept as the holder, so
its number and its seniority come from there. -/
theorem mem_of_get?_settle {claims : List Claim} {slot : String} {c : Claim}
    (h : (settle claims).holders.get? slot = some c) : c ∈ claims ∧ c.slot = slot := by
  induction claims using List.reverseRecOn with
  | nil => simp [Standing.start] at h
  | append_singleton claims d ih =>
    rw [settle_append] at h
    -- the last claim left the slot as it was, or it is the one that holds it
    rcases (settle claims).get?_claim d slot with heq | ⟨hslot, heq⟩
    · obtain ⟨hmem, hslot⟩ := ih (heq ▸ h)
      exact ⟨List.mem_append_left _ hmem, hslot⟩
    · obtain rfl := Option.some.inj (heq.symm.trans h)
      exact ⟨by simp, hslot.symm⟩

/-- A slot that is claimed is held. The holder may change with later claims, but there is no way in
which a slot becomes free again. -/
theorem exists_get?_settle {claims : List Claim} {c : Claim} (h : c ∈ claims) :
    ∃ holder, (settle claims).holders.get? c.slot = some holder := by
  induction claims using List.reverseRecOn with
  | nil => simp at h
  | append_singleton claims d ih =>
    rw [settle_append]
    -- a slot that is held stays held, by whomever
    rcases (settle claims).get?_claim d c.slot with heq | ⟨-, heq⟩
    · rcases List.mem_append.1 h with hin | hin
      · rw [heq]
        exact ih hin
      · rw [List.mem_singleton.1 hin]
        exact (settle claims).exists_get?_claim d
    · exact ⟨d, heq⟩

/-! ## 2. Numbered claimants -/

namespace Standing

theorem isHolder_iff {s : Standing} {number : Nat} {slot : String} :
    s.isHolder number slot = true ↔
      ∃ c, s.holders.get? slot = some c ∧ c.claimant = number := by
  unfold isHolder
  rcases s.holders.get? slot with _ | c <;> simp

theorem isHolder_unique {s : Standing} {i j : Nat} {slot : String}
    (hi : s.isHolder i slot = true) (hj : s.isHolder j slot = true) : i = j := by
  obtain ⟨c, hc, rfl⟩ := isHolder_iff.1 hi
  obtain ⟨d, hd, rfl⟩ := isHolder_iff.1 hj
  rw [Option.some.inj (hc.symm.trans hd)]

/-- In the table of the things that hold slots, a slot has the thing with the holder's number. A
number that no thing has would leave the slot out. -/
theorem get?_holding_iff {α : Type u} {s : Standing} {things : List α} {slot : String} {x : α} :
    (s.holders.filterMap fun c => things[c.claimant]?).get? slot = some x ↔
      ∃ i, s.isHolder i slot = true ∧ things[i]? = some x := by
  rw [Table.get?_filterMap, Option.bind_eq_some_iff]
  constructor
  · rintro ⟨c, hc, hx⟩
    exact ⟨c.claimant, isHolder_iff.2 ⟨c, hc, rfl⟩, hx⟩
  · rintro ⟨i, hi, hx⟩
    obtain ⟨c, hc, rfl⟩ := isHolder_iff.1 hi
    exact ⟨c, hc, hx⟩

/-- When the things differ, the number of a thing holds the slots that the thing has. -/
theorem isHolder_iff_get?_holding {α : Type u} {s : Standing} {things : List α}
    (hnodup : things.Nodup) {number : Nat} {x : α} (hx : things[number]? = some x) {slot : String} :
    s.isHolder number slot = true ↔
      (s.holders.filterMap fun c => things[c.claimant]?).get? slot = some x := by
  rw [get?_holding_iff]
  constructor
  · intro hholds
    exact ⟨number, hholds, hx⟩
  · rintro ⟨i, hi, hix⟩
    obtain ⟨hlt, -⟩ := List.getElem?_eq_some_iff.1 hix
    rwa [← (List.getElem?_inj hlt hnodup).1 (hix.trans hx.symm)]

end Standing

/-! ## 3. Contests -/

section Contest

variable {α : Type u} {metaOf : α → Meta} {slotsOf : α → List String} {xs : List α}

/-- A claim of a contest is one of an item that stands at its number, wants its slot and has its
metadata. -/
theorem mem_claims_iff {c : Claim} :
    c ∈ xs.zipIdx.flatMap (fun x => claimsOf x.2 (metaOf x.1) (slotsOf x.1)) ↔
      ∃ x, xs[c.claimant]? = some x ∧ c.slot ∈ slotsOf x ∧ c.metadata = metaOf x := by
  simp only [List.mem_flatMap, claimsOf, List.mem_map, Prod.exists, List.mk_mem_zipIdx_iff_getElem?]
  constructor
  · rintro ⟨x, i, hx, slot, hslot, rfl⟩
    exact ⟨x, hx, hslot, rfl⟩
  · rintro ⟨x, hx, hslot, hmeta⟩
    exact ⟨x, c.claimant, hx, c.slot, hslot, by rw [← hmeta]⟩

/-- Who holds a slot wants it. In particular, the number that holds it is one of an item. -/
theorem wants_of_isHolder {i : Nat} {slot : String}
    (h : (contest metaOf slotsOf xs).isHolder i slot = true) :
    ∃ x, xs[i]? = some x ∧ slot ∈ slotsOf x := by
  obtain ⟨c, hc, rfl⟩ := Standing.isHolder_iff.1 h
  obtain ⟨hmem, rfl⟩ := mem_of_get?_settle hc
  obtain ⟨x, hx, hslot, -⟩ := mem_claims_iff.1 hmem
  exact ⟨x, hx, hslot⟩

theorem exists_isHolder {i : Nat} {x : α} {slot : String} (hx : xs[i]? = some x)
    (hslot : slot ∈ slotsOf x) : ∃ j, (contest metaOf slotsOf xs).isHolder j slot = true := by
  have hmem : (⟨slot, i, metaOf x⟩ : Claim) ∈
      xs.zipIdx.flatMap fun x => claimsOf x.2 (metaOf x.1) (slotsOf x.1) :=
    mem_claims_iff.2 ⟨x, hx, hslot, rfl⟩
  obtain ⟨holder, hholder⟩ := exists_get?_settle hmem
  exact ⟨holder.claimant, Standing.isHolder_iff.2 ⟨holder, hholder, rfl⟩⟩

end Contest

/-! ## 4. Nobody beats a holder -/

theorem Standing.get?_claim_of_ne {s : Standing} {c : Claim} {slot : String} (h : slot ≠ c.slot) :
    (s.claim c).holders.get? slot = s.holders.get? slot := by
  rcases s.get?_claim c slot with heq | ⟨hslot, -⟩
  · exact heq
  · exact absurd hslot h

/-- Whoever holds the slot after a claim is beaten neither by the newcomer nor by the holder before.
Both halves are needed to go on, since the holder may be either of the two. -/
theorem Standing.not_wins_of_get?_claim {s : Standing} {c holder : Claim}
    (h : (s.claim c).holders.get? c.slot = some holder) :
    c.metadata.wins holder.metadata = false ∧
      ∀ earlier, s.holders.get? c.slot = some earlier →
        earlier.metadata.wins holder.metadata = false := by
  unfold Standing.claim at h
  rcases hslot : s.holders.get? c.slot with _ | earlier
  · rw [hslot] at h
    obtain rfl : c = holder := by simpa [Table.get?_insert] using h
    exact ⟨Meta.wins_irrefl _, fun earlier hearlier => by cases hearlier⟩
  · rw [hslot] at h
    by_cases hwins : earlier.metadata.wins c.metadata
    · -- the holder stays, being senior
      obtain rfl : earlier = holder := by simpa [hwins, hslot] using h
      refine ⟨Meta.wins_asymm hwins, fun other hother => ?_⟩
      rw [← Option.some.inj hother]
      exact Meta.wins_irrefl _
    · obtain rfl : c = holder := by simpa [hwins, Table.get?_insert] using h
      refine ⟨Meta.wins_irrefl _, fun other hother => ?_⟩
      rw [← Option.some.inj hother]
      simpa using hwins

/-- Nobody who claimed a slot is senior to its holder. The induction is on the claims from the left,
for every holder: one that was displaced was not senior to the one that displaced it, and not being
senior is transitive. -/
theorem not_wins_of_get?_settle {claims : List Claim} {slot : String} {c d : Claim}
    (h : (settle claims).holders.get? slot = some c) (hd : d ∈ claims) (hslot : d.slot = slot) :
    d.metadata.wins c.metadata = false := by
  induction claims using List.reverseRecOn generalizing c with
  | nil => simp at hd
  | append_singleton claims e ih =>
    rw [settle_append] at h
    by_cases hsame : slot = e.slot
    · subst hsame
      obtain ⟨hnew, hold⟩ := Standing.not_wins_of_get?_claim h
      rcases List.mem_append.1 hd with hin | hin
      · -- an earlier claimant did not beat the holder before, who does not beat this one
        obtain ⟨earlier, hearlier⟩ := exists_get?_settle hin
        rw [hslot] at hearlier
        exact Meta.not_wins_trans (ih hearlier hin) (hold earlier hearlier)
      · rw [List.mem_singleton.1 hin]
        exact hnew
    · rw [Standing.get?_claim_of_ne hsame] at h
      rcases List.mem_append.1 hd with hin | hin
      · exact ih h hin
      · rw [List.mem_singleton.1 hin] at hslot
        exact absurd hslot.symm hsame

/-- When claims come by the numbers of their claimants, the holder of a slot is senior to every
claimant with a greater number. Of two that are equals, it is therefore the later one that holds the
slot in the end. -/
theorem wins_of_get?_settle {claims : List Claim} {slot : String} {c d : Claim}
    (hsorted : claims.Pairwise fun a b => a.claimant ≤ b.claimant)
    (h : (settle claims).holders.get? slot = some c) (hd : d ∈ claims) (hslot : d.slot = slot)
    (hlater : c.claimant < d.claimant) : c.metadata.wins d.metadata = true := by
  induction claims using List.reverseRecOn generalizing c with
  | nil => simp at hd
  | append_singleton claims e ih =>
    obtain ⟨hrest, -, hbelow⟩ := List.pairwise_append.1 hsorted
    rw [settle_append] at h
    -- nobody comes after the last claim
    have hne : c ≠ e := by
      rintro rfl
      rcases List.mem_append.1 hd with hin | hin
      · exact absurd (hbelow d hin c (by simp)) (by omega)
      · rw [List.mem_singleton.1 hin] at hlater
        omega
    have hbefore : (settle claims).holders.get? slot = some c := by
      rcases (settle claims).get?_claim e slot with heq | ⟨-, heq⟩
      · exact heq ▸ h
      · exact absurd (Option.some.inj (heq.symm.trans h)).symm hne
    rcases List.mem_append.1 hd with hin | hin
    · exact ih hrest hbefore hin hlater
    · -- so the last claim was refused, if it was for the slot
      obtain rfl := List.mem_singleton.1 hin
      subst hslot
      by_contra hnot
      rw [Standing.claim, hbefore] at h
      dsimp only at h
      rw [if_neg hnot, Table.get?_insert, if_pos rfl] at h
      exact hne (Option.some.inj h).symm

/-! ## 5. Every claim is held or lost -/

/-- The claim is one of the claimant to the slot. -/
def Claim.isBy (number : Nat) (slot : String) (c : Claim) : Bool :=
  c.claimant == number && c.slot == slot

/-- The slots that a claimant has claimed, in order. -/
def claimedBy (number : Nat) (claims : List Claim) : List String :=
  (claims.filter fun c => c.claimant == number).map (·.slot)

theorem count_claimedBy (number : Nat) (claims : List Claim) (slot : String) :
    (claimedBy number claims).count slot = claims.countP (Claim.isBy number slot) := by
  rw [claimedBy, List.count, List.countP_map, List.countP_filter]
  refine List.countP_congr fun c _ => ?_
  simp [Claim.isBy, and_comm]

theorem claimedBy_append (number : Nat) (claims more : List Claim) :
    claimedBy number (claims ++ more) = claimedBy number claims ++ claimedBy number more := by
  simp [claimedBy]

/-- The claims that an item makes for some slots are claims to those slots, and of nobody else. -/
theorem claimedBy_claimsOf (number claimant : Nat) (metadata : Meta) (slots : List String) :
    claimedBy number (claimsOf claimant metadata slots) =
      if number = claimant then slots else [] := by
  by_cases h : number = claimant
  · simp [claimedBy, claimsOf, h, List.filter_map, Function.comp_def]
  · simp [claimedBy, claimsOf, h, Ne.symm h]

theorem claimedBy_concat (number : Nat) (claims : List Claim) (c : Claim) :
    claimedBy number (claims ++ [c]) =
      if number = c.claimant then claimedBy number claims ++ [c.slot]
      else claimedBy number claims := by
  have hone : claimedBy number [c] = if number = c.claimant then [c.slot] else [] :=
    claimedBy_claimsOf number c.claimant c.metadata [c.slot]
  rw [claimedBy_append, hone, apply_ite (claimedBy number claims ++ ·), List.append_nil]

theorem mem_claimedBy {claims : List Claim} {c : Claim} (h : c ∈ claims) :
    c.slot ∈ claimedBy c.claimant claims :=
  List.mem_map.2 ⟨c, List.mem_filter.2 ⟨h, by simp⟩, rfl⟩

/-- A number that is in no claim has claimed nothing. So it is with the number of an item that has
not come yet. -/
theorem claimedBy_eq_nil {claims : List Claim} {number : Nat}
    (h : ∀ c ∈ claims, c.claimant ≠ number) : claimedBy number claims = [] := by
  rw [claimedBy, List.filter_eq_nil_iff.2 fun c hc => by simpa using h c hc, List.map_nil]

namespace Standing

/-- When a slot gets a holder, that is a matter of the one slot only. -/
theorem isHolder_insert (s : Standing) (c : Claim) (losses : List (Nat × String)) (number : Nat)
    (slot : String) :
    (Standing.mk (s.holders.insert c.slot c) losses).isHolder number slot =
      if c.slot = slot then c.claimant == number else s.isHolder number slot := by
  rw [isHolder, Table.get?_insert]
  split
  · rfl
  · rfl

theorem lost_append (s : Standing) (holders : Table Claim) (loser number : Nat) (slot : String) :
    (Standing.mk holders (s.losses ++ [(loser, slot)])).lost number =
      if number = loser then s.lost number ++ [slot] else s.lost number := by
  by_cases h : number = loser
  · simp [lost, h]
  · simp [lost, h, Ne.symm h]

/-- In numbers: a loss of a slot counts one for its loser and that slot, and nothing for any other
pair. -/
theorem count_lost_append (s : Standing) (holders : Table Claim) (loser number : Nat)
    (taken slot : String) :
    ((Standing.mk holders (s.losses ++ [(loser, taken)])).lost number).count slot =
      (s.lost number).count slot + (loser == number && taken == slot).toNat := by
  rw [lost_append]
  by_cases hloser : number = loser
  · by_cases htaken : taken = slot <;> simp [hloser, htaken]
  · simp [hloser, Ne.symm hloser]

/-- A claim adds one to what its claimant holds or has lost of the slot, and nothing to anything
else: a holder that is displaced has a loss instead. -/
theorem count_lost_claim (s : Standing) (c : Claim) (number : Nat) (slot : String) :
    ((s.claim c).lost number).count slot + ((s.claim c).isHolder number slot).toNat =
      (s.lost number).count slot + (s.isHolder number slot).toNat +
        (c.isBy number slot).toNat := by
  unfold claim Claim.isBy
  rcases hslot : s.holders.get? c.slot with _ | holder
  · dsimp only
    rw [isHolder_insert]
    by_cases hsame : c.slot = slot
    · have hfree : s.isHolder number slot = false := by rw [isHolder, ← hsame, hslot]; rfl
      simp [hsame, hfree, lost]
    · simp [hsame, lost]
  · by_cases hwins : holder.metadata.wins c.metadata
    · -- the newcomer is turned away
      simp only [hwins, if_true, count_lost_append]
      have hkept : (Standing.mk s.holders (s.losses ++ [(c.claimant, c.slot)])).isHolder number
          slot = s.isHolder number slot := rfl
      rw [hkept]
      omega
    · simp only [hwins, Bool.false_eq_true, if_false, count_lost_append, isHolder_insert]
      by_cases hsame : c.slot = slot
      · -- the newcomer holds the slot, and the holder before has lost it
        have hheld : s.isHolder number slot = (holder.claimant == number) := by
          rw [isHolder, ← hsame, hslot]
          rfl
        simp only [hsame, if_true, hheld, beq_self_eq_true, Bool.and_true]
      · have hother : (c.slot == slot) = false := by simpa using hsame
        simp [hsame, hother]

end Standing

/-- Every claim of a claimant to a slot ends as the holding of the slot or as a loss of it. A
claimant that wants a slot once therefore holds it or has lost it once, and not both. -/
theorem count_lost_add_isHolder (claims : List Claim) (number : Nat) (slot : String) :
    ((settle claims).lost number).count slot + ((settle claims).isHolder number slot).toNat =
      claims.countP (Claim.isBy number slot) := by
  induction claims using List.reverseRecOn with
  | nil => rfl
  | append_singleton claims c ih =>
    rw [settle_append, Standing.count_lost_claim, ih, List.countP_append, List.countP_singleton]
    cases c.isBy number slot <;> rfl

/-- What a claimant has lost it has claimed. -/
theorem exists_of_mem_lost {claims : List Claim} {number : Nat} {slot : String}
    (h : slot ∈ (settle claims).lost number) :
    ∃ c ∈ claims, c.claimant = number ∧ c.slot = slot := by
  have hcount := count_lost_add_isHolder claims number slot
  have hpos := List.count_pos_iff.2 h
  obtain ⟨c, hc, hby⟩ :=
    List.countP_pos_iff.1 (by omega : 0 < claims.countP (Claim.isBy number slot))
  simp only [Claim.isBy, Bool.and_eq_true, beq_iff_eq] at hby
  exact ⟨c, hc, hby⟩

/-! ## 6. What the outcome depends on -/

/-- What decides about a claim: its slot, its number and the rank of its metadata. Two claims may
differ in labels and annotations and still have the same outline. -/
def Claim.outline (c : Claim) : String × Nat × (WithBot (ℤ ×ₗ ℕ) ×ₗ (WithBot String)ᵒᵈ) :=
  (c.slot, c.claimant, c.metadata.rank)

/-- The same claimants hold and have lost the same slots, and the holders are as senior. The
seniority has to be part of it, because the next claim is compared with it. -/
structure Standing.Agrees (s t : Standing) : Prop where
  losses : s.losses = t.losses
  holders : ∀ slot, (s.holders.get? slot).map Claim.outline =
    (t.holders.get? slot).map Claim.outline

namespace Standing.Agrees

variable {s t : Standing}

/-- Where standings agree, a claimant has lost the same slots in the same order. -/
theorem lost_eq (h : s.Agrees t) (number : Nat) : s.lost number = t.lost number := by
  rw [lost, lost, h.losses]

/-- The slots are held by the same numbers. -/
theorem claimants_eq (h : s.Agrees t) (slot : String) :
    (s.holders.get? slot).map (·.claimant) = (t.holders.get? slot).map (·.claimant) := by
  have hsame := congrArg (Option.map fun o => o.2.1) (h.holders slot)
  rw [Option.map_map, Option.map_map] at hsame
  exact hsame

/-- And it holds the same slots. -/
theorem isHolder_eq (h : s.Agrees t) (number : Nat) (slot : String) :
    s.isHolder number slot = t.isHolder number slot := by
  have hnumber : ∀ r : Standing, r.isHolder number slot =
      ((r.holders.get? slot).map (·.claimant)).any (· == number) := by
    intro r
    rw [Option.any_map]
    rfl
  rw [hnumber, hnumber, h.claimants_eq slot]

/-- When the things are changed one by one, so are those that hold the slots. Who holds a slot is a
number in the contest and does not depend on what the things are. -/
theorem holding_map (h : s.Agrees t) {α β : Type u} (f : α → β) (things : List α) :
    (s.holders.filterMap fun c => (things.map f)[c.claimant]?) =
      (t.holders.filterMap fun c => things[c.claimant]?).map f := by
  refine Table.ext_get? fun slot => ?_
  have hthing : ∀ r : Standing, (r.holders.get? slot).bind (fun c => (things[c.claimant]?).map f) =
      ((r.holders.get? slot).map (·.claimant)).bind fun n => (things[n]?).map f := by
    intro r
    rw [Option.bind_map]
    rfl
  rw [Table.get?_map, Table.get?_filterMap, Table.get?_filterMap, Option.map_bind]
  simp only [List.getElem?_map]
  rw [hthing s, h.claimants_eq slot, ← hthing t]
  rfl

/-- Agreement is kept when a slot gets holders of the same outline in both. -/
theorem insert (h : s.Agrees t) {c d : Claim} (hcd : c.outline = d.outline)
    {losses losses' : List (Nat × String)} (hlosses : losses = losses') :
    Standing.Agrees ⟨s.holders.insert c.slot c, losses⟩ ⟨t.holders.insert d.slot d, losses'⟩ where
  losses := hlosses
  holders slot := by
    have hslot : c.slot = d.slot := congrArg Prod.fst hcd
    rw [Table.get?_insert, Table.get?_insert, hslot, apply_ite (Option.map Claim.outline),
      apply_ite (Option.map Claim.outline), Option.map_some, Option.map_some, hcd, h.holders slot]

/-- Claims with the same outline keep the agreement. The cases are those of a claim, and they come
alike on both sides because the ranks compare alike. -/
theorem claim (h : s.Agrees t) {c d : Claim} (hcd : c.outline = d.outline) :
    (s.claim c).Agrees (t.claim d) := by
  have hslot : c.slot = d.slot := congrArg Prod.fst hcd
  have hnumber : c.claimant = d.claimant := congrArg (·.2.1) hcd
  have hrank : c.metadata.rank = d.metadata.rank := congrArg (·.2.2) hcd
  have hbefore := h.holders c.slot
  unfold Standing.claim
  rw [← hslot]
  rcases hc : s.holders.get? c.slot with _ | holder <;>
    rcases hd : t.holders.get? c.slot with _ | other <;> rw [hc, hd] at hbefore
  · exact hslot ▸ h.insert hcd h.losses
  · cases hbefore
  · cases hbefore
  · have hsame : holder.outline = other.outline := Option.some.inj hbefore
    have hholder : holder.claimant = other.claimant := congrArg (·.2.1) hsame
    have hwins : holder.metadata.wins c.metadata = other.metadata.wins d.metadata :=
      Meta.wins_congr (congrArg (·.2.2) hsame) hrank
    dsimp only
    rw [← hwins]
    -- both holders stay, or both are displaced
    by_cases hstays : holder.metadata.wins c.metadata
    · rw [if_pos hstays, if_pos hstays]
      exact ⟨by rw [h.losses, hnumber], h.holders⟩
    · rw [if_neg hstays, if_neg hstays]
      exact hslot ▸ h.insert hcd (by rw [h.losses, hholder])

end Standing.Agrees

/-- So do any number of claims, one after the other. -/
theorem Standing.agrees_foldl {s t : Standing} (h : s.Agrees t) {claims others : List Claim}
    (hsame : claims.map Claim.outline = others.map Claim.outline) :
    (claims.foldl Standing.claim s).Agrees (others.foldl Standing.claim t) := by
  induction claims generalizing s t others with
  | nil =>
    obtain rfl := List.map_eq_nil_iff.1 hsame.symm
    exact h
  | cons c claims ih =>
    cases others with
    | nil => cases hsame
    | cons d others =>
      obtain ⟨hcd, hrest⟩ := List.cons.inj hsame
      exact ih (h.claim hcd) hrest

/-- Claims with the same outlines come to the same, whatever else differs between them. -/
theorem settle_congr {claims others : List Claim}
    (h : claims.map Claim.outline = others.map Claim.outline) :
    (settle claims).Agrees (settle others) :=
  Standing.agrees_foldl ⟨rfl, fun _ => rfl⟩ h

/-! ## 7. Outcomes of contests -/

section Outcome

variable {α β : Type u} {metaOf : α → Meta} {slotsOf : α → List String} {xs : List α}
  {metaOf' : β → Meta} {slotsOf' : β → List String} {ys : List β}

/-- Nobody who wants a slot is senior to the one who holds it. -/
theorem not_wins_of_isHolder {i j : Nat} {x y : α} {slot : String} (hx : xs[i]? = some x)
    (hi : (contest metaOf slotsOf xs).isHolder i slot = true) (hy : xs[j]? = some y)
    (hslot : slot ∈ slotsOf y) : (metaOf y).wins (metaOf x) = false := by
  obtain ⟨c, hc, rfl⟩ := Standing.isHolder_iff.1 hi
  obtain ⟨hmem, rfl⟩ := mem_of_get?_settle hc
  obtain ⟨x', hx', -, hmeta⟩ := mem_claims_iff.1 hmem
  obtain rfl := Option.some.inj (hx.symm.trans hx')
  rw [← hmeta]
  exact not_wins_of_get?_settle hc (mem_claims_iff.2 ⟨y, hy, hslot, rfl⟩ :
    (⟨c.slot, j, metaOf y⟩ : Claim) ∈ _) rfl

/-- The claims of a contest come by the numbers of the claimants. So an item finds the claims of all
items before it made, and none of those after it. -/
theorem pairwise_claims :
    (xs.zipIdx.flatMap fun x => claimsOf x.2 (metaOf x.1) (slotsOf x.1)).Pairwise
      fun a b => a.claimant ≤ b.claimant := by
  have hnumber : ∀ x : α × Nat, ∀ c ∈ claimsOf x.2 (metaOf x.1) (slotsOf x.1), c.claimant = x.2 := by
    intro x c hc
    obtain ⟨slot, -, rfl⟩ := List.mem_map.1 hc
    rfl
  refine List.pairwise_flatMap.2 ⟨fun x _ => ?_, ?_⟩
  · refine List.pairwise_of_forall_mem_list fun a ha b hb => ?_
    rw [hnumber x a ha, hnumber x b hb]
  · have hplaces : xs.zipIdx.Pairwise fun x y => x.2 < y.2 := by
      rw [← List.pairwise_map, List.zipIdx_map_snd]
      exact List.pairwise_lt_range'
    refine hplaces.imp fun {x y} hlt a ha b hb => ?_
    rw [hnumber x a ha, hnumber y b hb]
    exact Nat.le_of_lt hlt

/-- Who holds a slot is senior to everyone who wants it and comes later. -/
theorem wins_of_isHolder {i j : Nat} {x y : α} {slot : String} (hx : xs[i]? = some x)
    (hi : (contest metaOf slotsOf xs).isHolder i slot = true) (hy : xs[j]? = some y)
    (hslot : slot ∈ slotsOf y) (hlater : i < j) : (metaOf x).wins (metaOf y) = true := by
  obtain ⟨c, hc, rfl⟩ := Standing.isHolder_iff.1 hi
  obtain ⟨hmem, rfl⟩ := mem_of_get?_settle hc
  obtain ⟨x', hx', -, hmeta⟩ := mem_claims_iff.1 hmem
  obtain rfl := Option.some.inj (hx.symm.trans hx')
  rw [← hmeta]
  exact wins_of_get?_settle pairwise_claims hc (mem_claims_iff.2 ⟨y, hy, hslot, rfl⟩ :
    (⟨c.slot, j, metaOf y⟩ : Claim) ∈ _) rfl hlater

theorem claims_concat (xs : List α) (x : α) :
    ((xs ++ [x]).zipIdx.flatMap fun y => claimsOf y.2 (metaOf y.1) (slotsOf y.1)) =
      (xs.zipIdx.flatMap fun y => claimsOf y.2 (metaOf y.1) (slotsOf y.1)) ++
        claimsOf xs.length (metaOf x) (slotsOf x) := by
  simp [List.zipIdx_append]

/-- In a contest an item claims the slots that it wants, in its own order and with repetitions. No
other item claims under its number. -/
theorem claimedBy_claims {number : Nat} {x : α} (hx : xs[number]? = some x) :
    claimedBy number (xs.zipIdx.flatMap fun y => claimsOf y.2 (metaOf y.1) (slotsOf y.1)) =
      slotsOf x := by
  induction xs using List.reverseRecOn with
  | nil => cases hx
  | append_singleton xs y ih =>
    rw [claims_concat, claimedBy_append, claimedBy_claimsOf]
    rcases Nat.lt_trichotomy number xs.length with hlt | rfl | hgt
    · rw [List.getElem?_append_left hlt] at hx
      rw [ih hx, if_neg (Nat.ne_of_lt hlt), List.append_nil]
    · -- the items before have other numbers
      have hnone : claimedBy xs.length
          (xs.zipIdx.flatMap fun y => claimsOf y.2 (metaOf y.1) (slotsOf y.1)) = [] := by
        refine claimedBy_eq_nil fun c hc heq => ?_
        obtain ⟨z, hz, -⟩ := mem_claims_iff.1 hc
        rw [heq] at hz
        simp at hz
      obtain rfl : y = x := by simpa using hx
      rw [hnone, if_pos rfl, List.nil_append]
    · rw [List.getElem?_eq_none (by simpa using hgt)] at hx
      cases hx

/-- Who wants a slot holds it or has lost it, once for every time that it is wanted. -/
theorem count_lost_add_isHolder_contest {number : Nat} {x : α} (hx : xs[number]? = some x)
    (slot : String) :
    ((contest metaOf slotsOf xs).lost number).count slot +
      ((contest metaOf slotsOf xs).isHolder number slot).toNat = (slotsOf x).count slot := by
  rw [contest, count_lost_add_isHolder, ← count_claimedBy, claimedBy_claims hx]

/-- When the items stand for things, the thing of who wants a slot has it, or a loss is there
instead, once for every time that it is wanted. -/
theorem count_lost_add_holding [DecidableEq β] {things : List β} (hnodup : things.Nodup)
    {number : Nat} {x : α} {y : β} (hx : xs[number]? = some x) (hy : things[number]? = some y)
    (slot : String) :
    ((contest metaOf slotsOf xs).lost number).count slot +
      (if ((contest metaOf slotsOf xs).holders.filterMap fun c => things[c.claimant]?).get? slot =
        some y then 1 else 0) = (slotsOf x).count slot := by
  have hholds : (contest metaOf slotsOf xs).isHolder number slot = true ↔
      ((contest metaOf slotsOf xs).holders.filterMap fun c => things[c.claimant]?).get? slot =
        some y := Standing.isHolder_iff_get?_holding hnodup hy
  rw [← count_lost_add_isHolder_contest hx slot, ← if_congr hholds rfl rfl]
  cases (contest metaOf slotsOf xs).isHolder number slot <;> rfl

/-- Contests agree when the items at each place are as senior and want the same slots. What else the
items are may differ altogether, even in type. -/
theorem contest_congr
    (h : xs.map (fun x => ((metaOf x).rank, slotsOf x)) =
      ys.map fun y => ((metaOf' y).rank, slotsOf' y)) :
    (contest metaOf slotsOf xs).Agrees (contest metaOf' slotsOf' ys) := by
  have houtline : ∀ {γ : Type u} (m : γ → Meta) (sl : γ → List String) (zs : List γ),
      (zs.zipIdx.flatMap fun z => claimsOf z.2 (m z.1) (sl z.1)).map Claim.outline =
        (zs.map fun z => ((m z).rank, sl z)).zipIdx.flatMap fun z =>
          z.1.2.map fun slot => (slot, z.2, z.1.1) := by
    intro γ m sl zs
    simp [List.map_flatMap, List.zipIdx_map, List.flatMap_map, claimsOf, Claim.outline,
      Function.comp_def]
  refine settle_congr ?_
  rw [houtline, houtline, h]

/-- A contest looks at nothing of the items but how senior they are and which slots they want. -/
theorem contest_map_agrees {γ : α → β} (hrank : ∀ x, (metaOf' (γ x)).rank = (metaOf x).rank)
    (hslots : ∀ x, slotsOf' (γ x) = slotsOf x) :
    (contest metaOf' slotsOf' (xs.map γ)).Agrees (contest metaOf slotsOf xs) := by
  refine contest_congr ?_
  rw [List.map_map]
  exact List.map_congr_left fun x _ => by rw [Function.comp_apply, hrank, hslots]

end Outcome

end Gatehouse
