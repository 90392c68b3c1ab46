import Gatehouse.Proofs.Contest

/-!
Who gets a thing that several ask for does not depend on the order in which they ask.

Seniority is a strict weak order, in which only objects of the same creation time and identifier tie
(`isSeniority_wins`). So those to whom nobody is senior have all the same seniority, and where no
two are equally senior there is one of them (`Unbeaten.unique`). Both ways to decide end with such a
one. In the contest for a slot the newcomer takes it over unless the holder is senior, and the
holder at the end is unbeaten (`unbeaten_of_get?_settle`). A ranking is sorted
(`pairwise_bySeniority`), so its head is unbeaten too (`unbeaten_of_head?_bySeniority`). To be
unbeaten is a property of the members of a list, so with that both come to the same, in whatever
order the list is.
-/

set_option autoImplicit false

universe u

namespace Gatehouse

/-! ## 1. The order -/

/-- What seniority is about: the creation time and the identifier. -/
def Meta.seniority (m : Meta) : Option Instant × Option String := (m.created, m.uid)

/-- The comparison is a strict weak order in which only objects of the same creation time and
identifier tie. The older one comes first, then the one with the greater identifier; a missing time
is the oldest, and a missing identifier the smallest. -/
structure IsSeniority (senior : Meta → Meta → Bool) : Prop where
  irrefl : ∀ a, senior a a = false
  asymm : ∀ a b, senior a b = true → senior b a = false
  trans : ∀ a b c, senior a b = true → senior b c = true → senior a c = true
  not_trans : ∀ a b c, senior a b = false → senior b c = false → senior a c = false
  tie : ∀ a b, senior a b = false → senior b a = false → a.seniority = b.seniority
  older : ∀ a b s t, a.created = some s → b.created = some t → s.before t = true →
    senior a b = true
  undated : ∀ a b t, a.created = none → b.created = some t → senior a b = true
  greater : ∀ a b u v, a.created = b.created → a.uid = some u → b.uid = some v → v < u →
    senior a b = true
  unnamed : ∀ a b u, a.created = b.created → a.uid = some u → b.uid = none → senior a b = true

namespace Meta

theorem wins_trans {a b c : Meta} (hab : a.wins b = true) (hbc : b.wins c = true) :
    a.wins c = true :=
  wins_iff.2 ((wins_iff.1 hab).trans (wins_iff.1 hbc))

/-- Objects of which neither is senior have the same seniority. -/
theorem seniority_eq_of_not_wins {a b : Meta} (hab : a.wins b = false) (hba : b.wins a = false) :
    a.seniority = b.seniority := by
  by_contra hne
  rw [wins_of_not_wins hab hne] at hba
  cases hba

theorem wins_of_created_ne {a b : Meta} (hne : a.created ≠ b.created) :
    a.wins b = createdBefore a.created b.created := by
  rw [wins, if_neg hne]

theorem wins_of_created_eq {a b : Meta} (heq : a.created = b.created) :
    a.wins b = uidBefore b.uid a.uid := by
  rw [wins, if_pos heq]

theorem created_ne_of_before {a b : Meta} {s t : Instant} (ha : a.created = some s)
    (hb : b.created = some t) (h : s.before t = true) : a.created ≠ b.created := by
  rw [ha, hb, Option.some_inj.ne]
  rintro rfl
  exact lt_irrefl _ (Instant.before_iff_position.1 h)

end Meta

/-- Seniority as it is decided. Up to `tie` it is a matter of ranks; the parts after that say which
of two objects is senior, and are read off the comparison. -/
theorem isSeniority_wins : IsSeniority Meta.wins where
  irrefl := Meta.wins_irrefl
  asymm _ _ := Meta.wins_asymm
  trans _ _ _ := Meta.wins_trans
  not_trans _ _ _ := Meta.not_wins_trans
  tie _ _ := Meta.seniority_eq_of_not_wins
  older a b s t ha hb h := by
    rw [Meta.wins_of_created_ne (Meta.created_ne_of_before ha hb h), ha, hb, createdBefore, h]
  undated a b t ha hb := by
    have hne : a.created ≠ b.created := by simp [ha, hb]
    rw [Meta.wins_of_created_ne hne, ha, hb, createdBefore]
  greater a b u v heq ha hb h := by
    rw [Meta.wins_of_created_eq heq, ha, hb, uidBefore, decide_eq_true h]
  unnamed a b u heq ha hb := by
    rw [Meta.wins_of_created_eq heq, ha, hb, uidBefore]

/-! ## 2. Unbeaten members -/

/-- The item is a member of the list to which no member is senior. Nothing is said of how it was
found, so different runs can be compared by it. -/
structure Unbeaten {α : Type u} (metaOf : α → Meta) (xs : List α) (x : α) : Prop where
  mem : x ∈ xs
  not_wins : ∀ y ∈ xs, (metaOf y).wins (metaOf x) = false

namespace Unbeaten

variable {α : Type u} {metaOf : α → Meta} {xs ys : List α} {x y : α}

theorem perm (h : Unbeaten metaOf xs x) (hperm : xs.Perm ys) : Unbeaten metaOf ys x :=
  ⟨hperm.mem_iff.1 h.mem, fun y hy => h.not_wins y (hperm.mem_iff.2 hy)⟩

/-- Unbeaten members are equally senior, since neither is senior to the other. -/
theorem seniority_eq (hx : Unbeaten metaOf xs x) (hy : Unbeaten metaOf xs y) :
    (metaOf x).seniority = (metaOf y).seniority :=
  Meta.seniority_eq_of_not_wins (hy.not_wins x hx.mem) (hx.not_wins y hy.mem)

/-- Where no two members are equally senior, one at most is unbeaten. -/
theorem unique (hnodup : (xs.map fun x => (metaOf x).seniority).Nodup)
    (hx : Unbeaten metaOf xs x) (hy : Unbeaten metaOf xs y) : x = y :=
  List.inj_on_of_nodup_map hnodup hx.mem hy.mem (hx.seniority_eq hy)

end Unbeaten

/-! ## 3. Rankings -/

section Rankings

variable {α : Type} {metaOf : α → Meta} {xs : List α} {x : α}

/-- An object is put into a sorted ranking at a place where the ranking stays sorted. It stands
before the first that it is senior to, or at the end. -/
theorem pairwise_rankIn {ranking : List α}
    (h : ranking.Pairwise fun y z => (metaOf z).wins (metaOf y) = false) (x : α) :
    (rankIn metaOf x ranking).Pairwise fun y z => (metaOf z).wins (metaOf y) = false := by
  induction ranking with
  | nil => exact List.pairwise_singleton _ x
  | cons y ranking ih =>
    obtain ⟨hy, hrest⟩ := List.pairwise_cons.1 h
    rw [rankIn]
    by_cases hwins : (metaOf x).wins (metaOf y) = true
    · -- what does not beat the one behind does not beat the one in front
      rw [if_pos hwins]
      have hxy : (metaOf y).wins (metaOf x) = false := Meta.wins_asymm hwins
      refine List.pairwise_cons.2 ⟨fun z hz => ?_, h⟩
      rcases List.mem_cons.1 hz with rfl | hz
      · exact hxy
      · exact Meta.not_wins_trans (hy z hz) hxy
    · rw [if_neg hwins]
      refine List.pairwise_cons.2 ⟨fun z hz => ?_, ih hrest⟩
      rcases List.mem_cons.1 ((rankIn_perm x ranking).mem_iff.1 hz) with rfl | hz
      · rwa [Bool.not_eq_true] at hwins
      · exact hy z hz

/-- In a ranking nobody is senior to one before it. -/
theorem pairwise_bySeniority (metaOf : α → Meta) (xs : List α) :
    (bySeniority metaOf xs).Pairwise fun x y => (metaOf y).wins (metaOf x) = false := by
  induction xs using List.reverseRecOn with
  | nil => exact .nil
  | append_singleton xs x ih =>
    rw [bySeniority_append]
    exact pairwise_rankIn ih x

/-- The head of a ranking is unbeaten. -/
theorem unbeaten_of_head?_bySeniority (h : (bySeniority metaOf xs).head? = some x) :
    Unbeaten metaOf xs x := by
  obtain ⟨rest, hranking⟩ := List.head?_eq_some_iff.1 h
  have hsorted := pairwise_bySeniority metaOf xs
  rw [hranking] at hsorted
  have hhead : Unbeaten metaOf (bySeniority metaOf xs) x := by
    rw [hranking]
    refine ⟨List.mem_cons_self, fun y hy => ?_⟩
    rcases List.mem_cons.1 hy with rfl | hy
    · exact Meta.wins_irrefl _
    · exact (List.pairwise_cons.1 hsorted).1 y hy
  exact hhead.perm (bySeniority_perm xs)

end Rankings

/-! ## 4. Contests for one slot -/

/-- The claims to a slot, in order. -/
def claimsFor (slot : String) (claims : List Claim) : List Claim :=
  claims.filter fun c => c.slot == slot

section Claims

variable {claims others : List Claim} {slot : String} {c : Claim}

theorem mem_claimsFor_iff : c ∈ claimsFor slot claims ↔ c ∈ claims ∧ c.slot = slot := by
  rw [claimsFor, List.mem_filter, beq_iff_eq]

/-- The holder of a slot is unbeaten among those who claimed it. -/
theorem unbeaten_of_get?_settle (h : (settle claims).holders.get? slot = some c) :
    Unbeaten Claim.metadata (claimsFor slot claims) c := by
  refine ⟨mem_claimsFor_iff.2 (mem_of_get?_settle h), fun d hd => ?_⟩
  obtain ⟨hmem, hslot⟩ := mem_claimsFor_iff.1 hd
  exact not_wins_of_get?_settle h hmem hslot

/-- A slot that is claimed has a holder, who is unbeaten. -/
theorem exists_unbeaten_holder (h : claimsFor slot claims ≠ []) :
    ∃ holder, (settle claims).holders.get? slot = some holder ∧
      Unbeaten Claim.metadata (claimsFor slot claims) holder := by
  obtain ⟨c, hc⟩ := List.exists_mem_of_ne_nil _ h
  obtain ⟨hmem, rfl⟩ := mem_claimsFor_iff.1 hc
  obtain ⟨holder, hholder⟩ := exists_get?_settle hmem
  exact ⟨holder, hholder, unbeaten_of_get?_settle hholder⟩

/-- Where no two claims to a slot are equally senior, the holder is the same in every order. Both
holders are unbeaten, and only one claim is. -/
theorem get?_settle_perm
    (hnodup : ((claimsFor slot claims).map fun c => c.metadata.seniority).Nodup)
    (hperm : others.Perm claims) (h : (settle claims).holders.get? slot = some c) :
    (settle others).holders.get? slot = some c := by
  have hfor : (claimsFor slot others).Perm (claimsFor slot claims) := hperm.filter _
  have hc : Unbeaten Claim.metadata (claimsFor slot claims) c := unbeaten_of_get?_settle h
  have hsome : claimsFor slot others ≠ [] := List.ne_nil_of_mem (hfor.mem_iff.2 hc.mem)
  obtain ⟨other, hother, hunbeaten⟩ := exists_unbeaten_holder hsome
  rw [hother, Option.some.injEq]
  exact (hunbeaten.perm hfor).unique hnodup hc

/-- Where no two claims to a slot are equally senior, the holder leads their ranking. -/
theorem head?_bySeniority_claimsFor
    (hnodup : ((claimsFor slot claims).map fun c => c.metadata.seniority).Nodup)
    (h : (settle claims).holders.get? slot = some c) :
    (bySeniority Claim.metadata (claimsFor slot claims)).head? = some c := by
  have hc : Unbeaten Claim.metadata (claimsFor slot claims) c := unbeaten_of_get?_settle h
  cases hhead : (bySeniority Claim.metadata (claimsFor slot claims)).head? with
  | none =>
    -- the holder is one of the claims, so there are some
    have hnil := bySeniority_eq_nil_iff.1 (List.head?_eq_none_iff.1 hhead)
    rw [hnil] at hc
    exact absurd hc.mem List.not_mem_nil
  | some first =>
    rw [Option.some.injEq]
    exact (unbeaten_of_head?_bySeniority hhead).unique hnodup hc

end Claims

/-- Seniority is a strict weak order, and with that a slot that is claimed comes to one to whom no
claimant is senior. Where no two claimants are equally senior, it is the same one in every order of
the claims, and the one that comes first when the claims are sorted. -/
theorem holder_independent_of_order :
    IsSeniority Meta.wins ∧
      ∀ (claims : List Claim) (slot : String), claimsFor slot claims ≠ [] →
        ∃ holder, (settle claims).holders.get? slot = some holder ∧
          Unbeaten Claim.metadata (claimsFor slot claims) holder ∧
          (((claimsFor slot claims).map fun c => c.metadata.seniority).Nodup →
            (∀ others : List Claim, others.Perm claims →
              (settle others).holders.get? slot = some holder) ∧
            (bySeniority Claim.metadata (claimsFor slot claims)).head? = some holder) := by
  refine ⟨isSeniority_wins, fun claims slot hsome => ?_⟩
  obtain ⟨holder, hholder, hunbeaten⟩ := exists_unbeaten_holder hsome
  refine ⟨holder, hholder, hunbeaten, fun hnodup => ⟨fun others hperm => ?_, ?_⟩⟩
  · exact get?_settle_perm hnodup hperm hholder
  · exact head?_bySeniority_claimsFor hnodup hholder

/-- The claim of an object to the host of a cafe. -/
def cafeClaim (claimant : Nat) (created : Option Instant) (uid : String) : Claim :=
  ⟨"cafe.example.com", claimant, { Meta.blank with created := created, uid := some uid }⟩

/-- Of two objects without a creation time, the one with the greater identifier gets the host,
whether it comes first or last. -/
theorem undated_holder :
    (settle [cafeClaim 2 none "b", cafeClaim 0 (some ⟨5, 0⟩) "c",
        cafeClaim 1 none "a"]).holders.get? "cafe.example.com" = some (cafeClaim 2 none "b") ∧
      (bySeniority Claim.metadata [cafeClaim 0 (some ⟨5, 0⟩) "c", cafeClaim 1 none "a",
        cafeClaim 2 none "b"]).head? = some (cafeClaim 2 none "b") := by
  let claims := [cafeClaim 0 (some ⟨5, 0⟩) "c", cafeClaim 1 none "a", cafeClaim 2 none "b"]
  have hfor : claimsFor "cafe.example.com" claims = claims := by decide +kernel
  have hsome : claimsFor "cafe.example.com" claims ≠ [] := by decide +kernel
  have hnodup :
      ((claimsFor "cafe.example.com" claims).map fun c => c.metadata.seniority).Nodup := by
    decide +kernel
  have hperm : [cafeClaim 2 none "b", cafeClaim 0 (some ⟨5, 0⟩) "c", cafeClaim 1 none "a"].Perm
      claims := by decide +kernel
  have hlast : (settle claims).holders.get? "cafe.example.com" = some (cafeClaim 2 none "b") := by
    decide +kernel
  obtain ⟨holder, hholder, -, hsame⟩ :=
    holder_independent_of_order.2 claims "cafe.example.com" hsome
  -- Who holds the host is evaluated once, and the theorem gives it for the other orders.
  obtain rfl : cafeClaim 2 none "b" = holder := Option.some.inj (hlast.symm.trans hholder)
  obtain ⟨hothers, hhead⟩ := hsame hnodup
  rw [hfor] at hhead
  exact ⟨hothers _ hperm, hhead⟩

/-- Of two equally senior ones the later claim holds the slot, but the earlier one comes first in
the ranking. -/
example :
    (settle [cafeClaim 0 none "a", cafeClaim 1 none "a"]).holders.get? "cafe.example.com" =
        some (cafeClaim 1 none "a") ∧
      (bySeniority Claim.metadata [cafeClaim 0 none "a", cafeClaim 1 none "a"]).head? =
        some (cafeClaim 0 none "a") := by decide +kernel

end Gatehouse
