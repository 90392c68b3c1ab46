import Gatehouse.Proofs.Plan.Core

/-!
The paths of minions: which minion has a path, and what the others are told.

Minions contest the paths that they list, and a listing ends as the holding of the path or as one
loss of it (`count_lost_add_isHolder_contest`). A minion has a path when it did not lose it. So it
has the path exactly when it holds it and lists it once (`has_path_iff`): the second listing of a
minion is a claim against the minion itself, by which it loses the path that it goes on holding.
Whoever does not have a path that it lists has lost it and is told so (`get?_minionWarnings`).

Who holds a path can be said without the contest. It is the minion that no other one with the path
is senior to, and of several such the last one, since a newcomer displaces a holder that is not
senior to it (`entitled_iff_isHolder`).
-/

set_option autoImplicit false

namespace Gatehouse

/-! ## 1. What a minion has and what it is told -/

theorem pathTaken_injective : Function.Injective pathTaken := by
  intro p q heq
  simpa [pathTaken] using heq

section Minions

variable {minions : List Ingress} {n : Nat} {i : Ingress} {path : String}

theorem getElem?_decidedMinions (n : Nat) :
    (decidedMinions minions)[n]? = (minions[n]?).map (minionOf (pathContest minions) n) := by
  simp [decidedMinions, List.getElem?_map, List.getElem?_zipIdx, Option.map_map, Function.comp_def]

theorem exists_of_mem_decidedMinions {m : Minion} (hm : m ∈ decidedMinions minions) :
    ∃ n i, minions[n]? = some i ∧ m = minionOf (pathContest minions) n i := by
  obtain ⟨n, hn⟩ := List.mem_iff_getElem?.1 hm
  rw [getElem?_decidedMinions, Option.map_eq_some_iff] at hn
  obtain ⟨i, hi, rfl⟩ := hn
  exact ⟨n, i, hi, rfl⟩

theorem minionOf_mem_decidedMinions (hi : minions[n]? = some i) :
    minionOf (pathContest minions) n i ∈ decidedMinions minions :=
  List.mem_of_getElem? ((getElem?_decidedMinions n).trans (congrArg _ hi))

/-- A minion has a mark for each of its paths, which says that it did not lose the path. It is read
off the losses and not off the holders. -/
theorem get?_validPaths_iff {st : Standing} {mark : Bool} :
    (minionOf st n i).validPaths.get? path = some mark ↔
      path ∈ i.firstPaths ∧ (mark = true ↔ path ∉ st.lost n) := by
  rw [minionOf, Table.get?_ofList_map_iff]
  refine and_congr_right fun _ => ?_
  cases mark <;> simp

/-- The minion has the path exactly when it holds it and lists it once. A second listing is lost in
any case, whoever holds the path. -/
theorem has_path_iff (hi : minions[n]? = some i) :
    (minionOf (pathContest minions) n i).validPaths.get? path = some true ↔
      (pathContest minions).isHolder n path = true ∧ i.firstPaths.count path = 1 := by
  have hcount : ((pathContest minions).lost n).count path +
      ((pathContest minions).isHolder n path).toNat = i.firstPaths.count path :=
    count_lost_add_isHolder_contest hi path
  have hle := Bool.toNat_le ((pathContest minions).isHolder n path)
  rw [get?_validPaths_iff, eq_self_iff_true, true_iff, ← List.count_pos_iff, ← List.count_eq_zero,
    ← Bool.toNat_eq_one]
  omega

/-- A path that a minion lists and does not have is one that it has lost. It may be its holder
still. -/
theorem lacks_path_iff (hi : minions[n]? = some i) :
    (minionOf (pathContest minions) n i).validPaths.get? path = some false ↔
      path ∈ (pathContest minions).lost n := by
  have hcount : ((pathContest minions).lost n).count path +
      ((pathContest minions).isHolder n path).toNat = i.firstPaths.count path :=
    count_lost_add_isHolder_contest hi path
  rw [get?_validPaths_iff, ← List.count_pos_iff, ← List.count_pos_iff]
  simp only [Bool.false_eq_true, false_iff, not_not]
  omega

/-- When the keys of the minions differ, a minion is told under its key which paths it has lost. One
that lost none is not in the table at all. -/
theorem get?_minionWarnings (hkeys : (minions.map (·.metadata.key)).Nodup)
    (hi : minions[n]? = some i) (st : Standing) :
    (minionWarnings st minions).get? i.metadata.key =
      if st.lost n = [] then none else some ((st.lost n).map pathTaken) := by
  let entries : List (String × Option (List String)) := minions.zipIdx.map fun x =>
    (x.1.metadata.key, if st.lost x.2 = [] then none else some ((st.lost x.2).map pathTaken))
  -- A minion that lost nothing has no entry: the list of all minions, with those left out.
  have hwarnings : minionWarnings st minions =
      Table.ofList (entries.filterMap fun e => e.2.map fun texts => (e.1, texts)) := by
    rw [minionWarnings, List.filterMap_map]
    refine congrArg Table.ofList (List.filterMap_congr fun x _ => ?_)
    cases hlost : st.lost x.2 <;> simp [hlost]
  have hnodup : (entries.map Prod.fst).Nodup := by
    have hfst : entries.map Prod.fst = minions.map (·.metadata.key) := by
      rw [List.map_map, ← List.zipIdx_map_fst 0 minions, List.map_map, List.zipIdx_map_fst]
      rfl
    rw [hfst]
    exact hkeys
  rw [hwarnings]
  refine Table.get?_ofList_filterMap hnodup (List.mem_map.2 ⟨(i, n), ?_, rfl⟩)
  exact List.mk_mem_zipIdx_iff_getElem?.2 hi

/-- A minion is told that a path is taken exactly when it has lost the path. -/
theorem told_iff_lost (hkeys : (minions.map (·.metadata.key)).Nodup) (hi : minions[n]? = some i)
    (st : Standing) :
    (∃ texts, (minionWarnings st minions).get? i.metadata.key = some texts ∧
      pathTaken path ∈ texts) ↔ path ∈ st.lost n := by
  rw [get?_minionWarnings hkeys hi]
  split_ifs with hnone
  · simp [hnone]
  · simp [List.mem_map_of_injective pathTaken_injective]

/-! ## 2. Who holds a path -/

/-- The minion that a path belongs to. It lists the path, no other one that does is senior to it,
and it is senior to all of them that come after it in the order of the keys. -/
structure Entitled (minions : List Ingress) (path : String) (i : Ingress) : Prop where
  mem : i ∈ minions
  lists : path ∈ i.firstPaths
  unbeaten : ∀ j ∈ minions, path ∈ j.firstPaths → j.metadata.wins i.metadata = false
  last : ∀ j ∈ minions, path ∈ j.firstPaths → i.metadata.key < j.metadata.key →
    i.metadata.wins j.metadata = true

/-- A path belongs to one minion at most. Of two that are unbeaten, the one with the smaller key
would be senior to the other. -/
theorem Entitled.key_eq {j : Ingress} (hi : Entitled minions path i)
    (hj : Entitled minions path j) : i.metadata.key = j.metadata.key := by
  rcases lt_trichotomy i.metadata.key j.metadata.key with hlt | heq | hgt
  · have hbeats := hi.last j hj.mem hj.lists hlt
    rw [hj.unbeaten i hi.mem hi.lists] at hbeats
    cases hbeats
  · exact heq
  · have hbeats := hj.last i hi.mem hi.lists hgt
    rw [hi.unbeaten j hj.mem hj.lists] at hbeats
    cases hbeats

section Sorted

variable (hsorted : (minions.map (·.metadata.key)).Pairwise (· < ·))

include hsorted

/-- Who holds a path is unbeaten and senior to those that come later, and in the order of keys to
come later is to have a greater key. -/
theorem entitled_of_isHolder (hi : minions[n]? = some i)
    (hholds : (pathContest minions).isHolder n path = true) : Entitled minions path i where
  mem := List.mem_of_getElem? hi
  lists := by
    obtain ⟨x, hx, hwants⟩ := wants_of_isHolder hholds
    obtain rfl := Option.some.inj (hi.symm.trans hx)
    exact hwants
  unbeaten j hj hlists := by
    obtain ⟨k, hk⟩ := List.mem_iff_getElem?.1 hj
    exact not_wins_of_isHolder hi hholds hk hlists
  last j hj hlists hlt := by
    obtain ⟨k, hk⟩ := List.mem_iff_getElem?.1 hj
    refine wins_of_isHolder hi hholds hk hlists ?_
    -- the order of the keys is that of the numbers
    obtain ⟨hn, rfl⟩ := List.getElem?_eq_some_iff.1 hi
    obtain ⟨hk', rfl⟩ := List.getElem?_eq_some_iff.1 hk
    rw [List.pairwise_map, List.pairwise_iff_getElem] at hsorted
    by_contra hle
    rcases Nat.lt_or_eq_of_le (Nat.not_lt.1 hle) with hbefore | rfl
    · exact lt_asymm hlt (hsorted k n hk' hn hbefore)
    · exact lt_irrefl _ hlt

/-- A path is held by the minion that it belongs to. A path that is listed has a holder, so the
other direction follows from there being one at most. -/
theorem entitled_iff_isHolder (hi : minions[n]? = some i) :
    Entitled minions path i ↔ (pathContest minions).isHolder n path = true := by
  refine ⟨fun h => ?_, entitled_of_isHolder hsorted hi⟩
  obtain ⟨k, hholds⟩ : ∃ k, (pathContest minions).isHolder k path = true :=
    exists_isHolder hi h.lists
  obtain ⟨j, hj, -⟩ := wants_of_isHolder hholds
  -- the path belongs to the holder too, so the two have one key, and with that one number
  have hkey := h.key_eq (entitled_of_isHolder hsorted hj hholds)
  have hnodup : (minions.map (·.metadata.key)).Nodup := hsorted.imp fun hlt => ne_of_lt hlt
  have hplace : (minions.map (·.metadata.key))[n]? = (minions.map (·.metadata.key))[k]? := by
    rw [List.getElem?_map, List.getElem?_map, hi, hj, Option.map_some, Option.map_some, hkey]
  obtain ⟨hlt, -⟩ := List.getElem?_eq_some_iff.1 hi
  rwa [(List.getElem?_inj (by rwa [List.length_map]) hnodup).1 hplace]

/-- A path that is listed belongs to a minion. -/
theorem exists_entitled_iff :
    (∃ i, Entitled minions path i) ↔ ∃ i ∈ minions, path ∈ i.firstPaths := by
  constructor
  · rintro ⟨i, h⟩
    exact ⟨i, h.mem, h.lists⟩
  · rintro ⟨i, hi, hlists⟩
    obtain ⟨n, hn⟩ := List.mem_iff_getElem?.1 hi
    obtain ⟨k, hholds⟩ : ∃ k, (pathContest minions).isHolder k path = true :=
      exists_isHolder hn hlists
    obtain ⟨j, hj, -⟩ := wants_of_isHolder hholds
    exact ⟨j, entitled_of_isHolder hsorted hj hholds⟩

/-- Some minion has the path exactly when the one that it belongs to lists it once. The one that it
belongs to is found without the marks, which may be wrong. -/
theorem exists_has_path_iff :
    (∃ m ∈ decidedMinions minions, m.validPaths.get? path = some true) ↔
      ∃ i, Entitled minions path i ∧ i.firstPaths.count path = 1 := by
  constructor
  · rintro ⟨m, hm, hhas⟩
    obtain ⟨n, i, hi, rfl⟩ := exists_of_mem_decidedMinions hm
    obtain ⟨hholds, honce⟩ := (has_path_iff hi).1 hhas
    exact ⟨i, entitled_of_isHolder hsorted hi hholds, honce⟩
  · rintro ⟨i, hentitled, honce⟩
    obtain ⟨n, hi⟩ := List.mem_iff_getElem?.1 hentitled.mem
    have hholds := (entitled_iff_isHolder hsorted hi).1 hentitled
    exact ⟨_, minionOf_mem_decidedMinions hi, (has_path_iff hi).2 ⟨hholds, honce⟩⟩

end Sorted

end Minions

end Gatehouse
