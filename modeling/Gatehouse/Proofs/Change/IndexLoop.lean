import Gatehouse.Proofs.Change

/-!
Squashing with indices.

A list of changes is squashed by remembering, for every key, the index of its last change. Then the
keys are gone through in their order; the first time that a key comes up its index is forgotten and
the change taken out of the place that it says. Taking from a place is *checked* here: an index that
is not in the list leaves nothing.

Every index that is remembered is that of a change, in fact of the last one of its key
(`exists_of_get?_lastIndices`, `exists_get?_lastIndices`). So the loop always gives something, and
that is the squashed list (`squashByIndex_eq`). What carries the induction is that the loop has
taken the last changes of the keys that have come up, each once, and that the changes of the other
keys are still in their places (`Emptied`).
-/

set_option autoImplicit false

namespace Gatehouse.Change

variable {α : Type} {keyOf : α → String} {changes : List (Change α)}

/-! ## 1. The loop -/

/-- The index of the last change of every key. -/
def lastIndices (keyOf : α → String) (changes : List (Change α)) : Table Nat :=
  Table.ofList (mentioned keyOf changes).zipIdx

/-- The indices that are remembered, the places with the changes that are still there, and those
that have been taken out: removals and others. -/
structure Emptying (α : Type) where
  last : Table Nat
  places : List (Option (Change α))
  deletes : List (Change α)
  updates : List (Change α)

/-- All changes are there. -/
def Emptying.start (keyOf : α → String) (changes : List (Change α)) : Emptying α :=
  ⟨lastIndices keyOf changes, changes.map some, [], []⟩

/-- Takes out the change at the index of a key, unless the key has come up before. -/
def Emptying.take (s : Emptying α) (key : String) : Option (Emptying α) :=
  match s.last.get? key with
  | none => some s
  | some i => do
    let place ← s.places[i]?
    return {
      last := s.last.erase key
      places := s.places.set i none
      deletes := s.deletes ++ place.toList.filter isDelete
      updates := s.updates ++ place.toList.filter fun c => !c.isDelete }

/-- The squashed list, by indices. -/
def squashByIndex (keyOf : α → String) (changes : List (Change α)) : Option (List (Change α)) := do
  let s ← (mentioned keyOf changes).foldlM Emptying.take (.start keyOf changes)
  return s.deletes ++ s.updates

/-! ## 2. The indices -/

/-- One more change is at the index that is the number of those before it, and takes the place of an
earlier one of its key. -/
theorem lastIndices_concat (changes : List (Change α)) (c : Change α) :
    lastIndices keyOf (changes ++ [c]) =
      (lastIndices keyOf changes).insert (keyOf c.resource) changes.length := by
  simp [lastIndices, mentioned, List.zipIdx_append, Table.ofList]

/-- An index that is remembered is that of a change with the key. The induction is from the left,
since a later change takes the index over. -/
theorem exists_of_get?_lastIndices {key : String} {i : Nat}
    (h : (lastIndices keyOf changes).get? key = some i) :
    ∃ c, changes[i]? = some c ∧ keyOf c.resource = key := by
  have hplace := List.mk_mem_zipIdx_iff_getElem?.1 (Table.mem_of_get?_ofList h)
  rw [mentioned, List.getElem?_map] at hplace
  exact Option.map_eq_some_iff.1 hplace

/-- So it is in the list. -/
theorem lt_length_of_get?_lastIndices {key : String} {i : Nat}
    (h : (lastIndices keyOf changes).get? key = some i) : i < changes.length := by
  obtain ⟨c, hc, -⟩ := exists_of_get?_lastIndices h
  exact (List.getElem?_eq_some_iff.1 hc).1

/-- The last change of a key is at the index of the key. -/
theorem exists_get?_lastIndices {c : Change α} (h : IsLast keyOf changes c) :
    ∃ i, (lastIndices keyOf changes).get? (keyOf c.resource) = some i ∧ changes[i]? = some c := by
  induction changes using List.reverseRecOn with
  | nil => exact absurd h (not_isLast_nil c)
  | append_singleton changes d ih =>
    rcases isLast_append_iff.1 h with rfl | ⟨hlast, hne⟩
    · exact ⟨changes.length, by rw [lastIndices_concat, Table.get?_insert, if_pos rfl], by simp⟩
    · obtain ⟨i, hi, hc⟩ := ih hlast
      refine ⟨i, by rw [lastIndices_concat, Table.get?_insert, if_neg hne.symm, hi], ?_⟩
      rwa [List.getElem?_append_left (lt_length_of_get?_lastIndices hi)]

/-! ## 3. The squashed list -/

/-- The change at the index of a key. -/
def lastOf (keyOf : α → String) (changes : List (Change α)) (key : String) : Option (Change α) :=
  (lastIndices keyOf changes).get? key |>.bind (changes[·]?)

/-- The change at the index of a key is the last one of the key. -/
theorem lastOf_eq_of_isLast {c : Change α} (h : IsLast keyOf changes c) :
    lastOf keyOf changes (keyOf c.resource) = some c := by
  obtain ⟨i, hi, hc⟩ := exists_get?_lastIndices h
  rw [lastOf, hi, Option.bind_some, hc]

/-- The keys that have come up, each once. -/
def firstMentions (keyOf : α → String) (changes : List (Change α)) : List String :=
  mentioned keyOf (lastPerKey keyOf changes)

/-- All keys that are mentioned come up. -/
theorem mem_firstMentions_iff {key : String} :
    key ∈ firstMentions keyOf changes ↔ key ∈ mentioned keyOf changes := by
  simp only [firstMentions, mem_mentioned_iff, mem_lastPerKey_iff]
  constructor
  · rintro ⟨c, hc, rfl⟩
    exact ⟨c, hc.mem, rfl⟩
  · rintro ⟨c, hc, rfl⟩
    exact exists_isLast keyOf hc

theorem firstMentions_concat (c : Change α) :
    firstMentions keyOf (changes ++ [c]) =
      if keyOf c.resource ∈ mentioned keyOf changes then firstMentions keyOf changes
      else firstMentions keyOf changes ++ [keyOf c.resource] := by
  rw [← if_congr mem_firstMentions_iff rfl rfl, firstMentions, lastPerKey_append]
  exact keys_keepLast _ c

/-- The last changes of all keys, in the order in which the keys come up, are what the loop has to
take out. -/
theorem filterMap_lastOf : (firstMentions keyOf changes).filterMap (lastOf keyOf changes) =
    lastPerKey keyOf changes := by
  rw [firstMentions, mentioned, List.filterMap_map]
  have hsome : ∀ c ∈ lastPerKey keyOf changes,
      (lastOf keyOf changes ∘ fun c : Change α => keyOf c.resource) c = some c :=
    fun c hc => lastOf_eq_of_isLast (mem_lastPerKey_iff.1 hc)
  rw [List.filterMap_congr hsome, List.filterMap_some]

/-- After some changes have come up, the loop has taken the last changes of their keys, and those of
the other keys are still there. Places whose index has been forgotten are not spoken of. -/
structure Emptied (keyOf : α → String) (changes earlier : List (Change α)) (s : Emptying α) :
    Prop where
  last : ∀ key, s.last.get? key =
    if key ∈ mentioned keyOf earlier then none else (lastIndices keyOf changes).get? key
  places : ∀ key i, s.last.get? key = some i → s.places[i]? = changes[i]?.map some
  deletes : s.deletes =
    ((firstMentions keyOf earlier).filterMap (lastOf keyOf changes)).filter isDelete
  updates : s.updates =
    ((firstMentions keyOf earlier).filterMap (lastOf keyOf changes)).filter fun c => !c.isDelete

namespace Emptied

variable {earlier : List (Change α)} {s : Emptying α}

/-- Nothing has come up, and everything is in its place. -/
theorem start : Emptied keyOf changes [] (.start keyOf changes) where
  last key := rfl
  places key i _ := by rw [Emptying.start, List.getElem?_map]
  deletes := rfl
  updates := rfl

/-- A key that has come up before has no index any more, so the loop passes it by. -/
theorem again {c : Change α} (h : Emptied keyOf changes earlier s)
    (hin : keyOf c.resource ∈ mentioned keyOf earlier) :
    Emptied keyOf changes (earlier ++ [c]) s where
  last key := by
    have hmem : key ∈ mentioned keyOf (earlier ++ [c]) ↔ key ∈ mentioned keyOf earlier := by
      rw [mentioned_append, List.mem_append]
      refine or_iff_left_of_imp fun hkey => ?_
      rwa [List.mem_singleton.1 hkey]
    rw [h.last, if_congr hmem rfl rfl]
  places := h.places
  deletes := by rw [firstMentions_concat, if_pos hin, h.deletes]
  updates := by rw [firstMentions_concat, if_pos hin, h.updates]

/-- The last change of a key that comes up for the first time is still there. Only the place of its
own index is emptied, and no other key has that index. -/
theorem exists_take_of_notMem {c : Change α} (h : Emptied keyOf changes earlier s)
    (hc : c ∈ changes) (hnot : keyOf c.resource ∉ mentioned keyOf earlier) :
    ∃ t, s.take (keyOf c.resource) = some t ∧ Emptied keyOf changes (earlier ++ [c]) t := by
  obtain ⟨d, hlast, hkey⟩ := exists_isLast keyOf hc
  obtain ⟨i, hi, hd⟩ := exists_get?_lastIndices hlast
  have hget : s.last.get? (keyOf c.resource) = some i := by rw [h.last, if_neg hnot, ← hkey, hi]
  have hplace : s.places[i]? = some (some d) := by rw [h.places _ i hget, hd, Option.map_some]
  have htaken : (firstMentions keyOf (earlier ++ [c])).filterMap (lastOf keyOf changes) =
      (firstMentions keyOf earlier).filterMap (lastOf keyOf changes) ++ [d] := by
    rw [firstMentions_concat, if_neg hnot, List.filterMap_append, ← hkey,
      List.filterMap_cons_some (lastOf_eq_of_isLast hlast), List.filterMap_nil]
  refine ⟨_, by rw [Emptying.take, hget]; simp only [hplace]; rfl, ?_, ?_, ?_, ?_⟩
  · intro key
    rw [Table.get?_erase, h.last, mentioned_append]
    by_cases hsame : keyOf c.resource = key
    · simp [hsame, mentioned]
    · simp [hsame, Ne.symm hsame, mentioned]
  · intro key j hj
    rw [Table.get?_erase] at hj
    split_ifs at hj with hsame
    -- another key has another index
    have hne : i ≠ j := by
      rintro rfl
      have hindex := h.last key ▸ hj
      split_ifs at hindex
      obtain ⟨e, he, hekey⟩ := exists_of_get?_lastIndices hindex
      obtain rfl := Option.some.inj (hd.symm.trans he)
      exact hsame (hkey.symm.trans hekey)
    rw [List.getElem?_set_ne hne, h.places key j hj]
  · rw [htaken, List.filter_append, ← h.deletes]
    rfl
  · rw [htaken, List.filter_append, ← h.updates]
    rfl

/-- One more change gives its key a turn. -/
theorem exists_take {c : Change α} (h : Emptied keyOf changes earlier s) (hc : c ∈ changes) :
    ∃ t, s.take (keyOf c.resource) = some t ∧ Emptied keyOf changes (earlier ++ [c]) t := by
  by_cases hin : keyOf c.resource ∈ mentioned keyOf earlier
  · refine ⟨s, ?_, h.again hin⟩
    rw [Emptying.take, h.last, if_pos hin]
  · exact h.exists_take_of_notMem hc hin

end Emptied

/-- Squashing by indices gives something, and that is the squashed list. Nothing is assumed of the
list or of its keys. -/
theorem squashByIndex_eq (keyOf : α → String) (changes : List (Change α)) :
    squashByIndex keyOf changes = some (squash keyOf changes) := by
  -- the invariant is carried along the first ones of the changes
  have hloop : ∀ earlier, earlier <+: changes →
      ∃ s, (mentioned keyOf earlier).foldlM Emptying.take (.start keyOf changes) = some s ∧
        Emptied keyOf changes earlier s := by
    intro earlier
    induction earlier using List.reverseRecOn with
    | nil => exact fun _ => ⟨_, rfl, .start⟩
    | append_singleton earlier c ih =>
      intro hfirst
      obtain ⟨s, hs, hemptied⟩ := ih ((List.prefix_append earlier [c]).trans hfirst)
      obtain ⟨t, ht, hemptied'⟩ := hemptied.exists_take (c := c) (hfirst.subset (by simp))
      refine ⟨t, ?_, hemptied'⟩
      rw [mentioned_append, List.foldlM_append, hs]
      simpa [mentioned] using ht
  obtain ⟨s, hs, hemptied⟩ := hloop changes (List.prefix_refl _)
  rw [squashByIndex, hs, squash, ← filterMap_lastOf, ← hemptied.deletes, ← hemptied.updates]
  rfl

end Gatehouse.Change
