import Gatehouse.Change
import Gatehouse.Proofs.Table
import Mathlib.Data.List.Nodup

/-!
What squashing keeps, and what following a list of changes comes to.

Both are about the *last* change of a key. `mem_squash_iff` says that squashing keeps the last
change of every key and nothing else, and `get?_follow_of_isLast` that following a list leaves under
a key what its last change says. So a squashed list and the list it was made from lead to the same
copy. The lists of changes that come up here are in addition `Settling`: for each key the removals
come before the others. Then a key is put by the squashed list exactly when it is put at all.

The order of a squashed list is that of the *first* changes: of two keys that it puts, the one comes
before the other exactly when it was mentioned first (`before_squash_iff`).
-/

set_option autoImplicit false

universe u

namespace Gatehouse.Change

variable {α : Type u} {keyOf : α → String}

/-! ## 1. The last change of a key -/

/-- A change after which no other change of the list has its key. It is defined by a split of the
list and not by an index, so that it can be followed through an append. -/
def IsLast (keyOf : α → String) (changes : List (Change α)) (c : Change α) : Prop :=
  ∃ earlier later, changes = earlier ++ c :: later ∧
    ∀ d ∈ later, keyOf d.resource ≠ keyOf c.resource

theorem IsLast.mem {changes : List (Change α)} {c : Change α} (h : IsLast keyOf changes c) :
    c ∈ changes := by
  obtain ⟨earlier, later, rfl, -⟩ := h
  simp

theorem not_isLast_nil (c : Change α) : ¬IsLast keyOf [] c := fun h => by simpa using h.mem

/-- One more change is the last one of its key, and takes nothing but that from the changes before
it. This is the step of all inductions below, which go through a list from the left. -/
theorem isLast_append_iff {changes : List (Change α)} {c d : Change α} :
    IsLast keyOf (changes ++ [d]) c ↔
      c = d ∨ IsLast keyOf changes c ∧ keyOf c.resource ≠ keyOf d.resource := by
  constructor
  · rintro ⟨earlier, later, heq, hlater⟩
    -- either nothing comes after the change, or what comes after it ends with the new one
    rcases List.eq_nil_or_concat later with rfl | ⟨rest, e, rfl⟩
    · left
      have := List.append_inj_right' heq (by simp)
      simpa using this.symm
    · right
      have heq' : changes ++ [d] = (earlier ++ c :: rest) ++ [e] := by simpa using heq
      obtain ⟨rfl, hde⟩ := List.append_inj' heq' (by simp)
      obtain rfl : d = e := by simpa using hde
      refine ⟨⟨earlier, rest, rfl, fun f hf => hlater f (by simp [hf])⟩, ?_⟩
      exact fun h => hlater d (by simp) h.symm
  · rintro (rfl | ⟨⟨earlier, later, rfl, hlater⟩, hne⟩)
    · exact ⟨changes, [], rfl, by simp⟩
    · refine ⟨earlier, later ++ [d], by simp, fun f hf => ?_⟩
      rcases List.mem_append.1 hf with hf | hf
      · exact hlater f hf
      · rw [List.mem_singleton.1 hf]
        exact hne.symm

/-- A key that is mentioned has a last change. Which of the changes it is is not said; when two have
the key, it is the later one. -/
theorem exists_isLast (keyOf : α → String) {changes : List (Change α)} {c : Change α}
    (h : c ∈ changes) :
    ∃ d, IsLast keyOf changes d ∧ keyOf d.resource = keyOf c.resource := by
  induction changes using List.reverseRecOn with
  | nil => simp at h
  | append_singleton changes e ih =>
    by_cases hk : keyOf c.resource = keyOf e.resource
    · exact ⟨e, isLast_append_iff.2 (.inl rfl), hk.symm⟩
    · have hc : c ∈ changes := by
        rcases List.mem_append.1 h with hin | hin
        · exact hin
        · rw [List.mem_singleton.1 hin] at hk
          exact absurd rfl hk
      obtain ⟨d, hd, hkey⟩ := ih hc
      exact ⟨d, isLast_append_iff.2 (.inr ⟨hd, hkey ▸ hk⟩), hkey⟩

theorem isLast_of_nodup {changes : List (Change α)} {c : Change α}
    (hnodup : (changes.map fun c => keyOf c.resource).Nodup) (h : c ∈ changes) :
    IsLast keyOf changes c := by
  obtain ⟨d, hd, hkey⟩ := exists_isLast keyOf h
  have hdc : d = c := List.inj_on_of_nodup_map hnodup hd.mem h hkey
  exact hdc ▸ hd

/-! ## 2. Squashing -/

/-- A change that comes takes the place of the change with its key, if there is one, and is put at
the end if not. Either way it is there afterwards and the other one is not. -/
theorem mem_keepLast_iff {kept : List (Change α)} {c d : Change α} :
    d ∈ keepLast keyOf kept c ↔ d = c ∨ d ∈ kept ∧ keyOf d.resource ≠ keyOf c.resource := by
  unfold keepLast
  split
  · rename_i hany
    obtain ⟨k, hk, hkey⟩ := List.any_eq_true.1 hany
    constructor
    · intro hd
      obtain ⟨e, he, rfl⟩ := List.mem_map.1 hd
      by_cases heq : keyOf e.resource = keyOf c.resource
      · simp [heq]
      · right
        simpa [heq] using he
    · rintro (rfl | ⟨hd, hne⟩)
      · exact List.mem_map.2 ⟨k, hk, if_pos hkey⟩
      · exact List.mem_map.2 ⟨d, hd, by simp [hne]⟩
  · rename_i hany
    -- no change of the key is there, so none has to go
    rw [List.mem_append, List.mem_singleton, or_comm]
    refine or_congr_right ⟨fun hd => ⟨hd, fun heq => hany ?_⟩, fun hd => hd.1⟩
    exact List.any_eq_true.2 ⟨d, hd, by simpa using heq⟩

/-- Before the removals are put first, what is kept is already the last change of every key. -/
theorem mem_lastPerKey_iff {changes : List (Change α)} {c : Change α} :
    c ∈ lastPerKey keyOf changes ↔ IsLast keyOf changes c := by
  induction changes using List.reverseRecOn with
  | nil => simp [not_isLast_nil]
  | append_singleton changes d ih =>
    rw [lastPerKey_append, mem_keepLast_iff, isLast_append_iff, ih]

/-- A key that was there keeps its place, and a new one goes to the end. So the keys stay in the
order of their first mentions while the changes under them are exchanged. -/
theorem keys_keepLast (kept : List (Change α)) (c : Change α) :
    (keepLast keyOf kept c).map (fun d => keyOf d.resource) =
      if keyOf c.resource ∈ kept.map (fun d => keyOf d.resource)
      then kept.map fun d => keyOf d.resource
      else kept.map (fun d => keyOf d.resource) ++ [keyOf c.resource] := by
  have hany : (kept.any fun k => keyOf k.resource == keyOf c.resource) = true ↔
      keyOf c.resource ∈ kept.map fun d => keyOf d.resource := by
    simp [List.any_eq_true]
  unfold keepLast
  by_cases h : keyOf c.resource ∈ kept.map fun d => keyOf d.resource
  · rw [if_pos (hany.2 h), if_pos h, List.map_map]
    refine List.map_congr_left fun d _ => ?_
    by_cases heq : keyOf d.resource = keyOf c.resource <;> simp [heq]
  · rw [if_neg (fun h' => h (hany.1 h')), if_neg h]
    simp

/-- No key is kept twice. What is dropped when a change is kept is every earlier one with its
key. -/
theorem nodup_keys_lastPerKey (changes : List (Change α)) :
    ((lastPerKey keyOf changes).map fun c => keyOf c.resource).Nodup := by
  induction changes using List.reverseRecOn with
  | nil => simp
  | append_singleton changes d ih =>
    rw [lastPerKey_append, keys_keepLast]
    split
    · exact ih
    · rename_i hnot
      refine List.nodup_append.2 ⟨ih, by simp, fun a ha b hb hab => hnot ?_⟩
      rw [List.mem_singleton.1 hb] at hab
      exact hab ▸ ha

/-- Squashing keeps the last change of every key, and nothing else: splitting the kept changes into
removals and others loses none of them. -/
theorem mem_squash_iff {changes : List (Change α)} {c : Change α} :
    c ∈ squash keyOf changes ↔ IsLast keyOf changes c := by
  rw [← mem_lastPerKey_iff, squash, List.mem_append, List.mem_filter, List.mem_filter]
  cases c.isDelete <;> simp

/-- So a squashed list has each of its keys once. -/
theorem nodup_keys_squash (changes : List (Change α)) :
    ((squash keyOf changes).map fun c => keyOf c.resource).Nodup :=
  ((List.filter_append_perm isDelete (lastPerKey keyOf changes)).map _).nodup_iff.2
    (nodup_keys_lastPerKey changes)

/-- No removal comes after something else. It is said of every two changes, whatever their keys, so
a consumer may take the removals off the front and apply what is left. -/
def DeletesFirst (changes : List (Change α)) : Prop :=
  changes.Pairwise fun c d => d.isDelete → c.isDelete

/-- A list of removals with a list of others after it is such a list. -/
theorem deletesFirst_append {removals puts : List (Change α)}
    (hremovals : ∀ c ∈ removals, c.isDelete = true) (hputs : ∀ c ∈ puts, c.isDelete = false) :
    DeletesFirst (removals ++ puts) := by
  refine List.pairwise_append.2 ⟨?_, ?_, ?_⟩
  · exact List.pairwise_of_forall_mem_list fun c hc _ _ _ => hremovals c hc
  · refine List.pairwise_of_forall_mem_list fun c _ d hd hdel => ?_
    exact absurd hdel (by simp [hputs d hd])
  · intro c hc d _ _
    exact hremovals c hc

/-- A squashed list is made in this way. -/
theorem deletesFirst_squash (changes : List (Change α)) : DeletesFirst (squash keyOf changes) :=
  deletesFirst_append (fun _ hc => (List.mem_filter.1 hc).2)
    fun _ hc => by simpa using (List.mem_filter.1 hc).2

/-! ## 3. Lists that need no squashing -/

/-- Where no key is repeated every change goes to the end of what is kept. -/
theorem lastPerKey_of_nodup {changes : List (Change α)}
    (h : (changes.map fun c => keyOf c.resource).Nodup) :
    lastPerKey keyOf changes = changes := by
  induction changes using List.reverseRecOn with
  | nil => rfl
  | append_singleton changes d ih =>
    rw [List.map_append, List.nodup_append] at h
    rw [lastPerKey_append, ih h.1, keepLast, if_neg]
    intro hany
    obtain ⟨c, hc, hkey⟩ := List.any_eq_true.1 hany
    exact h.2.2 _ (List.mem_map_of_mem hc) (keyOf d.resource) (by simp) (by simpa using hkey)

/-- A list with its removals in front is the same when they are put in front. With the keys each
once, nothing is left for squashing to do. -/
theorem filter_isDelete_append_of_deletesFirst {changes : List (Change α)}
    (h : DeletesFirst changes) :
    changes.filter isDelete ++ changes.filter (fun c => !c.isDelete) = changes := by
  induction changes with
  | nil => rfl
  | cons c cs ih =>
    obtain ⟨hc, hcs⟩ := List.pairwise_cons.1 h
    by_cases hdel : c.isDelete
    · simpa [hdel] using ih hcs
    · -- nothing after a change that is not a removal is one
      have hnone : ∀ d ∈ cs, d.isDelete = false := fun d hd => by
        simpa using fun hd' => hdel (hc d hd hd')
      have hkeep : (cs.filter fun d => !d.isDelete) = cs :=
        List.filter_eq_self.2 fun d hd => by simp [hnone d hd]
      have hdrop : cs.filter isDelete = [] :=
        List.filter_eq_nil_iff.2 fun d hd => by simp [hnone d hd]
      simp [hdel, hkeep, hdrop]

/-- A list that mentions no key twice and has its removals first is squashed already. In particular
a squashed list is, so squashing twice is squashing once. -/
theorem squash_of_nodup {changes : List (Change α)}
    (hnodup : (changes.map fun c => keyOf c.resource).Nodup) (hfirst : DeletesFirst changes) :
    squash keyOf changes = changes := by
  rw [squash, lastPerKey_of_nodup hnodup, filter_isDelete_append_of_deletesFirst hfirst]

/-! ## 4. What a squashed list says about a key -/

/-- For each key, the removals come before the others. The lists that are squashed here are such
lists, because what releases a resource is listed before what puts it somewhere else. -/
def Settling (keyOf : α → String) (changes : List (Change α)) : Prop :=
  changes.Pairwise fun c d => keyOf c.resource = keyOf d.resource → d.isDelete → c.isDelete

/-- It is so when all removals come first, whatever the keys. -/
theorem DeletesFirst.settling {changes : List (Change α)} (h : DeletesFirst changes) :
    Settling keyOf changes := by
  refine List.Pairwise.imp ?_ h
  intro c d hcd _
  exact hcd

/-- A key that is put at all is put by the last change, since no removal of it can come later. -/
theorem exists_put_mem_squash {changes : List (Change α)} (h : Settling keyOf changes)
    {c : Change α} (hc : c ∈ changes) (hput : c.isDelete = false) :
    ∃ d ∈ squash keyOf changes, keyOf d.resource = keyOf c.resource ∧ d.isDelete = false := by
  obtain ⟨d, hlast, hkey⟩ := exists_isLast keyOf hc
  refine ⟨d, mem_squash_iff.2 hlast, hkey, ?_⟩
  obtain ⟨earlier, later, rfl, hlater⟩ := hlast
  -- a removal after the put would be a removal after a put of the same key
  rcases List.mem_append.1 hc with hin | hin
  · have hrel := (List.pairwise_append.1 h).2.2 c hin d (by simp) hkey.symm
    by_contra hdel
    exact absurd (hrel (by simpa using hdel)) (by simp [hput])
  · rcases List.mem_cons.1 hin with rfl | hin
    · exact hput
    · exact absurd hkey.symm (hlater c hin)

/-- A key that is removed and never put is removed by the last change. Here the order of the changes
does not matter. -/
theorem exists_delete_mem_squash {changes : List (Change α)} {c : Change α} (hc : c ∈ changes)
    (hnone : ∀ d ∈ changes, keyOf d.resource = keyOf c.resource → d.isDelete = true) :
    ∃ d ∈ squash keyOf changes, keyOf d.resource = keyOf c.resource ∧ d.isDelete = true := by
  obtain ⟨d, hlast, hkey⟩ := exists_isLast keyOf hc
  exact ⟨d, mem_squash_iff.2 hlast, hkey, hnone d hlast.mem hkey⟩

/-- A key that the squashed list removes is never put. So a removal in an answer is never one that
something in the same answer takes back. -/
theorem isDelete_of_mem_squash {changes : List (Change α)} (h : Settling keyOf changes)
    {c d : Change α} (hc : c ∈ squash keyOf changes) (hdel : c.isDelete = true)
    (hd : d ∈ changes) (hkey : keyOf d.resource = keyOf c.resource) : d.isDelete = true := by
  by_contra hput
  obtain ⟨e, he, hekey, heput⟩ := exists_put_mem_squash h hd (by simpa using hput)
  have hec : e = c := List.inj_on_of_nodup_map (nodup_keys_squash changes) he hc (hekey.trans hkey)
  rw [hec, hdel] at heput
  exact absurd heput (by simp)

/-! ## 5. Changes up to their errors -/

/-- A change without its error. Errors are put on changes after these have been found, so the two
are compared without them. -/
def bare (c : Change α) : Op × α := (c.op, c.resource)

/-- In a list that is the same up to errors, every change has its counterpart with the same resource
and the same direction. -/
theorem exists_of_map_bare_eq {changes others : List (Change α)}
    (h : changes.map bare = others.map bare) {c : Change α} (hc : c ∈ changes) :
    ∃ d ∈ others, d.resource = c.resource ∧ d.isDelete = c.isDelete := by
  have hmem : bare c ∈ others.map bare := h ▸ List.mem_map_of_mem hc
  obtain ⟨d, hd, hbare⟩ := List.mem_map.1 hmem
  obtain ⟨hop, hresource⟩ := Prod.mk.inj hbare
  exact ⟨d, hd, hresource, by rw [isDelete, isDelete, hop]⟩

/-! ## 6. Following a list of changes -/

/-- The copy of a consumer after one more change: a removal takes the key out, anything else puts
the resource under it. -/
def followOne (keyOf : α → String) (copy : Table α) (c : Change α) : Table α :=
  if c.isDelete then copy.erase (keyOf c.resource) else copy.insert (keyOf c.resource) c.resource

/-- The copy of a consumer after a list of changes. It is followed from the left, one after another,
with no regard to errors. -/
def follow (keyOf : α → String) (copy : Table α) (changes : List (Change α)) : Table α :=
  changes.foldl (followOne keyOf) copy

/-- Lists of changes are followed one after another, so a run can be followed event by event. -/
theorem follow_append (copy : Table α) (changes later : List (Change α)) :
    follow keyOf copy (changes ++ later) = follow keyOf (follow keyOf copy changes) later := by
  simp [follow]

theorem follow_concat (copy : Table α) (changes : List (Change α)) (c : Change α) :
    follow keyOf copy (changes ++ [c]) = followOne keyOf (follow keyOf copy changes) c := by
  simp [follow]

/-- One change decides about its own key and leaves the others. -/
theorem get?_followOne (copy : Table α) (c : Change α) (key : String) :
    (followOne keyOf copy c).get? key =
      if keyOf c.resource = key then (if c.isDelete then none else some c.resource)
      else copy.get? key := by
  unfold followOne
  by_cases hdel : c.isDelete
  · rw [if_pos hdel, if_pos hdel, Table.get?_erase]
  · rw [if_neg hdel, if_neg hdel, Table.get?_insert]

/-- Under a key there is what its last change says, whatever was there before and whatever came
before that change. -/
theorem get?_follow_of_isLast {copy : Table α} {changes : List (Change α)} {c : Change α}
    (h : IsLast keyOf changes c) :
    (follow keyOf copy changes).get? (keyOf c.resource) =
      if c.isDelete then none else some c.resource := by
  induction changes using List.reverseRecOn with
  | nil => exact absurd h (not_isLast_nil c)
  | append_singleton changes d ih =>
    rw [follow_concat, get?_followOne]
    -- the change that was added decides, unless it is about another key
    rcases isLast_append_iff.1 h with rfl | ⟨hlast, hne⟩
    · rw [if_pos rfl]
    · rw [if_neg (Ne.symm hne), ih hlast]

/-- A key that no change mentions keeps what is under it. With the lemma before this one it is said
of every key what following a list leaves under it. -/
theorem get?_follow_of_forall_ne {copy : Table α} {changes : List (Change α)} {key : String}
    (h : ∀ c ∈ changes, keyOf c.resource ≠ key) :
    (follow keyOf copy changes).get? key = copy.get? key := by
  induction changes using List.reverseRecOn with
  | nil => rfl
  | append_singleton changes d ih =>
    rw [follow_concat, get?_followOne, if_neg (h d (by simp)),
      ih fun c hc => h c (List.mem_append_left _ hc)]

/-! ## 7. Who is mentioned first -/

/-- The keys that a list of changes mentions, in their order and as often as they are mentioned. -/
def mentioned (keyOf : α → String) (changes : List (Change α)) : List String :=
  changes.map fun c => keyOf c.resource

/-- The first mention of the one key comes before any mention of the other. A key that is not
mentioned counts as coming after all others. -/
def Before (keyOf : α → String) (changes : List (Change α)) (a b : String) : Prop :=
  (mentioned keyOf changes).idxOf a < (mentioned keyOf changes).idxOf b

section Order

variable {changes earlier later : List (Change α)} {a b : String}

@[simp] theorem mentioned_append (earlier later : List (Change α)) :
    mentioned keyOf (earlier ++ later) = mentioned keyOf earlier ++ mentioned keyOf later := by
  simp [mentioned]

theorem mem_mentioned_iff : a ∈ mentioned keyOf changes ↔ ∃ c ∈ changes, keyOf c.resource = a := by
  simp [mentioned]

/-- Errors do not matter for the keys. -/
theorem mentioned_congr {others : List (Change α)} (h : changes.map bare = others.map bare) :
    mentioned keyOf changes = mentioned keyOf others := by
  have hkeys := congrArg (List.map fun b : Op × α => keyOf b.2) h
  simpa [List.map_map, Function.comp_def, bare, mentioned] using hkeys

theorem before_of_notMem (ha : a ∈ mentioned keyOf changes) (hb : b ∉ mentioned keyOf changes) :
    Before keyOf changes a b := by
  rw [Before, List.idxOf_of_notMem hb]
  exact List.idxOf_lt_length_of_mem ha

/-- What comes after the first mention of a key does not matter. -/
theorem before_append_iff_left (ha : a ∈ mentioned keyOf earlier) :
    Before keyOf (earlier ++ later) a b ↔ Before keyOf earlier a b := by
  have hlt := List.idxOf_lt_length_of_mem ha
  rw [Before, Before, mentioned_append, List.idxOf_append_of_mem ha]
  by_cases hb : b ∈ mentioned keyOf earlier
  · rw [List.idxOf_append_of_mem hb]
  · rw [List.idxOf_append_of_notMem hb, List.idxOf_of_notMem hb]
    omega

/-- What comes before the first mentions of two keys does not matter. -/
theorem before_append_iff_right (ha : a ∉ mentioned keyOf earlier)
    (hb : b ∉ mentioned keyOf earlier) :
    Before keyOf (earlier ++ later) a b ↔ Before keyOf later a b := by
  rw [Before, Before, mentioned_append, List.idxOf_append_of_notMem ha,
    List.idxOf_append_of_notMem hb]
  omega

/-- A key of the first part comes before one that only the second part can have. -/
theorem not_before_append (ha : a ∉ mentioned keyOf earlier) (hb : b ∈ mentioned keyOf earlier) :
    ¬Before keyOf (earlier ++ later) a b := by
  have hlt := List.idxOf_lt_length_of_mem hb
  rw [Before, mentioned_append, List.idxOf_append_of_notMem ha, List.idxOf_append_of_mem hb]
  omega

theorem Before.mem (h : Before keyOf changes a b) : a ∈ mentioned keyOf changes := by
  have hle : (mentioned keyOf changes).idxOf b ≤ (mentioned keyOf changes).length :=
    List.idxOf_le_length
  exact List.idxOf_lt_length_iff.1 (Nat.lt_of_lt_of_le h hle)

/-- The one key is mentioned first exactly when every prefix that mentions the other one mentions
it. Said with prefixes, the order can be read by someone who follows the changes one by one. -/
theorem before_iff_forall_take (hb : b ∈ mentioned keyOf changes) (hne : a ≠ b) :
    Before keyOf changes a b ↔
      ∀ n, b ∈ mentioned keyOf (changes.take n) → a ∈ mentioned keyOf (changes.take n) := by
  -- a prefix mentions a key when it reaches beyond its first mention
  have hmem : ∀ {key n}, key ∈ mentioned keyOf changes →
      (key ∈ mentioned keyOf (changes.take n) ↔ (mentioned keyOf changes).idxOf key < n) := by
    intro key n hkey
    rw [mentioned, List.map_take]
    exact List.mem_take_iff_idxOf_lt hkey
  constructor
  · intro hbefore n hin
    rw [hmem hb] at hin
    exact (hmem hbefore.mem).2 (Nat.lt_trans hbefore hin)
  · intro h
    have hin := h ((mentioned keyOf changes).idxOf b + 1) ((hmem hb).2 (Nat.lt_succ_self _))
    have ha : a ∈ mentioned keyOf changes := by
      obtain ⟨c, hc, hkey⟩ := mem_mentioned_iff.1 hin
      exact mem_mentioned_iff.2 ⟨c, List.mem_of_mem_take hc, hkey⟩
    have hle := (hmem ha).1 hin
    have hdiffer : (mentioned keyOf changes).idxOf a ≠ (mentioned keyOf changes).idxOf b :=
      fun heq => hne ((List.idxOf_inj ha).1 heq)
    unfold Before
    omega

/-- The first change decides, unless neither of the two keys is its own. -/
theorem before_cons_iff {c : Change α} :
    Before keyOf (c :: changes) a b ↔
      keyOf c.resource ≠ b ∧ (keyOf c.resource = a ∨ Before keyOf changes a b) := by
  simp only [Before, mentioned, List.map_cons]
  by_cases hb : keyOf c.resource = b
  · rw [List.idxOf_cons_eq _ hb]
    simp [hb]
  · rw [List.idxOf_cons_ne _ hb]
    by_cases ha : keyOf c.resource = a
    · rw [List.idxOf_cons_eq _ ha]
      simp [ha, ha ▸ hb]
    · rw [List.idxOf_cons_ne _ ha]
      simp [ha, hb]

/-- Leaving out changes of other keys leaves the order of two keys as it is. The test has to keep
all changes of the two, since leaving out a first mention would move a key back. -/
theorem before_filter_iff {p : Change α → Bool}
    (ha : ∀ c ∈ changes, keyOf c.resource = a → p c = true)
    (hb : ∀ c ∈ changes, keyOf c.resource = b → p c = true) :
    Before keyOf (changes.filter p) a b ↔ Before keyOf changes a b := by
  induction changes with
  | nil => rfl
  | cons c cs ih =>
    have hrest : Before keyOf (cs.filter p) a b ↔ Before keyOf cs a b :=
      ih (fun d hd => ha d (List.mem_cons_of_mem _ hd)) fun d hd => hb d (List.mem_cons_of_mem _ hd)
    by_cases hp : p c = true
    · rw [List.filter_cons_of_pos hp, before_cons_iff, before_cons_iff, hrest]
    · have hca : keyOf c.resource ≠ a := fun h => hp (ha c List.mem_cons_self h)
      have hcb : keyOf c.resource ≠ b := fun h => hp (hb c List.mem_cons_self h)
      rw [List.filter_cons_of_neg hp, before_cons_iff, hrest]
      simp [hca, hcb]

/-- A key that was mentioned before makes no difference when it comes up again. Only first mentions
count. -/
theorem before_concat_iff_of_mem {c : Change α} (h : keyOf c.resource ∈ mentioned keyOf changes) :
    Before keyOf (changes ++ [c]) a b ↔ Before keyOf changes a b := by
  by_cases ha : a ∈ mentioned keyOf changes
  · exact before_append_iff_left ha
  · -- the change that was added does not bring a key that was not there
    have hnot : a ∉ mentioned keyOf (changes ++ [c]) := by
      rw [mentioned_append, List.mem_append]
      rintro (hin | hin)
      · exact ha hin
      · rw [List.mem_singleton.1 hin] at ha
        exact ha h
    exact iff_of_false (fun hbefore => hnot hbefore.mem) fun hbefore => ha hbefore.mem

/-- Two lists with the same keys in the same order are continued alike. What is added counts for
keys only that neither of them mentions. -/
theorem before_append_congr {others : List (Change α)}
    (hmem : ∀ key, key ∈ mentioned keyOf changes ↔ key ∈ mentioned keyOf others)
    (h : Before keyOf changes a b ↔ Before keyOf others a b) :
    Before keyOf (changes ++ later) a b ↔ Before keyOf (others ++ later) a b := by
  -- what is added counts only for keys that the lists do not mention
  by_cases ha : a ∈ mentioned keyOf changes
  · rw [before_append_iff_left ha, before_append_iff_left ((hmem a).1 ha), h]
  · by_cases hb : b ∈ mentioned keyOf changes
    · exact iff_of_false (not_before_append ha hb)
        (not_before_append (mt (hmem a).2 ha) ((hmem b).1 hb))
    · rw [before_append_iff_right ha hb,
        before_append_iff_right (mt (hmem a).2 ha) (mt (hmem b).2 hb)]

/-- Keeping the last change of every key loses no key. -/
theorem mem_mentioned_lastPerKey_iff {key : String} :
    key ∈ mentioned keyOf (lastPerKey keyOf changes) ↔ key ∈ mentioned keyOf changes := by
  rw [mem_mentioned_iff, mem_mentioned_iff]
  constructor
  · rintro ⟨c, hc, hkey⟩
    exact ⟨c, (mem_lastPerKey_iff.1 hc).mem, hkey⟩
  · rintro ⟨c, hc, rfl⟩
    obtain ⟨d, hd, hkey⟩ := exists_isLast keyOf hc
    exact ⟨d, mem_lastPerKey_iff.2 hd, hkey⟩

/-- Keeping the last change of every key leaves the order of the keys as it is: a change that comes
later moves forward to the place of the first one with its key. -/
theorem before_lastPerKey_iff :
    Before keyOf (lastPerKey keyOf changes) a b ↔ Before keyOf changes a b := by
  induction changes using List.reverseRecOn with
  | nil => rfl
  | append_singleton changes c ih =>
    -- a change moves to the place of the first one with its key
    have hkeys : mentioned keyOf (lastPerKey keyOf (changes ++ [c])) =
        if keyOf c.resource ∈ mentioned keyOf (lastPerKey keyOf changes)
        then mentioned keyOf (lastPerKey keyOf changes)
        else mentioned keyOf (lastPerKey keyOf changes ++ [c]) := by
      rw [lastPerKey_append, mentioned_append]
      exact keys_keepLast _ c
    by_cases hc : keyOf c.resource ∈ mentioned keyOf (lastPerKey keyOf changes)
    · rw [Before, hkeys, if_pos hc, ← Before, ih,
        before_concat_iff_of_mem (mem_mentioned_lastPerKey_iff.1 hc)]
    · rw [Before, hkeys, if_neg hc, ← Before]
      exact before_append_congr (fun _ => mem_mentioned_lastPerKey_iff) ih

/-- The changes that are not removals. -/
def puts (changes : List (Change α)) : List (Change α) := changes.filter fun c => !c.isDelete

@[simp] theorem puts_append (earlier later : List (Change α)) :
    puts (earlier ++ later) = puts earlier ++ puts later := List.filter_append ..

theorem mem_puts_iff {c : Change α} : c ∈ puts changes ↔ c ∈ changes ∧ c.isDelete = false := by
  simp [puts]

/-- The key is mentioned by puts only. Of a key that is removed first and put later, squashing moves
the put to the place of the removal, so the order of such keys is not claimed. -/
def OnlyPut (keyOf : α → String) (changes : List (Change α)) (key : String) : Prop :=
  ∀ c ∈ changes, keyOf c.resource = key → c.isDelete = false

/-- Squashing brings no removals that were not there. -/
theorem OnlyPut.squash {key : String} (h : OnlyPut keyOf changes key) :
    OnlyPut keyOf (squash keyOf changes) key := fun c hc hkey =>
  h c (mem_squash_iff.1 hc).mem hkey

/-- Leaving out removals leaves the order of two keys that are put as it is. -/
theorem before_puts_iff (ha : OnlyPut keyOf changes a) (hb : OnlyPut keyOf changes b) :
    Before keyOf (puts changes) a b ↔ Before keyOf changes a b :=
  before_filter_iff (fun c hc hkey => by simp [ha c hc hkey]) fun c hc hkey => by
    simp [hb c hc hkey]

/-- Squashing leaves the order of two keys that it puts as it is. They are among the changes that
come after the removals, and these are in the order of their first mentions. -/
theorem before_squash_iff (ha : OnlyPut keyOf (squash keyOf changes) a)
    (hb : OnlyPut keyOf (squash keyOf changes) b) :
    Before keyOf (squash keyOf changes) a b ↔ Before keyOf changes a b := by
  -- neither key is among the removals, which come first
  have hnot : ∀ {key}, OnlyPut keyOf (squash keyOf changes) key →
      key ∉ mentioned keyOf ((lastPerKey keyOf changes).filter isDelete) := by
    intro key hkey hin
    obtain ⟨c, hc, hckey⟩ := mem_mentioned_iff.1 hin
    have hput := hkey c (List.mem_append_left _ hc) hckey
    simp [hput] at hc
  have honly : ∀ {key}, OnlyPut keyOf (squash keyOf changes) key →
      OnlyPut keyOf (lastPerKey keyOf changes) key := fun hkey c hc hckey =>
    hkey c (mem_squash_iff.2 (mem_lastPerKey_iff.1 hc)) hckey
  rw [squash, before_append_iff_right (hnot ha) (hnot hb), ← puts,
    before_puts_iff (honly ha) (honly hb), before_lastPerKey_iff]

end Order

end Gatehouse.Change
