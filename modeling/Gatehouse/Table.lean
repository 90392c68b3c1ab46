/-!
Tables: finite maps from texts to values, kept as the list of their entries in increasing order of
the keys. The order of the keys is the order of code points, which is also that of their UTF-8
bytes, and it is what every answer that runs through a table shows.

A table is determined by its lookups (`Table.ext_get?`), so two histories that leave the same value
under every key leave the same table. Each operation has one lemma that says what it does to the
lookups: `get?_insert`, `get?_erase`, `get?_map`,
`get?_filterMap`.
-/

set_option autoImplicit false

universe u v

namespace Gatehouse

/-! ## 1. Sorted lists of entries -/

namespace Table

variable {α : Type u} {β : Type v}

/-- The keys increase along the list. -/
def Increasing (entries : List (String × α)) : Prop :=
  entries.Pairwise fun a b => a.1 < b.1

/-- The value under a key. -/
def find (key : String) : List (String × α) → Option α
  | [] => none
  | e :: rest => if e.1 = key then some e.2 else find key rest

/-- Puts a value under a key, at the key's place. -/
def put (key : String) (value : α) : List (String × α) → List (String × α)
  | [] => [(key, value)]
  | e :: rest =>
    if e.1 = key then (key, value) :: rest
    else if key < e.1 then (key, value) :: e :: rest
    else e :: put key value rest

theorem mem_put {key : String} {value : α} {entries : List (String × α)} {e : String × α}
    (h : e ∈ put key value entries) : e = (key, value) ∨ e ∈ entries := by
  induction entries with
  | nil => exact .inl (List.mem_singleton.1 h)
  | cons a rest ih =>
    simp only [put] at h
    split at h
    · exact (List.mem_cons.1 h).imp id (List.mem_cons_of_mem _)
    · split at h
      · exact List.mem_cons.1 h
      · rcases List.mem_cons.1 h with rfl | h
        · exact .inr (List.mem_cons_self ..)
        · exact (ih h).imp id (List.mem_cons_of_mem _)

theorem increasing_put {key : String} {value : α} {entries : List (String × α)}
    (h : Increasing entries) : Increasing (put key value entries) := by
  induction entries with
  | nil => exact List.pairwise_singleton ..
  | cons a rest ih =>
    obtain ⟨ha, hrest⟩ := List.pairwise_cons.1 h
    simp only [put]
    split
    · rename_i heq
      exact List.pairwise_cons.2 ⟨fun e he => heq ▸ ha e he, hrest⟩
    · rename_i hne
      split
      · rename_i hlt
        refine List.pairwise_cons.2 ⟨fun e he => ?_, h⟩
        rcases List.mem_cons.1 he with rfl | he
        · exact hlt
        · exact String.lt_trans hlt (ha e he)
      · rename_i hnlt
        refine List.pairwise_cons.2 ⟨fun e he => ?_, ih hrest⟩
        rcases mem_put he with rfl | he
        · rcases String.le_total a.1 key with hle | hle
          · exact Classical.byContradiction fun hc =>
              hne (String.le_antisymm hle (String.not_lt.1 hc))
          · exact absurd (Classical.byContradiction fun hc =>
              hne (String.le_antisymm (String.not_lt.1 hc) hle)) hnlt
        · exact ha e he

theorem find_put (key key' : String) (value : α) (entries : List (String × α)) :
    find key' (put key value entries) = if key = key' then some value else find key' entries := by
  induction entries with
  | nil => simp [put, find]
  | cons a rest ih =>
    simp only [put]
    split
    · rename_i heq
      subst heq
      by_cases h : a.1 = key' <;> simp [find, h]
    · split
      · simp [find]
      · rename_i hne _
        by_cases h : a.1 = key'
        · have : key ≠ key' := fun hk => hne (h.trans hk.symm)
          simp [find, h, this]
        · simp [find, h, ih]

theorem find_eq_none_of_forall {key : String} {entries : List (String × α)}
    (h : ∀ e ∈ entries, e.1 ≠ key) : find key entries = none := by
  induction entries with
  | nil => rfl
  | cons a rest ih =>
    simp [find, h a (List.mem_cons_self ..), ih fun e he => h e (List.mem_cons_of_mem _ he)]

theorem find_filter_ne (key key' : String) (entries : List (String × α)) :
    find key' (entries.filter fun e => e.1 != key) =
      if key = key' then none else find key' entries := by
  induction entries with
  | nil => simp [find]
  | cons a rest ih =>
    by_cases hk : a.1 = key
    · rw [List.filter_cons_of_neg (by simpa using hk), ih]
      by_cases h : key = key'
      · simp [h]
      · simp [find, h, hk]
    · rw [List.filter_cons_of_pos (by simpa using hk)]
      by_cases h : a.1 = key'
      · have : key ≠ key' := fun hkk => hk (h.trans hkk.symm)
        simp [find, h, this]
      · simp [find, h, ih]

theorem mem_filterMap_values {f : α → Option β} {entries : List (String × α)} {e : String × β}
    (h : e ∈ entries.filterMap fun a => (f a.2).map fun b => (a.1, b)) :
    ∃ a ∈ entries, a.1 = e.1 := by
  obtain ⟨a, ha, he⟩ := List.mem_filterMap.1 h
  obtain ⟨b, -, rfl⟩ := Option.map_eq_some_iff.1 he
  exact ⟨a, ha, rfl⟩

theorem increasing_filterMap (f : α → Option β) {entries : List (String × α)}
    (h : Increasing entries) :
    Increasing (entries.filterMap fun a => (f a.2).map fun b => (a.1, b)) := by
  induction entries with
  | nil => exact .nil
  | cons a rest ih =>
    obtain ⟨ha, hrest⟩ := List.pairwise_cons.1 h
    cases hf : f a.2 with
    | none => simpa [List.filterMap_cons, hf] using ih hrest
    | some b =>
      simp only [List.filterMap_cons, hf, Option.map_some]
      refine List.pairwise_cons.2 ⟨fun e he => ?_, ih hrest⟩
      obtain ⟨a', ha', heq⟩ := mem_filterMap_values he
      exact heq ▸ ha a' ha'

theorem find_filterMap (f : α → Option β) {entries : List (String × α)}
    (h : Increasing entries) (key : String) :
    find key (entries.filterMap fun a => (f a.2).map fun b => (a.1, b)) =
      (find key entries).bind f := by
  induction entries with
  | nil => rfl
  | cons a rest ih =>
    obtain ⟨ha, hrest⟩ := List.pairwise_cons.1 h
    by_cases hk : a.1 = key
    · subst hk
      cases hf : f a.2 with
      | some b => simp [hf, find]
      | none =>
        simp only [List.filterMap_cons, hf, Option.map_none, find, ↓reduceIte, Option.bind_some]
        refine find_eq_none_of_forall fun e he heq => ?_
        obtain ⟨a', ha', heq'⟩ := mem_filterMap_values he
        exact String.lt_irrefl a.1 (by simpa [heq', heq] using ha a' ha')
    · cases hf : f a.2 with
      | some b => simp [hf, find, hk, ih hrest]
      | none => simp [hf, find, hk, ih hrest]

theorem increasing_map (f : α → β) {entries : List (String × α)} (h : Increasing entries) :
    Increasing (entries.map fun e => (e.1, f e.2)) := by
  rw [Increasing, List.pairwise_map]
  exact h

/-- An entry of a list of increasing keys is what its key finds. -/
theorem find_eq_some_iff {entries : List (String × α)} (h : Increasing entries) {key : String}
    {value : α} : find key entries = some value ↔ (key, value) ∈ entries := by
  induction entries with
  | nil => simp [find]
  | cons a rest ih =>
    obtain ⟨ha, hrest⟩ := List.pairwise_cons.1 h
    by_cases hk : a.1 = key
    · subst hk
      simp only [find, ↓reduceIte, Option.some.injEq, List.mem_cons]
      refine ⟨fun h => .inl (by simp [← h]), ?_⟩
      rintro (h | h)
      · rw [← h]
      · exact absurd (ha _ h) (String.lt_irrefl _)
    · simp only [find, hk, ↓reduceIte, ih hrest, List.mem_cons]
      refine ⟨.inr, ?_⟩
      rintro (h | h)
      · exact absurd (by rw [← h]) hk
      · exact h

/-- Lists of increasing keys that find the same are the same. -/
theorem eq_of_find_eq {as bs : List (String × α)} (ha : Increasing as) (hb : Increasing bs)
    (h : ∀ key, find key as = find key bs) : as = bs := by
  have hmem : ∀ e : String × α, e ∈ as ↔ e ∈ bs := fun e => by
    rw [← find_eq_some_iff ha, ← find_eq_some_iff hb, h]
  induction as generalizing bs with
  | nil =>
    cases bs with
    | nil => rfl
    | cons b bs => exact absurd ((hmem b).2 (List.mem_cons_self ..)) (List.not_mem_nil)
  | cons a as ih =>
    cases bs with
    | nil => exact absurd ((hmem a).1 (List.mem_cons_self ..)) (List.not_mem_nil)
    | cons b bs =>
      obtain ⟨ha', has⟩ := List.pairwise_cons.1 ha
      obtain ⟨hb', hbs⟩ := List.pairwise_cons.1 hb
      have hab : a = b := by
        rcases List.mem_cons.1 ((hmem a).1 (List.mem_cons_self ..)) with h | hin
        · exact h
        · rcases List.mem_cons.1 ((hmem b).2 (List.mem_cons_self ..)) with h | hin'
          · exact h.symm
          · exact absurd (ha' b hin') (String.lt_asymm (hb' a hin))
      subst hab
      have hmem' : ∀ e : String × α, e ∈ as ↔ e ∈ bs := fun e => by
        constructor
        · intro he
          rcases List.mem_cons.1 ((hmem e).1 (List.mem_cons_of_mem _ he)) with rfl | h
          · exact absurd (ha' _ he) (String.lt_irrefl _)
          · exact h
        · intro he
          rcases List.mem_cons.1 ((hmem e).2 (List.mem_cons_of_mem _ he)) with rfl | h
          · exact absurd (hb' _ he) (String.lt_irrefl _)
          · exact h
      congr 1
      refine ih has hbs (fun key => ?_) hmem'
      exact Option.ext fun value => by
        rw [find_eq_some_iff has, find_eq_some_iff hbs, hmem']

end Table

/-! ## 2. Tables -/

/-- A finite map from texts, with its entries in increasing order of the keys. -/
structure Table (α : Type u) where
  entries : List (String × α)
  increasing : Table.Increasing entries
  deriving DecidableEq

namespace Table

variable {α : Type u} {β : Type v}

/-- The table without entries. -/
def empty : Table α := ⟨[], List.Pairwise.nil⟩

instance : Inhabited (Table α) := ⟨empty⟩

/-- The value under a key, if there is one. -/
def get? (t : Table α) (key : String) : Option α := find key t.entries

/-- The table has the key. -/
def contains (t : Table α) (key : String) : Bool := (t.get? key).isSome

/-- Puts a value under a key, in place of the value that was there. -/
def insert (t : Table α) (key : String) (value : α) : Table α :=
  ⟨put key value t.entries, increasing_put t.increasing⟩

/-- Removes a key. -/
def erase (t : Table α) (key : String) : Table α :=
  ⟨t.entries.filter fun e => e.1 != key, t.increasing.filter _⟩

/-- The keys, in increasing order. -/
def keys (t : Table α) : List String := t.entries.map (·.1)

/-- The values, in the order of their keys. -/
def values (t : Table α) : List α := t.entries.map (·.2)

/-- The number of entries. -/
def size (t : Table α) : Nat := t.entries.length

/-- Changes each value by a function of it. -/
def map (f : α → β) (t : Table α) : Table β :=
  ⟨t.entries.map fun e => (e.1, f e.2), increasing_map f t.increasing⟩

/-- Changes each value by a function of it, which may also drop the entry. -/
def filterMap (f : α → Option β) (t : Table α) : Table β :=
  ⟨t.entries.filterMap fun a => (f a.2).map fun b => (a.1, b), increasing_filterMap f t.increasing⟩

/-- Puts the entries of a list one after the other; of two under one key the later stays. -/
def ofList (entries : List (String × α)) : Table α :=
  entries.foldl (fun t e => t.insert e.1 e.2) empty

/-- Changes the value under a key; `f` gets what is there and says what is to be there. -/
def alter (t : Table α) (key : String) (f : Option α → α) : Table α :=
  t.insert key (f (t.get? key))

/-! ## 3. What the operations do to the lookups -/

@[simp] theorem get?_empty (key : String) : (empty : Table α).get? key = none := rfl

theorem get?_insert (t : Table α) (key key' : String) (value : α) :
    (t.insert key value).get? key' = if key = key' then some value else t.get? key' :=
  find_put key key' value t.entries

theorem get?_erase (t : Table α) (key key' : String) :
    (t.erase key).get? key' = if key = key' then none else t.get? key' :=
  find_filter_ne key key' t.entries

theorem get?_map (f : α → β) (t : Table α) (key : String) :
    (t.map f).get? key = (t.get? key).map f := by
  show find key (t.entries.map fun e => (e.1, f e.2)) = (find key t.entries).map f
  induction t.entries with
  | nil => rfl
  | cons a rest ih => by_cases h : a.1 = key <;> simp [find, h, ih]

theorem get?_filterMap (f : α → Option β) (t : Table α) (key : String) :
    (t.filterMap f).get? key = (t.get? key).bind f :=
  find_filterMap f t.increasing key

theorem get?_ofList_append (entries : List (String × α)) (e : String × α) (key : String) :
    (ofList (entries ++ [e])).get? key =
      if e.1 = key then some e.2 else (ofList entries).get? key := by
  simp [ofList, get?_insert]

/-- The entries are the pairs of a key and what is under it. -/
theorem mem_entries_iff {t : Table α} {key : String} {value : α} :
    (key, value) ∈ t.entries ↔ t.get? key = some value :=
  (find_eq_some_iff t.increasing).symm

/-- A table is determined by its lookups. -/
theorem ext_get? {s t : Table α} (h : ∀ key, s.get? key = t.get? key) : s = t := by
  cases s with
  | mk as ha =>
    cases t with
    | mk bs hb =>
      have : as = bs := eq_of_find_eq ha hb h
      subst this
      rfl

theorem contains_iff {t : Table α} {key : String} :
    t.contains key = true ↔ ∃ value, t.get? key = some value := by
  simp [contains, Option.isSome_iff_exists]

/-- Removing a key that is not there changes nothing. -/
theorem erase_of_get?_eq_none {t : Table α} {key : String} (h : t.get? key = none) :
    t.erase key = t := by
  refine ext_get? fun key' => ?_
  rw [get?_erase]
  split
  · rename_i heq
    rw [← heq, h]
  · rfl

end Table

end Gatehouse
