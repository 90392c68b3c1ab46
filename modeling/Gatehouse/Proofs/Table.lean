import Gatehouse.Table
import Mathlib.Data.List.Induction
import Mathlib.Data.List.Nodup

/-!
What the keys and the values of a table are, and what a table made from a list has.

Of several entries of a list under one key the last one stays, so `get?_ofList_of_mem` asks that
they agree; that is so for every list in this library that is made into a table, because its keys
are those of different objects.
-/

set_option autoImplicit false

universe u v

namespace Gatehouse.Table

variable {α : Type u} {β : Type v}

/-! ## 1. Keys and values -/

theorem mem_keys_iff {t : Table α} {key : String} :
    key ∈ t.keys ↔ ∃ value, t.get? key = some value := by
  simp [keys, ← mem_entries_iff]

theorem mem_values_iff {t : Table α} {value : α} :
    value ∈ t.values ↔ ∃ key, t.get? key = some value := by
  simp [values, ← mem_entries_iff]

theorem nodup_keys (t : Table α) : t.keys.Nodup := by
  rw [keys, List.Nodup, List.pairwise_map]
  refine t.increasing.imp fun {a b} h heq => ?_
  rw [heq] at h
  exact String.lt_irrefl _ h

/-- When every value is stored under a key of its own, these keys are the keys of the table. -/
theorem map_values_eq_keys {t : Table α} {keyOf : α → String}
    (h : ∀ key value, t.get? key = some value → keyOf value = key) :
    t.values.map keyOf = t.keys := by
  rw [values, keys, List.map_map]
  exact List.map_congr_left fun e he => h e.1 e.2 (mem_entries_iff.1 he)

/-- So what the values are stored under does not repeat. Objects are stored under their keys, and
this is where their keys are known to differ. -/
theorem nodup_map_values {t : Table α} {keyOf : α → String}
    (h : ∀ key value, t.get? key = some value → keyOf value = key) :
    (t.values.map keyOf).Nodup := by
  rw [map_values_eq_keys h]
  exact t.nodup_keys

/-- When every value is stored under a key of its own, values with the same key are the same. -/
theorem eq_of_key_eq {t : Table α} {keyOf : α → String}
    (h : ∀ key value, t.get? key = some value → keyOf value = key) {key other : String} {v w : α}
    (hv : t.get? key = some v) (hw : t.get? other = some w) (hkey : keyOf v = keyOf w) : v = w := by
  rw [h key v hv, h other w hw] at hkey
  rw [hkey, hw] at hv
  exact (Option.some.inj hv).symm

theorem values_map (f : α → β) (t : Table α) : (t.map f).values = t.values.map f := by
  simp [values, map, Function.comp_def]

/-- What is among the values after one is put was put or was there. -/
theorem eq_or_mem_of_mem_values_insert {t : Table α} {key : String} {value v : α}
    (h : v ∈ (t.insert key value).values) : v = value ∨ v ∈ t.values := by
  obtain ⟨key', hget⟩ := mem_values_iff.1 h
  rw [get?_insert] at hget
  split at hget
  · exact .inl (Option.some.inj hget).symm
  · exact .inr (mem_values_iff.2 ⟨key', hget⟩)

/-- What is left was there. -/
theorem mem_of_mem_values_erase {t : Table α} {key : String} {v : α}
    (h : v ∈ (t.erase key).values) : v ∈ t.values := by
  obtain ⟨key', hget⟩ := mem_values_iff.1 h
  rw [get?_erase] at hget
  split at hget
  · cases hget
  · exact mem_values_iff.2 ⟨key', hget⟩

theorem insert_of_get? {t : Table α} {key : String} {value : α} (h : t.get? key = some value) :
    t.insert key value = t := by
  refine ext_get? fun key' => ?_
  rw [get?_insert]
  split_ifs with hkey
  · rw [← hkey, h]
  · rfl

theorem insert_insert (t : Table α) (key : String) (value other : α) :
    (t.insert key value).insert key other = t.insert key other := by
  refine ext_get? fun key' => ?_
  simp only [get?_insert]
  split_ifs <;> rfl

theorem map_insert (f : α → β) (t : Table α) (key : String) (value : α) :
    (t.insert key value).map f = (t.map f).insert key (f value) := by
  refine ext_get? fun key' => ?_
  rw [get?_map, get?_insert, get?_insert, get?_map, apply_ite (Option.map f), Option.map_some]

theorem map_erase (f : α → β) (t : Table α) (key : String) :
    (t.erase key).map f = (t.map f).erase key := by
  refine ext_get? fun key' => ?_
  rw [get?_map, get?_erase, get?_erase, get?_map, apply_ite (Option.map f), Option.map_none]

theorem map_map {γ : Type*} (f : α → β) (g : β → γ) (t : Table α) :
    (t.map f).map g = t.map (g ∘ f) := by
  refine ext_get? fun key => ?_
  rw [get?_map, get?_map, get?_map, Option.map_map]

/-- Tables with the same keys list them in the same order, whatever their values are. The order of a
table is the one of its keys. -/
theorem keys_eq_of_mem_iff {s : Table α} {t : Table β} (h : ∀ key, key ∈ s.keys ↔ key ∈ t.keys) :
    s.keys = t.keys := by
  -- with the values forgotten, the two tables have the same lookups
  have hlookup : ∀ key, (s.map fun _ => ()).get? key = (t.map fun _ => ()).get? key := by
    intro key
    rw [get?_map, get?_map]
    have hkey := h key
    rw [mem_keys_iff, mem_keys_iff] at hkey
    cases hs : s.get? key <;> cases ht : t.get? key <;> simp [hs, ht] at hkey ⊢
  have hmap := congrArg keys (ext_get? hlookup)
  simpa [keys, map, Function.comp_def] using hmap

/-! ## 2. Tables made from lists -/

/-- What is under a key of a table made from a list stood in the list. Which of several entries with
the key it was is not said. -/
theorem mem_of_get?_ofList {entries : List (String × α)} {key : String} {value : α}
    (h : (ofList entries).get? key = some value) : (key, value) ∈ entries := by
  induction entries using List.reverseRecOn with
  | nil => simp [ofList] at h
  | append_singleton entries e ih =>
    -- the last entry is put last, so it decides about its key
    rw [get?_ofList_append] at h
    by_cases hk : e.1 = key
    · rw [if_pos hk] at h
      subst hk
      simp [← Option.some.inj h]
    · rw [if_neg hk] at h
      exact List.mem_append_left _ (ih h)

/-- Every key of a list is a key of the table made from it. -/
theorem exists_get?_ofList {entries : List (String × α)} {key : String} {value : α}
    (h : (key, value) ∈ entries) : ∃ other, (ofList entries).get? key = some other := by
  induction entries using List.reverseRecOn with
  | nil => simp at h
  | append_singleton entries e ih =>
    rw [get?_ofList_append]
    by_cases hk : e.1 = key
    · exact ⟨e.2, if_pos hk⟩
    · rw [if_neg hk]
      rcases List.mem_append.1 h with hin | hin
      · exact ih hin
      · exact absurd (congrArg Prod.fst (List.mem_singleton.1 hin)).symm hk

/-- When the entries under a key agree, the table made from the list has what they say. -/
theorem get?_ofList_of_mem {entries : List (String × α)} {key : String} {value : α}
    (h : (key, value) ∈ entries) (hone : ∀ other, (key, other) ∈ entries → other = value) :
    (ofList entries).get? key = some value := by
  obtain ⟨other, hother⟩ := exists_get?_ofList h
  rw [hother, hone other (mem_of_get?_ofList hother)]

/-- A table that has a value for each of some keys has under each of them the value for it. The keys
may be repeated, as the value depends on the key alone. -/
theorem get?_ofList_map_iff {keys : List String} {valueOf : String → α} {key : String} {value : α} :
    (ofList (keys.map fun k => (k, valueOf k))).get? key = some value ↔
      key ∈ keys ∧ value = valueOf key := by
  have hmem : ∀ v, (key, v) ∈ (keys.map fun k => (k, valueOf k)) ↔ key ∈ keys ∧ v = valueOf key := by
    intro v
    rw [List.mem_map]
    constructor
    · rintro ⟨k, hk, heq⟩
      obtain ⟨rfl, rfl⟩ := Prod.mk.inj heq
      exact ⟨hk, rfl⟩
    · rintro ⟨hk, rfl⟩
      exact ⟨key, hk, rfl⟩
  constructor
  · intro h
    exact (hmem value).1 (mem_of_get?_ofList h)
  · rintro ⟨hk, rfl⟩
    -- all entries under a key are the same
    exact get?_ofList_of_mem ((hmem _).2 ⟨hk, rfl⟩) fun other hother => ((hmem other).1 hother).2

/-- When no two entries have the same key, the table made from those that have a value has under
every key what its entry says. -/
theorem get?_ofList_filterMap {entries : List (String × Option α)}
    (hnodup : (entries.map Prod.fst).Nodup) {key : String} {value : Option α}
    (h : (key, value) ∈ entries) :
    (ofList (entries.filterMap fun e => e.2.map fun a => (e.1, a))).get? key = value := by
  -- the entry is the only one of its key
  have hone : ∀ a, (key, a) ∈ (entries.filterMap fun e => e.2.map fun a => (e.1, a)) ↔
      value = some a := by
    intro a
    rw [List.mem_filterMap]
    constructor
    · rintro ⟨⟨k, v⟩, hmem, hmap⟩
      obtain ⟨b, rfl, heq⟩ := Option.map_eq_some_iff.1 hmap
      obtain ⟨rfl, rfl⟩ := Prod.mk.inj heq
      have hsame := List.inj_on_of_nodup_map hnodup h hmem rfl
      exact congrArg Prod.snd hsame
    · rintro rfl
      exact ⟨(key, some a), h, rfl⟩
  cases hget : (ofList (entries.filterMap fun e => e.2.map fun a => (e.1, a))).get? key with
  | some a => exact ((hone a).1 (mem_of_get?_ofList hget)).symm
  | none =>
    cases value with
    | none => rfl
    | some a =>
      obtain ⟨b, hb⟩ := exists_get?_ofList ((hone a).2 rfl)
      rw [hget] at hb
      cases hb

/-- Every entry of such a table stood in the list. -/
theorem mem_of_get?_ofList_filterMap {entries : List (String × Option α)} {key : String} {a : α}
    (h : (ofList (entries.filterMap fun e => e.2.map fun a => (e.1, a))).get? key = some a) :
    (key, some a) ∈ entries := by
  obtain ⟨⟨k, v⟩, hmem, hmap⟩ := List.mem_filterMap.1 (mem_of_get?_ofList h)
  obtain ⟨b, rfl, heq⟩ := Option.map_eq_some_iff.1 hmap
  obtain ⟨rfl, rfl⟩ := Prod.mk.inj heq
  exact hmem

end Gatehouse.Table
