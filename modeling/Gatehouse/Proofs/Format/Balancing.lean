import Gatehouse.Format.Balancing
import Gatehouse.Proofs.Format.Escaped
import Gatehouse.Proofs.Text.Pattern

/-!
Which load balancing methods are accepted: none, one of the lists, or balancing by the hash of a
key, where the key is any word without blanks. A hash for streams has to be an escaped string
besides. There it is chosen by the first letters whether a method is judged as a hash or looked for
in the lists, which makes no difference, for no method of the lists begins like a hash
(`not_startsWith_hash_of_listed`).
-/

set_option autoImplicit false

namespace Gatehouse.Format

open Text

/-! ## 1. Methods for requests -/

/-- The text is balancing by the hash of a key. The key may be put together of variables and text,
as long as it has no blanks. -/
def IsHashMethod (method : String) : Prop :=
  ∃ key tail : String, method = "hash " ++ key ++ tail ∧ key ≠ "" ∧
    (∀ c ∈ key.toList, isBlank c = false) ∧ (tail = "" ∨ tail = " consistent")

/-- The text is a method for requests. NGINX Plus adds a list of its own; a hash may have any key,
so it is described by a grammar and not by a list. -/
inductive IsHttpMethod (isPlus : Bool) (method : String) : Prop
  | none (h : method = "")
  | listed (h : method ∈ httpMethods)
  | plus (hplus : isPlus = true) (h : method ∈ plusHttpMethods)
  | hash (h : IsHashMethod method)

/-- The test is a pattern with an optional ending. The key ends at the first blank, so the ending
cannot be taken for a part of it. -/
theorem isHashMethod_iff {method : String} : isHashMethod method = true ↔ IsHashMethod method := by
  rw [isHashMethod, Pattern.accepts_iff, hashPattern]
  simp only [matches_inOrder_cons, matches_inOrder_nil, matches_literal_iff, matches_plus_one_iff,
    matches_opt_iff]
  constructor
  · rintro ⟨_, _, hmethod, rfl, key, _, rfl, ⟨hne, hkey⟩, tail, _, rfl, htail, rfl⟩
    refine ⟨String.ofList key, String.ofList tail, String.toList_inj.1 ?_, by simpa using hne, ?_,
      ?_⟩
    · simpa using hmethod
    · simpa [CharSet.has] using hkey
    · rcases htail with rfl | rfl
      · exact .inr (String.ofList_toList ..)
      · exact .inl rfl
  · rintro ⟨key, tail, rfl, hne, hkey, htail⟩
    refine ⟨_, key.toList ++ tail.toList, by simp, rfl, key.toList, tail.toList, rfl,
      ⟨by simpa using hne, by simpa [CharSet.has] using hkey⟩, tail.toList, [], by simp, ?_, rfl⟩
    -- What may follow the key is one word or nothing, and the pattern tries the word first.
    rcases htail with rfl | rfl
    · exact .inr rfl
    · exact .inl rfl

/-- The tests of the two lists, of the empty text and of the pattern, one constructor for each. -/
theorem isHttpMethod_iff {isPlus : Bool} {method : String} :
    isHttpMethod isPlus method = true ↔ IsHttpMethod isPlus method := by
  simp only [isHttpMethod, Bool.or_eq_true, Bool.and_eq_true, List.contains_iff_mem,
    String.isEmpty_iff, isHashMethod_iff]
  constructor
  · rintro (((h | h) | ⟨hplus, h⟩) | h)
    · exact .none h
    · exact .listed h
    · exact .plus hplus h
    · exact .hash h
  · rintro (h | h | ⟨hplus, h⟩ | h)
    · exact .inl (.inl (.inl h))
    · exact .inl (.inl (.inr h))
    · exact .inl (.inr ⟨hplus, h⟩)
    · exact .inr h

instance (isPlus : Bool) (method : String) : Decidable (IsHttpMethod isPlus method) :=
  decidable_of_iff _ isHttpMethod_iff

/-- There is no complaint about a method for requests; the blanks around it do not count. -/
theorem httpMethodComplaint_eq_none_iff {isPlus : Bool} {text : String} :
    httpMethodComplaint isPlus text = none ↔ IsHttpMethod isPlus (trimmed text) := by
  rw [httpMethodComplaint, ← isHttpMethod_iff]
  split <;> simp [*]

/-! ## 2. Methods for streams -/

/-- The text is a method for streams. A hash is written into the configuration as it stands, so here
it has to be escaped as well. -/
inductive IsStreamMethod (isPlus : Bool) (method : String) : Prop
  | none (h : method = "")
  | listed (h : method ∈ streamMethods)
  | plus (hplus : isPlus = true) (h : method ∈ plusStreamMethods)
  | hash (h : IsHashMethod method) (hescaped : Escaped method.toList)

/-- A hash begins like one, so it is judged as a hash. -/
theorem IsHashMethod.startsWith_hash {method : String} (h : IsHashMethod method) :
    startsWith method "hash" = true := by
  obtain ⟨key, tail, rfl, -, -, -⟩ := h
  rw [startsWith, List.isPrefixOf_iff_prefix]
  exact ⟨' ' :: (key ++ tail).toList, by simp⟩

/-- A method of the lists does not. They are finite, and this is computed. -/
theorem not_startsWith_hash_of_listed {method : String}
    (h : method ∈ streamMethods ∨ method ∈ plusStreamMethods) :
    startsWith method "hash" = false := by
  have hall : ∀ m ∈ streamMethods ++ plusStreamMethods, startsWith m "hash" = false := by decide
  exact hall method (List.mem_append.2 h)

/-- There is no complaint about a method for streams. Complaints differ by how a method begins: one
that begins like a hash has to be a whole one, and any other is looked for in the lists. -/
theorem streamMethodComplaint_eq_none_iff {isPlus : Bool} {method : String} :
    streamMethodComplaint isPlus method = none ↔ IsStreamMethod isPlus method := by
  rw [streamMethodComplaint]
  by_cases hempty : method = ""
  · rw [if_pos (String.isEmpty_iff.2 hempty)]
    exact ⟨fun _ => .none hempty, fun _ => rfl⟩
  rw [if_neg (mt String.isEmpty_iff.1 hempty)]
  by_cases hhash : startsWith method "hash" = true
  · -- what begins like a hash is in none of the lists
    have hmethod : IsStreamMethod isPlus method ↔ isHashMethod method = true ∧
        isEscaped method = true := by
      rw [isHashMethod_iff, isEscaped_iff]
      constructor
      · rintro (h | h | ⟨-, h⟩ | ⟨h, hescaped⟩)
        · exact absurd h hempty
        · rw [not_startsWith_hash_of_listed (.inl h)] at hhash
          cases hhash
        · rw [not_startsWith_hash_of_listed (.inr h)] at hhash
          cases hhash
        · exact ⟨h, hescaped⟩
      · exact fun h => .hash h.1 h.2
    rw [if_pos hhash, hmethod]
    cases isHashMethod method <;> cases isEscaped method <;> simp
  · -- what does not is no hash
    have hmethod : IsStreamMethod isPlus method ↔
        method ∈ streamMethods ∨ isPlus = true ∧ method ∈ plusStreamMethods := by
      constructor
      · rintro (h | h | ⟨hplus, h⟩ | ⟨h, -⟩)
        · exact absurd h hempty
        · exact .inl h
        · exact .inr ⟨hplus, h⟩
        · exact absurd h.startsWith_hash hhash
      · exact fun h => h.elim .listed fun h => .plus h.1 h.2
    rw [if_neg hhash, hmethod, ← List.contains_iff_mem, ← List.contains_iff_mem,
      ← Bool.and_eq_true, ← Bool.or_eq_true]
    split
    · exact iff_of_true rfl ‹_›
    · exact iff_of_false nofun ‹_›

end Gatehouse.Format
