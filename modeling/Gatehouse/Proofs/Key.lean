import Gatehouse.Key
import Mathlib.Data.List.Basic

/-!
References are resolved alike wherever they are.

A reference is completed to a key when something is looked up, it is split when its parts are
needed, and it is compared with a namespace and a name when those who refer to an object are looked
for. What a reference is split into is the object that it means (`splitReference_eq_iff`): a
reference that is a key has the object of the key, where the first slash ends the namespace, and
any other one is a name. Comparing a reference is the question whether it is split into the two
parts (`refersTo_iff_splitReference`). Completing one loses the place of the slash, so it can be
read back only where namespaces have none (`qualify_eq_joinKey_iff`).
-/

set_option autoImplicit false

namespace Gatehouse

/-! ## 1. Completed references -/

theorem holds_slash_iff {s : String} : Text.holds s '/' = true ↔ '/' ∈ s.toList := by
  rw [Text.holds, List.contains_iff_mem]

theorem qualify_of_mem {home reference : String} (h : '/' ∈ reference.toList) :
    qualify home reference = reference := by
  rw [qualify, if_pos (holds_slash_iff.2 h)]

/-- A reference without a slash is a name, in the namespace of the object that refers. -/
theorem qualify_of_notMem {home reference : String} (h : '/' ∉ reference.toList) :
    qualify home reference = joinKey home reference := by
  rw [qualify, if_neg (mt holds_slash_iff.1 h)]

theorem slash_mem_joinKey (space name : String) : '/' ∈ (joinKey space name).toList := by
  simp [joinKey]

/-- A key stands for itself, wherever it is referred to. -/
theorem qualify_joinKey (home space name : String) :
    qualify home (joinKey space name) = joinKey space name :=
  qualify_of_mem (slash_mem_joinKey space name)

/-- A completed reference has a slash, whether it was there or has been added. -/
theorem slash_mem_qualify (home reference : String) : '/' ∈ (qualify home reference).toList := by
  by_cases h : '/' ∈ reference.toList
  · rwa [qualify_of_mem h]
  · rw [qualify_of_notMem h]
    exact slash_mem_joinKey home reference

theorem qualify_qualify (elsewhere home reference : String) :
    qualify elsewhere (qualify home reference) = qualify home reference :=
  qualify_of_mem (slash_mem_qualify home reference)

/-- A namespace or a name that a key can be made of: it is not empty, and has no slash. Keys of such
parts can be read back. -/
structure IsKeyPart (s : String) : Prop where
  ne_empty : s ≠ ""
  slash_notMem : '/' ∉ s.toList

/-- A key whose parts have no slash is the key of nothing else, whatever the parts of others are.
Where both parts may have slashes, two objects can have one key. -/
theorem joinKey_eq_joinKey_iff {a b space name : String} (hspace : '/' ∉ space.toList)
    (hname : '/' ∉ name.toList) : joinKey a b = joinKey space name ↔ a = space ∧ b = name := by
  constructor
  · intro h
    have hcount : ∀ x y : String, (joinKey x y).toList.count '/' =
        x.toList.count '/' + 1 + y.toList.count '/' := fun x y => by simp [joinKey]; omega
    have ha : a.toList.count '/' = 0 := by
      have heq := hcount a b
      rw [h, hcount, List.count_eq_zero.2 hspace, List.count_eq_zero.2 hname] at heq
      omega
    exact joinKey_inj (List.count_eq_zero.1 ha) hspace h
  · rintro ⟨rfl, rfl⟩
    rfl

/-! ## 2. What a reference means -/

section References

variable {home reference space name : String}

/-- A reference means the object whose key it is, the namespace of which has no slash, or it is the
name of an object of the own namespace. -/
theorem splitReference_eq_iff :
    splitReference home reference = (space, name) ↔
      (reference = joinKey space name ∧ '/' ∉ space.toList) ∨
        ('/' ∉ reference.toList ∧ home = space ∧ reference = name) := by
  rw [splitReference]
  cases hsplit : Text.splitFirst '/' reference with
  | none =>
    have hnone : '/' ∉ reference.toList := Text.splitFirst_eq_none_iff.1 hsplit
    rw [Option.getD_none, Prod.mk.injEq]
    constructor
    · exact fun h => .inr ⟨hnone, h⟩
    · rintro (⟨rfl, -⟩ | ⟨-, h⟩)
      · exact absurd (slash_mem_joinKey space name) hnone
      · exact h
  | some parts =>
    obtain ⟨hreference, hfirst⟩ := Text.splitFirst_eq_some_iff.1 hsplit
    rw [Option.getD_some]
    constructor
    · rintro rfl
      exact .inl ⟨hreference.trans (String.append_assoc ..).symm, hfirst⟩
    · rintro (⟨rfl, hspace⟩ | ⟨hnone, -⟩)
      · exact Option.some.inj (hsplit.symm.trans (splitFirst_joinKey hspace))
      · -- a text that is split has the separator
        refine absurd ?_ hnone
        rw [hreference]
        simp

/-- To compare a reference is to split it. -/
theorem refersTo_iff_splitReference :
    refersTo reference space name home = true ↔ splitReference home reference = (space, name) := by
  rw [refersTo, splitReference]
  cases Text.splitFirst '/' reference with
  | none => simp only [Option.getD_none, Prod.mk.injEq, Bool.and_eq_true, beq_iff_eq]
  | some parts => simp only [Option.getD_some, Prod.ext_iff, Bool.and_eq_true, beq_iff_eq]

/-- Where the namespaces have no slash, a reference is completed to the key of the object that it
means. -/
theorem qualify_eq_joinKey_iff (hhome : '/' ∉ home.toList) (hspace : '/' ∉ space.toList) :
    qualify home reference = joinKey space name ↔
      splitReference home reference = (space, name) := by
  rw [splitReference_eq_iff]
  by_cases h : '/' ∈ reference.toList
  · rw [qualify_of_mem h]
    constructor
    · exact fun heq => .inl ⟨heq, hspace⟩
    · rintro (⟨heq, -⟩ | ⟨hnone, -⟩)
      · exact heq
      · exact absurd h hnone
  · rw [qualify_of_notMem h]
    constructor
    · -- Neither half holds a slash, so the key tells where the namespace ends.
      exact fun heq => .inr ⟨h, joinKey_inj hhome hspace heq⟩
    · rintro (⟨rfl, -⟩ | ⟨-, rfl, rfl⟩)
      · exact absurd (slash_mem_joinKey space name) h
      · rfl

/-- Where the namespaces have no slash, a reference means an object when it is completed to the key
of the object. -/
theorem refersTo_iff (hspace : '/' ∉ space.toList) (hhome : '/' ∉ home.toList) :
    refersTo reference space name home = true ↔ qualify home reference = joinKey space name := by
  rw [refersTo_iff_splitReference, qualify_eq_joinKey_iff hhome hspace]

end References

/-! ## 3. Agreement -/

/-- Splitting a reference, completing it and comparing it agree on what it means. The first two give
the same key, which stands for itself everywhere. Comparing agrees with splitting for all texts, and
with completing where the namespaces have no slash. -/
theorem references_agree (home reference : String) :
    joinKey (splitReference home reference).1 (splitReference home reference).2 =
        qualify home reference ∧
      (∀ elsewhere, qualify elsewhere (qualify home reference) = qualify home reference) ∧
      ∀ space name,
        (refersTo reference space name home = true ↔
          splitReference home reference = (space, name)) ∧
        ('/' ∉ home.toList → '/' ∉ space.toList →
          (refersTo reference space name home = true ↔
            qualify home reference = joinKey space name)) := by
  refine ⟨joinKey_splitReference home reference, fun elsewhere =>
    qualify_qualify elsewhere home reference, fun space name => ⟨refersTo_iff_splitReference, ?_⟩⟩
  intro hhome hspace
  exact refersTo_iff hspace hhome

/-- A reference with two slashes means an object whose name has a slash. -/
theorem reference_with_two_slashes :
    '/' ∉ "web".toList ∧ '/' ∉ "shop".toList ∧
      refersTo "shop/tea/green" "shop" "tea/green" "web" = true ∧
      qualify "web" "shop/tea/green" = joinKey "shop" "tea/green" := by
  have hhome : '/' ∉ "web".toList := by decide
  have hspace : '/' ∉ "shop".toList := by decide
  have hrefers : refersTo "shop/tea/green" "shop" "tea/green" "web" = true := by decide +kernel
  obtain ⟨-, -, hagree⟩ := references_agree "web" "shop/tea/green"
  exact ⟨hhome, hspace, hrefers, ((hagree "shop" "tea/green").2 hhome hspace).1 hrefers⟩

/-- A slash in the own namespace: the completed reference is the key of an object that is not
meant. -/
example : qualify "shop/tea" "green" = joinKey "shop" "tea/green" ∧
    refersTo "green" "shop" "tea/green" "shop/tea" = false := by decide +kernel

end Gatehouse
