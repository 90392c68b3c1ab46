import Gatehouse.Text.Split

/-!
Keys and references. An object is identified by its namespace and its name, joined by a slash into
its *key*. Other objects refer to it by a *reference*: the whole key, or the name alone, which then
means the namespace of the object that refers.
-/

set_option autoImplicit false

namespace Gatehouse

open Text

/-- The key of a namespace and a name. -/
def joinKey (space name : String) : String := space ++ "/" ++ name

/-- The key a reference stands for, in an object of the given namespace. -/
def qualify (home reference : String) : String :=
  if holds reference '/' then reference else joinKey home reference

/-- The namespace and the name a reference stands for, in an object of the given namespace. -/
def splitReference (home reference : String) : String × String :=
  (splitFirst '/' reference).getD (home, reference)

/-- A reference in an object of namespace `home` means the object of the given namespace and
name. -/
def refersTo (reference space name home : String) : Bool :=
  match splitFirst '/' reference with
  | some (s, n) => s == space && n == name
  | none => home == space && reference == name

/-- A namespace without a slash can be read back from a key, and so can the name. -/
theorem splitFirst_joinKey {space name : String} (h : '/' ∉ space.toList) :
    splitFirst '/' (joinKey space name) = some (space, name) :=
  splitFirst_eq_some_iff.2 ⟨String.append_assoc .., h⟩

theorem joinKey_inj {a b x y : String} (ha : '/' ∉ a.toList) (hb : '/' ∉ b.toList)
    (h : joinKey a x = joinKey b y) : a = b ∧ x = y := by
  have hax : splitFirst '/' (joinKey a x) = some (a, x) := splitFirst_joinKey ha
  rw [h, splitFirst_joinKey hb] at hax
  simpa [eq_comm] using hax

/-- Joining the parts of a reference gives the key it stands for. -/
theorem joinKey_splitReference (home reference : String) :
    joinKey (splitReference home reference).1 (splitReference home reference).2 =
      qualify home reference := by
  unfold splitReference qualify
  cases h : splitFirst '/' reference with
  | none =>
    have := splitFirst_eq_none_iff.1 h
    simp [holds, this]
  | some p =>
    obtain ⟨hs, -⟩ := (splitFirst_eq_some_iff (a := p.1) (b := p.2)).1 h
    have hmem : holds reference '/' = true := by rw [hs]; simp [holds]
    simp only [Option.getD_some, hmem, ↓reduceIte, joinKey]
    conv => rhs; rw [hs]
    exact String.append_assoc ..

end Gatehouse
