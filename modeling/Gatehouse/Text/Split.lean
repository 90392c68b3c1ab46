/-!
Cutting a text at a separator: at its first occurrence (`splitFirst`), at its last (`afterLast`),
or at all of them (`splitAll`). The first is pinned down by `splitFirst_eq_some_iff`: the two parts
with the separator between them are the text, and the first part does not hold the separator.
-/

set_option autoImplicit false

namespace Gatehouse.Text

/-! ## 1. Lists of characters -/

/-- The parts before and after the first separator, when there is one. -/
def cutFirst (sep : Char) : List Char → Option (List Char × List Char)
  | [] => none
  | c :: cs =>
    if c = sep then some ([], cs) else (cutFirst sep cs).map fun p => (c :: p.1, p.2)

/-- The parts between the separators; a text without one is its only part. -/
def cutAll (sep : Char) : List Char → List (List Char)
  | [] => [[]]
  | c :: cs =>
    if c = sep then [] :: cutAll sep cs
    else match cutAll sep cs with
      | [] => [[c]]
      | part :: parts => (c :: part) :: parts

theorem cutFirst_eq_some_iff {sep : Char} {cs as bs : List Char} :
    cutFirst sep cs = some (as, bs) ↔ cs = as ++ sep :: bs ∧ sep ∉ as := by
  induction cs generalizing as with
  | nil => simp [cutFirst]
  | cons c cs ih =>
    by_cases h : c = sep
    · subst h
      cases as with
      | nil => simp [cutFirst, eq_comm]
      | cons a as =>
        simp only [cutFirst, ↓reduceIte, Option.some.injEq, Prod.mk.injEq, List.cons_append,
          List.cons.injEq, List.mem_cons, not_or]
        constructor
        · rintro ⟨h, -⟩; cases h
        · rintro ⟨⟨h, -⟩, h', -⟩; exact absurd h h'
    · simp only [cutFirst, h, ↓reduceIte, Option.map_eq_some_iff, Prod.mk.injEq, Prod.exists]
      constructor
      · rintro ⟨x, y, hxy, rfl, rfl⟩
        obtain ⟨rfl, hx⟩ := ih.1 hxy
        exact ⟨rfl, by simp [hx, Ne.symm h]⟩
      · rintro ⟨heq, hmem⟩
        cases as with
        | nil => exact absurd (List.cons.inj heq).1 h
        | cons a as =>
          obtain ⟨rfl, rfl⟩ := List.cons.inj heq
          exact ⟨as, bs, ih.2 ⟨rfl, fun m => hmem (List.mem_cons_of_mem _ m)⟩, rfl, rfl⟩

/-- A text has no cut exactly when it does not hold the separator. -/
theorem cutFirst_eq_none_iff {sep : Char} {cs : List Char} :
    cutFirst sep cs = none ↔ sep ∉ cs := by
  induction cs with
  | nil => simp [cutFirst]
  | cons c cs ih =>
    by_cases h : c = sep
    · simp [cutFirst, h]
    · simp [cutFirst, h, ih, Ne.symm h]

/-! ## 2. Strings -/

/-- The parts before and after the first separator, when there is one. -/
def splitFirst (sep : Char) (s : String) : Option (String × String) :=
  (cutFirst sep s.toList).map fun p => (String.ofList p.1, String.ofList p.2)

/-- The parts between the separators. -/
def splitAll (sep : Char) (s : String) : List String :=
  (cutAll sep s.toList).map String.ofList

/-- What follows the last separator; the whole text when there is none. -/
def afterLast (sep : Char) (s : String) : String :=
  String.ofList (s.toList.reverse.takeWhile (· != sep)).reverse

/-- The text holds the character. -/
def holds (s : String) (c : Char) : Bool := s.toList.contains c

/-- The text begins with the other one. -/
def startsWith (s front : String) : Bool := front.toList.isPrefixOf s.toList

theorem splitFirst_eq_some_iff {sep : Char} {s a b : String} :
    splitFirst sep s = some (a, b) ↔ s = a ++ (String.singleton sep ++ b) ∧ sep ∉ a.toList := by
  simp only [splitFirst, Option.map_eq_some_iff, Prod.mk.injEq, Prod.exists]
  constructor
  · rintro ⟨as, bs, h, rfl, rfl⟩
    obtain ⟨hs, hm⟩ := cutFirst_eq_some_iff.1 h
    refine ⟨String.toList_inj.1 ?_, by simpa using hm⟩
    simp [hs]
  · rintro ⟨rfl, hm⟩
    exact ⟨a.toList, b.toList, cutFirst_eq_some_iff.2 ⟨by simp, hm⟩, by simp, by simp⟩

theorem splitFirst_eq_none_iff {sep : Char} {s : String} :
    splitFirst sep s = none ↔ sep ∉ s.toList := by
  simp [splitFirst, cutFirst_eq_none_iff]

end Gatehouse.Text
