/-!
Ranges of code points. A property of characters that the Unicode standard fixes by a list is kept
as that list: increasing, disjoint, inclusive ranges. The tables of this library (blanks, letters
and numbers, decimal digits, unprintable and combining characters) are values of this type, and a
character has the property when one of the ranges holds its code point (`Ranges.has_of_mem`).
-/

set_option autoImplicit false

namespace Gatehouse.Text

/-- Inclusive ranges of code points. -/
abbrev Ranges := List (Nat × Nat)

/-- One of the ranges holds the character's code point. -/
def Ranges.has (ranges : Ranges) (c : Char) : Bool :=
  ranges.any fun r => decide (r.1 ≤ c.toNat) && decide (c.toNat ≤ r.2)

theorem Ranges.has_of_mem {ranges : Ranges} {first last : Nat} {c : Char}
    (hmem : (first, last) ∈ ranges) (hfirst : first ≤ c.toNat) (hlast : c.toNat ≤ last) :
    ranges.has c = true :=
  List.any_eq_true.2 ⟨(first, last), hmem, by simp [hfirst, hlast]⟩

end Gatehouse.Text
