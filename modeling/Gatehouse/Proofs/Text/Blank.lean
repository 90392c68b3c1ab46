import Gatehouse.Text.Blank
import Mathlib.Data.List.TakeWhile

/-!
Blanks around a text.

Trimming drops nothing but blanks (`mem_trim_iff`), and blanks that are put around a text are
dropped again (`trim_append`). A text without blanks is left as it is, and nothing is left of a text
that is blank.
-/

set_option autoImplicit false

namespace Gatehouse.Text

/-- The text has nothing but blanks. The empty text is one of them. -/
def IsBlankText (s : String) : Prop := ∀ c ∈ s.toList, isBlank c = true

instance (s : String) : Decidable (IsBlankText s) := List.decidableBAll _ s.toList

/-! ## 1. Lists of characters -/

section Lists

variable {cs front back : List Char} {c : Char}

/-- What is no blank is not dropped at the front. -/
theorem mem_trimLeft_iff (hc : isBlank c = false) : c ∈ trimLeft cs ↔ c ∈ cs := by
  have hfront : c ∉ cs.takeWhile isBlank := by
    intro hmem
    rw [List.all_eq_true.1 List.all_takeWhile c hmem] at hc
    cases hc
  have hsplit : cs.takeWhile isBlank ++ trimLeft cs = cs := List.takeWhile_append_dropWhile
  conv => rhs; rw [← hsplit]
  rw [List.mem_append, or_iff_right hfront]

/-- Nothing but blanks is dropped. This holds of a character wherever it stands in the text. -/
theorem mem_trim_iff (hc : isBlank c = false) : c ∈ trim cs ↔ c ∈ cs := by
  rw [trim, List.mem_reverse, mem_trimLeft_iff hc, List.mem_reverse, mem_trimLeft_iff hc]

/-- And nothing is added. -/
theorem mem_of_mem_trim (h : c ∈ trim cs) : c ∈ cs := by
  rw [trim, List.mem_reverse] at h
  have hback := (List.dropWhile_sublist isBlank).mem h
  exact (List.dropWhile_sublist isBlank).mem (List.mem_reverse.1 hback)

theorem trimLeft_append (hfront : ∀ c ∈ front, isBlank c = true) :
    trimLeft (front ++ cs) = trimLeft cs := List.dropWhile_append_of_pos hfront

theorem trimLeft_eq_nil_iff : trimLeft cs = [] ↔ ∀ c ∈ cs, isBlank c = true :=
  List.dropWhile_eq_nil_iff

theorem trimLeft_of_not_blank (h : ∀ c ∈ cs, isBlank c = false) : trimLeft cs = cs := by
  cases cs with
  | nil => rfl
  | cons c cs =>
    rw [trimLeft, List.dropWhile_cons, h c List.mem_cons_self, if_neg Bool.false_ne_true]

/-- Blanks around a text are dropped. -/
theorem trim_append (hfront : ∀ c ∈ front, isBlank c = true)
    (hback : ∀ c ∈ back, isBlank c = true) : trim (front ++ cs ++ back) = trim cs := by
  have hback' : ∀ c ∈ back.reverse, isBlank c = true := fun c hc => hback c (List.mem_reverse.1 hc)
  rw [trim, trim, List.append_assoc, trimLeft_append hfront]
  cases hcs : trimLeft cs with
  | nil =>
    -- here the text in the middle is blank too, and everything is dropped from the left
    have hright : trimLeft (cs ++ back) = trimLeft back :=
      trimLeft_append (trimLeft_eq_nil_iff.1 hcs)
    rw [hright, trimLeft_eq_nil_iff.2 hback]
  | cons c rest =>
    have hright : trimLeft (cs ++ back) = c :: rest ++ back := by
      rw [trimLeft, List.dropWhile_append, ← trimLeft, hcs]
      rfl
    rw [hright, List.reverse_append, trimLeft_append hback']

theorem trim_of_not_blank (h : ∀ c ∈ cs, isBlank c = false) : trim cs = cs := by
  have hreverse : ∀ c ∈ cs.reverse, isBlank c = false := fun c hc => h c (List.mem_reverse.1 hc)
  rw [trim, trimLeft_of_not_blank h, trimLeft_of_not_blank hreverse, List.reverse_reverse]

theorem trim_eq_nil (h : ∀ c ∈ cs, isBlank c = true) : trim cs = [] := by
  rw [trim, trimLeft_eq_nil_iff.2 h]
  rfl

end Lists

/-! ## 2. Strings -/

theorem IsBlankText.notMem {s : String} {c : Char} (h : IsBlankText s) (hc : isBlank c = false) :
    c ∉ s.toList := by
  intro hmem
  rw [h c hmem] at hc
  cases hc

/-- Blanks around a text that has none are dropped, and the text is what is left. -/
theorem trimmed_append {front s back : String} (hfront : IsBlankText front)
    (hback : IsBlankText back) (hs : ∀ c ∈ s.toList, isBlank c = false) :
    trimmed (front ++ s ++ back) = s := by
  rw [trimmed, String.toList_append, String.toList_append, trim_append hfront hback,
    trim_of_not_blank hs, String.ofList_toList]

theorem trimmed_eq_empty {s : String} (h : IsBlankText s) : trimmed s = "" := by
  rw [trimmed, trim_eq_nil h, String.ofList_nil]

end Gatehouse.Text
