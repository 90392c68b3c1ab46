import Gatehouse.Text.Blank
import Gatehouse.Text.DecimalDigit

/-!
Regular patterns over characters, and the test whether a whole text has a pattern. Every format of
this library whose rule is "a text of this shape" is a value of `Pattern`, so that the rule can be
read off the value.

`Matches` says which texts have a pattern, and `Pattern.accepts` decides it. The decision keeps a
list of the patterns that the rest of the text may still have: one character turns each of them
into its *partial rests*, and the text is accepted when one of the patterns left at the end has the
empty text. `accepts_iff` says that the decision is right; its two halves are `matches_nil_iff` and
`matches_cons_iff`, one for the end of the text and one for a step.
-/

set_option autoImplicit false

namespace Gatehouse.Text

/-! ## 1. Sets of characters -/

/-- A set of characters. -/
inductive CharSet
  | between (first last : Char)
  | among (cs : List Char)
  | outside (cs : List Char)
  | decimalDigit
  | blank
  | nonBlank
  | either (a b : CharSet)
  deriving DecidableEq, Repr

/-- The set holds the character. -/
def CharSet.has : CharSet → Char → Bool
  | .between first last, c => decide (first ≤ c) && decide (c ≤ last)
  | .among cs, c => cs.contains c
  | .outside cs, c => !cs.contains c
  | .decimalDigit, c => isDecimalDigit c
  | .blank, c => isBlank c
  | .nonBlank, c => !isBlank c
  | .either a b, c => a.has c || b.has c

/-! ## 2. Patterns and the texts that have them -/

/-- A regular pattern. -/
inductive Pattern
  | never
  | nothing
  | one (set : CharSet)
  | seq (first second : Pattern)
  | alt (left right : Pattern)
  | star (body : Pattern)
  deriving DecidableEq, Repr

/-- The text has the pattern, as a whole. -/
inductive Matches : Pattern → List Char → Prop
  | nothing : Matches .nothing []
  | one {set : CharSet} {c : Char} : set.has c = true → Matches (.one set) [c]
  | seq {p q : Pattern} {as bs : List Char} :
      Matches p as → Matches q bs → Matches (.seq p q) (as ++ bs)
  | left {p q : Pattern} {cs : List Char} : Matches p cs → Matches (.alt p q) cs
  | right {p q : Pattern} {cs : List Char} : Matches q cs → Matches (.alt p q) cs
  | starNil {p : Pattern} : Matches (.star p) []
  | starMore {p : Pattern} {as bs : List Char} :
      Matches p as → Matches (.star p) bs → Matches (.star p) (as ++ bs)

namespace Pattern

/-! ## 3. Derived patterns -/

/-- The pattern or the empty text. -/
def opt (p : Pattern) : Pattern := .alt p .nothing

/-- One or more times the pattern. -/
def plus (p : Pattern) : Pattern := .seq p (.star p)

/-- At most `n` times the pattern. -/
def upTo (p : Pattern) : Nat → Pattern
  | 0 => .nothing
  | n + 1 => opt (.seq p (upTo p n))

/-- At least `least` times the pattern, and at most `more` times beyond that. -/
def times (p : Pattern) (more : Nat) : Nat → Pattern
  | 0 => upTo p more
  | least + 1 => .seq p (times p more least)

/-- Exactly this text. -/
def literal (s : String) : Pattern :=
  s.toList.foldr (fun c p => .seq (.one (.among [c])) p) .nothing

/-- One of several patterns. -/
def anyOf (ps : List Pattern) : Pattern := ps.foldr .alt .never

/-- One pattern after the other. -/
def inOrder (ps : List Pattern) : Pattern := ps.foldr .seq .nothing

/-! ## 4. The decision -/

/-- The pattern has the empty text. -/
def nullable : Pattern → Bool
  | .never => false
  | .nothing => true
  | .one _ => false
  | .seq p q => p.nullable && q.nullable
  | .alt p q => p.nullable || q.nullable
  | .star _ => true

/-- The patterns that a text may have after its first character `c`. -/
def rests (c : Char) : Pattern → List Pattern
  | .never => []
  | .nothing => []
  | .one set => if set.has c then [.nothing] else []
  | .seq p q => (p.rests c).map (.seq · q) ++ if p.nullable then q.rests c else []
  | .alt p q => p.rests c ++ q.rests c
  | .star p => (p.rests c).map (.seq · (.star p))

/-- One step for a list of patterns; a pattern is kept once. -/
def advance (ps : List Pattern) (c : Char) : List Pattern :=
  (ps.flatMap (rests c)).eraseDups

/-- The text has the pattern. -/
def accepts (p : Pattern) (cs : List Char) : Bool :=
  (cs.foldl advance [p]).any nullable

/-! ## 5. The decision is right -/

theorem matches_nil_iff {p : Pattern} : Matches p [] ↔ p.nullable = true := by
  constructor
  · intro h
    generalize hcs : ([] : List Char) = cs at h
    induction h with
    | nothing => rfl
    | one _ => cases hcs
    | seq _ _ ihp ihq =>
      obtain ⟨rfl, rfl⟩ := List.append_eq_nil_iff.1 hcs.symm
      simp [nullable, ihp rfl, ihq rfl]
    | left _ ih => simp [nullable, ih hcs]
    | right _ ih => simp [nullable, ih hcs]
    | starNil => rfl
    | starMore _ _ _ _ => rfl
  · intro h
    induction p with
    | never => cases h
    | nothing => exact .nothing
    | one _ => cases h
    | seq p q ihp ihq =>
      simp only [nullable, Bool.and_eq_true] at h
      exact @Matches.seq p q [] [] (ihp h.1) (ihq h.2)
    | alt p q ihp ihq =>
      simp only [nullable, Bool.or_eq_true] at h
      exact h.elim (fun h => .left (ihp h)) (fun h => .right (ihq h))
    | star _ _ => exact .starNil

/-- A match of two patterns in a row that reads a character reads it in the first pattern, or in
the second when the first has the empty text. -/
theorem matches_seq_cons {p q : Pattern} {c : Char} {cs : List Char}
    (h : Matches (.seq p q) (c :: cs)) :
    (∃ as bs, cs = as ++ bs ∧ Matches p (c :: as) ∧ Matches q bs) ∨
      (p.nullable = true ∧ Matches q (c :: cs)) := by
  generalize hcs : c :: cs = text at h
  cases h with
  | @seq _ _ as bs hp hq =>
    cases as with
    | nil => exact .inr ⟨matches_nil_iff.1 hp, by simpa [hcs] using hq⟩
    | cons a as =>
      obtain ⟨rfl, rfl⟩ := List.cons.inj hcs
      exact .inl ⟨as, bs, rfl, hp, hq⟩

/-- A match of a repeated pattern that reads a character reads it in some repetition; the empty
ones before it can be left out. -/
theorem matches_star_cons {p : Pattern} {c : Char} {cs : List Char}
    (h : Matches (.star p) (c :: cs)) :
    ∃ as bs, cs = as ++ bs ∧ Matches p (c :: as) ∧ Matches (.star p) bs := by
  generalize hcs : c :: cs = text at h
  generalize hq : Pattern.star p = q at h
  induction h with
  | nothing | one _ | seq _ _ _ _ | left _ _ | right _ _ => cases hq
  | starNil => cases hcs
  | @starMore q as bs hp hrest _ ih =>
    cases hq
    cases as with
    | nil => exact ih hcs rfl
    | cons a as =>
      obtain ⟨rfl, rfl⟩ := List.cons.inj hcs
      exact ⟨as, bs, rfl, hp, hrest⟩

theorem matches_cons_iff {p : Pattern} {c : Char} {cs : List Char} :
    Matches p (c :: cs) ↔ ∃ q ∈ p.rests c, Matches q cs := by
  constructor
  · intro h
    induction p generalizing cs with
    | never => cases h
    | nothing => cases h
    | one set =>
      cases h with
      | one hset => exact ⟨.nothing, by simp [rests, hset], .nothing⟩
    | seq p q ihp ihq =>
      rcases matches_seq_cons h with ⟨as, bs, rfl, hp, hq⟩ | ⟨hnull, hq⟩
      · obtain ⟨r, hr, hm⟩ := ihp hp
        exact ⟨.seq r q, by simp [rests, hr], .seq hm hq⟩
      · obtain ⟨r, hr, hm⟩ := ihq hq
        exact ⟨r, by simp [rests, hnull, hr], hm⟩
    | alt p q ihp ihq =>
      cases h with
      | left hp =>
        obtain ⟨r, hr, hm⟩ := ihp hp
        exact ⟨r, by simp [rests, hr], hm⟩
      | right hq =>
        obtain ⟨r, hr, hm⟩ := ihq hq
        exact ⟨r, by simp [rests, hr], hm⟩
    | star p ih =>
      obtain ⟨as, bs, rfl, hp, hs⟩ := matches_star_cons h
      obtain ⟨r, hr, hm⟩ := ih hp
      exact ⟨.seq r (.star p), by simp [rests, hr], .seq hm hs⟩
  · rintro ⟨r, hr, hm⟩
    induction p generalizing r cs with
    | never => cases hr
    | nothing => cases hr
    | one set =>
      simp only [rests] at hr
      split at hr
      · rename_i hset
        cases List.mem_singleton.1 hr
        cases hm
        exact .one hset
      · cases hr
    | seq p q ihp ihq =>
      simp only [rests, List.mem_append, List.mem_map] at hr
      rcases hr with ⟨r', hr', rfl⟩ | hr
      · cases hm with
        | seq hp hq => exact Matches.seq (ihp r' hr' hp) hq
      · split at hr
        · rename_i hnull
          exact @Matches.seq p q [] (c :: cs) (matches_nil_iff.2 hnull) (ihq r hr hm)
        · cases hr
    | alt p q ihp ihq =>
      simp only [rests, List.mem_append] at hr
      exact hr.elim (fun hr => .left (ihp r hr hm)) (fun hr => .right (ihq r hr hm))
    | star p ih =>
      simp only [rests, List.mem_map] at hr
      obtain ⟨r', hr', rfl⟩ := hr
      cases hm with
      | seq hp hs => exact Matches.starMore (ih r' hr' hp) hs

/-- The list of patterns kept after reading some text: one of them has the rest of the text exactly
when one of those it began with has the whole. -/
theorem any_nullable_foldl_advance (ps : List Pattern) (cs : List Char) :
    (cs.foldl advance ps).any nullable = true ↔ ∃ p ∈ ps, Matches p cs := by
  induction cs generalizing ps with
  | nil => simp [List.any_eq_true, matches_nil_iff]
  | cons c cs ih =>
    rw [List.foldl_cons, ih]
    simp only [advance, List.mem_eraseDups, List.mem_flatMap, matches_cons_iff]
    constructor
    · rintro ⟨r, ⟨p, hp, hr⟩, hm⟩
      exact ⟨p, hp, r, hr, hm⟩
    · rintro ⟨p, hp, r, hr, hm⟩
      exact ⟨r, ⟨p, hp, hr⟩, hm⟩

theorem accepts_iff {p : Pattern} {cs : List Char} : p.accepts cs = true ↔ Matches p cs := by
  rw [accepts, any_nullable_foldl_advance]
  simp

end Pattern

end Gatehouse.Text
