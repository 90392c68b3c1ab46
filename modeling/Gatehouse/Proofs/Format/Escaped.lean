import Gatehouse.Format.Escaped
import Gatehouse.Proofs.Text.Pattern

/-!
The grammar of escaped strings: plain characters, which are neither a double quote nor a backslash,
and pairs of a backslash and another character, which is no line feed. The test reads a text from
the left and accepts it exactly when it is made of these (`escapesQuotes_iff`); as a regular pattern
the grammar is `escapedPattern`.

What the grammar is for is said by `readQuoted`, which reads a configuration file from behind an
opening quote. It goes one character at a time and only remembers whether a backslash has just been
read, so it knows nothing of pairs. That it is between two pairs again whenever one has been read is
the step of both directions: an escaped text brings it to the quote behind the text
(`Escaped.stopsAfter`), and a text that brings it there is escaped, line feeds apart
(`escaped_of_stopsAfter`).
-/

set_option autoImplicit false

namespace Gatehouse.Format

open Gatehouse.Text

/-! ## 1. The grammar -/

/-- A text that is made of plain characters and of escaped ones. A backslash at the end of a text
escapes nothing, so it is not made of them. -/
inductive Escaped : List Char → Prop
  | nil : Escaped []
  | plain {c : Char} {cs : List Char} (hquote : c ≠ '"') (hbackslash : c ≠ '\\')
      (h : Escaped cs) : Escaped (c :: cs)
  | escape {c : Char} {cs : List Char} (hfeed : c ≠ '\n') (h : Escaped cs) :
      Escaped ('\\' :: c :: cs)

/-- What is read neither as a lone backslash nor as a pair does not begin with a backslash. -/
theorem ne_backslash {c : Char} {cs : List Char} (hlone : c = '\\' → cs = [] → False)
    (hpair : ∀ d ds, c = '\\' → cs = d :: ds → False) : c ≠ '\\' := by
  intro hc
  cases cs with
  | nil => exact hlone hc rfl
  | cons d ds => exact hpair d ds hc rfl

/-- The test reads a text in just this way, and its recursion gives the cases. -/
theorem escapesQuotes_iff {cs : List Char} : escapesQuotes cs = true ↔ Escaped cs := by
  fun_induction escapesQuotes cs with
  | case1 => exact ⟨fun _ => .nil, fun _ => rfl⟩
  | case2 =>
    -- the last backslash escapes nothing, and is not plain
    refine ⟨nofun, fun h => ?_⟩
    cases h with
    | plain _ hbackslash _ => exact absurd rfl hbackslash
  | case3 c cs ih =>
    rw [Bool.and_eq_true, bne_iff_ne, ih]
    refine ⟨fun h => .escape h.1 h.2, fun h => ?_⟩
    cases h with
    | plain _ hbackslash _ => exact absurd rfl hbackslash
    | escape hfeed h => exact ⟨hfeed, h⟩
  | case4 c cs hlone hpair ih =>
    have hbackslash : c ≠ '\\' := ne_backslash hlone hpair
    rw [Bool.and_eq_true, bne_iff_ne, ih]
    refine ⟨fun h => .plain h.1 hbackslash h.2, fun h => ?_⟩
    cases h with
    | plain hquote _ h => exact ⟨hquote, h⟩
    | escape => exact absurd rfl hbackslash

theorem isEscaped_iff {s : String} : isEscaped s = true ↔ Escaped s.toList := escapesQuotes_iff

instance (cs : List Char) : Decidable (Escaped cs) := decidable_of_iff _ escapesQuotes_iff

example : Escaped ['\\', '"'] ∧ ¬Escaped ['"'] ∧ ¬Escaped ['\\'] := by decide

/-- Escaped texts can be put together, since each of them ends between two parts. -/
theorem Escaped.append {as bs : List Char} (ha : Escaped as) (hb : Escaped bs) :
    Escaped (as ++ bs) := by
  induction ha with
  | nil => exact hb
  | plain hquote hbackslash _ ih => exact .plain hquote hbackslash ih
  | escape hfeed _ ih => exact .escape hfeed ih

/-! ## 2. The pattern -/

/-- A plain character, or a backslash and a character that may come after it. -/
def escapedPart : Pattern :=
  .alt (.one (.outside ['"', '\\'])) (.seq (.one (.among ['\\'])) (.one (.outside ['\n'])))

/-- The grammar as a regular pattern. -/
def escapedPattern : Pattern := .star escapedPart

/-- Either alternative of the pattern is one step of the grammar. -/
theorem escaped_of_matches_part {part : List Char} (h : Matches escapedPart part) :
    Escaped part := by
  rw [escapedPart, matches_alt_iff, matches_one_iff, matches_one_seq_iff] at h
  rcases h with ⟨c, hset, rfl⟩ | ⟨c, rest, rfl, hset, hrest⟩
  · have hplain : c ≠ '"' ∧ c ≠ '\\' := by simpa [CharSet.has] using hset
    exact .plain hplain.1 hplain.2 .nil
  · obtain rfl : c = '\\' := by simpa [CharSet.has] using hset
    obtain ⟨d, hd, rfl⟩ := matches_one_iff.1 hrest
    exact .escape (by simpa [CharSet.has] using hd) .nil

/-- So the pattern and the grammar have the same texts. The source tests with a pattern; the grammar
has the induction that the proofs about the reader need. -/
theorem matches_escapedPattern_iff {cs : List Char} : Matches escapedPattern cs ↔ Escaped cs := by
  constructor
  · -- The starred pattern matches the joins of its parts, and the texts are closed under joining.
    rw [escapedPattern, matches_star_iff]
    rintro ⟨parts, hparts, rfl⟩
    induction parts with
    | nil => exact .nil
    | cons part parts ih =>
      obtain ⟨hpart, hrest⟩ := List.forall_mem_cons.1 hparts
      exact (escaped_of_matches_part hpart).append (ih hrest)
  · intro h
    induction h with
    | nil => exact .starNil
    | plain hquote hbackslash _ ih =>
      exact .starMore (.left (.one (by simp [CharSet.has, hquote, hbackslash]))) ih
    | escape hfeed _ ih =>
      refine .starMore (.right (.seq (.one ?_) (.one ?_))) ih
      · simp [CharSet.has]
      · simp [CharSet.has, hfeed]

/-! ## 3. The reader -/

/-- What is read up to the first double quote that is not skipped, and what stands behind that
quote. After a backslash that is not skipped itself, one character is skipped; whether the first
character is one to skip is given. -/
def readQuoted (skip : Bool) : List Char → Option (List Char × List Char)
  | [] => none
  | c :: cs =>
    if c = '"' ∧ skip = false then some ([], cs)
    else (readQuoted (c == '\\' && !skip) cs).map fun r => (c :: r.1, r.2)

/-- With a quote behind the text, the reader stops at that quote and has read the text and nothing
else, whatever stands behind the quote. `skip` says that the reader has just passed a backslash. -/
def StopsAfter (skip : Bool) (cs : List Char) : Prop :=
  ∀ rest, readQuoted skip (cs ++ '"' :: rest) = some (cs, rest)

/-- Behind nothing the quote is at the front, and the reader stops at it. -/
theorem stopsAfter_nil : StopsAfter false [] := fun _ => rfl

/-- A quote that is to be skipped is not where the reader stops. -/
theorem not_stopsAfter_nil : ¬StopsAfter true [] := by
  intro h
  have hread := h []
  simp [readQuoted] at hread

/-- One more character must not be where the reader stops, and decides whether the next one is
skipped. -/
theorem stopsAfter_cons_iff {skip : Bool} {c : Char} {cs : List Char} :
    StopsAfter skip (c :: cs) ↔
      ¬(c = '"' ∧ skip = false) ∧ StopsAfter (c == '\\' && !skip) cs := by
  by_cases hstop : c = '"' ∧ skip = false
  · -- it stops too early, with the text unread
    refine iff_of_false (fun h => ?_) fun h => h.1 hstop
    have hread := h []
    rw [List.cons_append, readQuoted, if_pos hstop] at hread
    simp at hread
  · simp [StopsAfter, readQuoted, hstop, Option.map_eq_some_iff]

/-- An escaped text brings the reader to the quote behind the text. The induction is on the grammar;
a pair takes two steps. -/
theorem Escaped.stopsAfter {cs : List Char} (h : Escaped cs) : StopsAfter false cs := by
  induction h with
  | nil => exact stopsAfter_nil
  | plain hquote hbackslash _ ih =>
    rw [stopsAfter_cons_iff, beq_false_of_ne hbackslash]
    exact ⟨fun hstop => hquote hstop.1, ih⟩
  | escape _ _ ih =>
    -- what is skipped may be a quote or a backslash
    rw [stopsAfter_cons_iff, stopsAfter_cons_iff]
    exact ⟨by simp, by simp, by simpa using ih⟩

/-- A text that brings the reader there is escaped. The reader would take a line feed after a
backslash, which the grammar does not. -/
theorem escaped_of_stopsAfter {cs : List Char} (hfeed : '\n' ∉ cs) (h : StopsAfter false cs) :
    Escaped cs := by
  fun_induction escapesQuotes cs with
  | case1 => exact .nil
  | case2 => exact absurd (stopsAfter_cons_iff.1 h).2 not_stopsAfter_nil
  | case3 c cs ih =>
    have htail : '\n' ∉ c :: cs := List.not_mem_of_not_mem_cons hfeed
    obtain ⟨hc, hcs⟩ := not_or.1 (mt List.mem_cons.2 htail)
    -- the reader skips `c` and goes on as it began
    have hrest := (stopsAfter_cons_iff.1 (stopsAfter_cons_iff.1 h).2).2
    exact .escape (Ne.symm hc) (ih hcs (by simpa using hrest))
  | case4 c cs hlone hpair ih =>
    have hbackslash : c ≠ '\\' := ne_backslash hlone hpair
    rw [stopsAfter_cons_iff, beq_false_of_ne hbackslash] at h
    refine .plain (fun hquote => h.1 ⟨hquote, rfl⟩) hbackslash (ih ?_ h.2)
    exact List.not_mem_of_not_mem_cons hfeed

/-- The reader on strings, in which the theorem is stated. The rest behind the quote is any
string. -/
theorem stopsAfter_toList_iff {s : String} : StopsAfter false s.toList ↔
    ∀ rest : String,
      readQuoted false (s ++ "\"" ++ rest).toList = some (s.toList, rest.toList) := by
  have hchars : ∀ rest : String,
      (s ++ "\"" ++ rest).toList = s.toList ++ '"' :: rest.toList := by simp
  constructor
  · intro h rest
    rw [hchars]
    exact h rest.toList
  · intro h rest
    have hread := h (.ofList rest)
    rwa [hchars, String.toList_ofList] at hread

/-- An accepted text cannot break out of its quotes. It has the pattern, as no other text has, and a
reader that has passed an opening quote stops at the quote behind the text, whatever stands behind
that quote. A text without a line feed with which a reader always does so is accepted, and accepted
texts make an accepted text. -/
theorem escaped_stays_in_quotes (s t : String) :
    (isEscaped s = true ↔ Matches escapedPattern s.toList) ∧
    (isEscaped s = true → ∀ rest : String,
      readQuoted false (s ++ "\"" ++ rest).toList = some (s.toList, rest.toList)) ∧
    ('\n' ∉ s.toList →
      (∀ rest : String,
        readQuoted false (s ++ "\"" ++ rest).toList = some (s.toList, rest.toList)) →
      isEscaped s = true) ∧
    (isEscaped s = true → isEscaped t = true → isEscaped (s ++ t) = true) := by
  rw [← stopsAfter_toList_iff, matches_escapedPattern_iff, isEscaped_iff, isEscaped_iff,
    isEscaped_iff, String.toList_append]
  exact ⟨Iff.rfl, Escaped.stopsAfter, escaped_of_stopsAfter, Escaped.append⟩

/-- A text that ends in an escaped backslash, after an escaped quote. -/
def quotation : String := "say \\\"hi\\\\"

/-- It stays in its quotes, alone and twice in a row. The quotes that it holds are all escaped. -/
theorem quotation_stays_in_quotes :
    '\n' ∉ quotation.toList ∧ isEscaped quotation = true ∧
      (∀ rest : String, readQuoted false (quotation ++ "\"" ++ rest).toList =
        some (quotation.toList, rest.toList)) ∧
      isEscaped (quotation ++ quotation) = true := by
  obtain ⟨-, hstops, haccepted, happend⟩ := escaped_stays_in_quotes quotation quotation
  have hfeed : '\n' ∉ quotation.toList := by decide
  have hread := hstops (by decide)
  have hescaped := haccepted hfeed hread
  exact ⟨hfeed, hescaped, hread, happend hescaped hescaped⟩

-- an escaped line feed keeps the reader inside all the same, but is not accepted
example : StopsAfter false ['\\', '\n'] ∧ isEscaped "\\\n" = false := by
  refine ⟨?_, by decide⟩
  rw [stopsAfter_cons_iff, stopsAfter_cons_iff]
  exact ⟨by decide, by decide, stopsAfter_nil⟩

end Gatehouse.Format
