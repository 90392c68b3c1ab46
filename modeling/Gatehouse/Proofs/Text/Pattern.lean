import Gatehouse.Text.Pattern
import Gatehouse.Text.Split

/-!
Which texts have a pattern.

There is one lemma for each way to make a pattern, and one for each pattern that is made of others,
so that what a format accepts is read off its pattern by rewriting. A repeated pattern is taken
apart into its repetitions (`matches_star_iff`), and where one separator stands between the
repetitions the parts are those that the text is cut into (`matches_separated_iff`).
-/

set_option autoImplicit false

namespace Gatehouse.Text

section Patterns

variable {p q : Pattern} {set : CharSet} {cs : List Char}

/-! ## 1. One pattern -/

theorem not_matches_never : ¬Matches .never cs := nofun

@[simp] theorem matches_nothing_iff : Matches .nothing cs ↔ cs = [] := by
  constructor
  · rintro ⟨⟩
    rfl
  · rintro rfl
    exact .nothing

@[simp] theorem matches_one_iff : Matches (.one set) cs ↔ ∃ c, set.has c = true ∧ cs = [c] := by
  constructor
  · intro h
    cases h with
    | one hset => exact ⟨_, hset, rfl⟩
  · rintro ⟨c, hset, rfl⟩
    exact .one hset

/-- A text with two patterns in a row is made of two texts. Where it is divided is not said, and
there may be several ways. -/
theorem matches_seq_iff :
    Matches (.seq p q) cs ↔ ∃ as bs, cs = as ++ bs ∧ Matches p as ∧ Matches q bs := by
  constructor
  · intro h
    cases h with
    | seq hp hq => exact ⟨_, _, rfl, hp, hq⟩
  · rintro ⟨as, bs, rfl, hp, hq⟩
    exact .seq hp hq

@[simp] theorem matches_alt_iff : Matches (.alt p q) cs ↔ Matches p cs ∨ Matches q cs := by
  constructor
  · intro h
    cases h with
    | left hp => exact .inl hp
    | right hq => exact .inr hq
  · exact fun h => h.elim .left .right

/-- A text with a repeated pattern is made of texts with the pattern. The induction is on how the
text was seen to have it. -/
theorem matches_star_iff :
    Matches (.star p) cs ↔
      ∃ parts : List (List Char), (∀ part ∈ parts, Matches p part) ∧ cs = parts.flatten := by
  constructor
  · intro h
    -- The induction needs the pattern as a variable; every rule but those of the star is void.
    generalize hr : Pattern.star p = r at h
    induction h with
    | nothing | one _ | seq _ _ _ _ | left _ _ | right _ _ => cases hr
    | starNil => exact ⟨[], by simp, rfl⟩
    | @starMore _ as _ hp _ _ ih =>
      cases hr
      obtain ⟨parts, hparts, rfl⟩ := ih rfl
      exact ⟨as :: parts, List.forall_mem_cons.2 ⟨hp, hparts⟩, rfl⟩
  · rintro ⟨parts, hparts, rfl⟩
    induction parts with
    | nil => exact .starNil
    | cons part parts ih =>
      obtain ⟨hpart, hparts⟩ := List.forall_mem_cons.1 hparts
      exact .starMore hpart (ih hparts)

/-! ## 2. Patterns made of others -/

@[simp] theorem matches_opt_iff : Matches (.opt p) cs ↔ Matches p cs ∨ cs = [] := by
  simp [Pattern.opt]

/-- A pattern that begins with one character takes the text apart at its front. -/
theorem matches_one_seq_iff :
    Matches (.seq (.one set) q) cs ↔
      ∃ c rest, cs = c :: rest ∧ set.has c = true ∧ Matches q rest := by
  rw [matches_seq_iff]
  constructor
  · rintro ⟨as, bs, rfl, hone, hq⟩
    obtain ⟨c, hc, rfl⟩ := matches_one_iff.1 hone
    exact ⟨c, bs, rfl, hc, hq⟩
  · rintro ⟨c, rest, rfl, hc, hq⟩
    exact ⟨[c], rest, rfl, .one hc, hq⟩

/-- The same for a text that is known to begin with a character. -/
theorem matches_one_seq_cons_iff {c : Char} {rest : List Char} :
    Matches (.seq (.one set) q) (c :: rest) ↔ set.has c = true ∧ Matches q rest := by
  rw [matches_one_seq_iff]
  constructor
  · rintro ⟨_, _, ⟨⟩, hc, hq⟩
    exact ⟨hc, hq⟩
  · rintro ⟨hc, hq⟩
    exact ⟨c, rest, rfl, hc, hq⟩

/-- A pattern that ends with one character takes the text apart at its end. -/
theorem matches_seq_one_iff :
    Matches (.seq p (.one set)) cs ↔ ∃ front c, cs = front ++ [c] ∧ Matches p front ∧
      set.has c = true := by
  rw [matches_seq_iff]
  constructor
  · rintro ⟨as, bs, rfl, hp, hone⟩
    obtain ⟨c, hc, rfl⟩ := matches_one_iff.1 hone
    exact ⟨as, c, rfl, hp, hc⟩
  · rintro ⟨front, c, rfl, hp, hc⟩
    exact ⟨front, [c], rfl, hp, .one hc⟩

/-- A repeated character: all of the text is of the set. -/
theorem matches_star_one_iff : Matches (.star (.one set)) cs ↔ ∀ c ∈ cs, set.has c = true := by
  rw [matches_star_iff]
  constructor
  · rintro ⟨parts, hparts, rfl⟩ c hc
    obtain ⟨part, hpart, hc⟩ := List.mem_flatten.1 hc
    obtain ⟨d, hd, rfl⟩ := matches_one_iff.1 (hparts part hpart)
    rwa [List.mem_singleton.1 hc]
  · intro h
    -- every character is a part of its own
    refine ⟨cs.map fun c => [c], fun part hpart => ?_, (List.flatMap_singleton' cs).symm⟩
    obtain ⟨c, hc, rfl⟩ := List.mem_map.1 hpart
    exact .one (h c hc)

/-- Once or more, the text is not empty besides. -/
theorem matches_plus_one_iff :
    Matches (.plus (.one set)) cs ↔ cs ≠ [] ∧ ∀ c ∈ cs, set.has c = true := by
  rw [Pattern.plus, matches_one_seq_iff]
  constructor
  · rintro ⟨c, rest, rfl, hc, hrest⟩
    exact ⟨List.cons_ne_nil _ _, List.forall_mem_cons.2 ⟨hc, matches_star_one_iff.1 hrest⟩⟩
  · rintro ⟨hne, hall⟩
    obtain ⟨c, rest, rfl⟩ := List.exists_cons_of_ne_nil hne
    obtain ⟨hc, hrest⟩ := List.forall_mem_cons.1 hall
    exact ⟨c, rest, rfl, hc, matches_star_one_iff.2 hrest⟩

/-- A text with a pattern once or more is made of at least one text with the pattern. -/
theorem matches_plus_iff : Matches (.plus p) cs ↔ ∃ parts : List (List Char), parts ≠ [] ∧
    (∀ part ∈ parts, Matches p part) ∧ cs = parts.flatten := by
  rw [Pattern.plus, matches_seq_iff]
  constructor
  · rintro ⟨first, rest, rfl, hfirst, hrest⟩
    obtain ⟨parts, hparts, rfl⟩ := matches_star_iff.1 hrest
    exact ⟨first :: parts, List.cons_ne_nil _ _, List.forall_mem_cons.2 ⟨hfirst, hparts⟩, rfl⟩
  · rintro ⟨parts, hne, hparts, rfl⟩
    obtain ⟨first, rest, rfl⟩ := List.exists_cons_of_ne_nil hne
    obtain ⟨hfirst, hrest⟩ := List.forall_mem_cons.1 hparts
    exact ⟨first, rest.flatten, rfl, hfirst, matches_star_iff.2 ⟨rest, hrest, rfl⟩⟩

/-- At most so many characters of a set. The bound is on the length, as there is one character to a
repetition. -/
theorem matches_upTo_one_iff {n : Nat} : Matches (.upTo (.one set) n) cs ↔
    cs.length ≤ n ∧ ∀ c ∈ cs, set.has c = true := by
  induction n generalizing cs with
  | zero =>
    rw [Pattern.upTo, matches_nothing_iff, Nat.le_zero, List.length_eq_zero_iff]
    exact ⟨fun h => ⟨h, by simp [h]⟩, And.left⟩
  | succ n ih =>
    rw [Pattern.upTo, matches_opt_iff]
    cases cs with
    | nil => simp
    | cons c cs =>
      rw [matches_one_seq_cons_iff, ih, List.length_cons, List.forall_mem_cons,
        Nat.add_le_add_iff_right, and_left_comm]
      exact or_iff_left (List.cons_ne_nil c cs)

/-- So many characters of a set, and more of them up to a bound. -/
theorem matches_times_one_iff {least more : Nat} : Matches (.times (.one set) more least) cs ↔
    least ≤ cs.length ∧ cs.length ≤ least + more ∧ ∀ c ∈ cs, set.has c = true := by
  induction least generalizing cs with
  | zero =>
    rw [Pattern.times, matches_upTo_one_iff, Nat.zero_add]
    exact (and_iff_right (Nat.zero_le _)).symm
  | succ least ih =>
    rw [Pattern.times]
    cases cs with
    | nil => simp [matches_one_seq_iff]
    | cons c cs =>
      rw [matches_one_seq_cons_iff, ih, List.length_cons, List.forall_mem_cons,
        Nat.add_le_add_iff_right, Nat.add_right_comm, Nat.add_le_add_iff_right, and_left_comm,
        and_left_comm (a := set.has c = true)]

theorem matches_anyOf_iff {ps : List Pattern} :
    Matches (.anyOf ps) cs ↔ ∃ p ∈ ps, Matches p cs := by
  rw [Pattern.anyOf]
  induction ps with
  | nil => exact iff_of_false not_matches_never fun ⟨p, hp, _⟩ => List.not_mem_nil hp
  | cons p ps ih =>
    rw [List.foldr_cons, matches_alt_iff, ih]
    simp

@[simp] theorem matches_literal_iff {s : String} : Matches (.literal s) cs ↔ cs = s.toList := by
  rw [Pattern.literal]
  induction s.toList generalizing cs with
  | nil => exact matches_nothing_iff
  | cons d ds ih =>
    simp only [List.foldr_cons, matches_one_seq_iff, ih]
    simp [CharSet.has]

theorem matches_inOrder_nil : Matches (.inOrder []) cs ↔ cs = [] := matches_nothing_iff

/-- Patterns in order are taken from the front. -/
theorem matches_inOrder_cons {ps : List Pattern} : Matches (.inOrder (p :: ps)) cs ↔
    ∃ as bs, cs = as ++ bs ∧ Matches p as ∧ Matches (.inOrder ps) bs := matches_seq_iff

/-- They can be taken from the end as well, where a destination has its port. -/
theorem matches_inOrder_concat {ps : List Pattern} : Matches (.inOrder (ps ++ [p])) cs ↔
    ∃ as bs, cs = as ++ bs ∧ Matches (.inOrder ps) as ∧ Matches p bs := by
  induction ps generalizing cs with
  | nil =>
    rw [List.nil_append, matches_inOrder_cons]
    simp only [matches_inOrder_nil]
    constructor
    · rintro ⟨bs, _, rfl, hp, rfl⟩
      exact ⟨[], bs, List.append_nil bs, rfl, hp⟩
    · rintro ⟨_, bs, rfl, rfl, hp⟩
      exact ⟨bs, [], (List.append_nil bs).symm, hp, rfl⟩
  -- The text is cut in three; moving the cut is associativity of append.
  | cons q ps ih =>
    rw [List.cons_append, matches_inOrder_cons]
    simp only [ih, matches_inOrder_cons]
    constructor
    · rintro ⟨first, _, rfl, hq, as, bs, rfl, has, hp⟩
      exact ⟨first ++ as, bs, (List.append_assoc ..).symm, ⟨first, as, rfl, hq, has⟩, hp⟩
    · rintro ⟨_, bs, rfl, ⟨first, as, rfl, hq, has⟩, hp⟩
      exact ⟨first, as ++ bs, List.append_assoc .., hq, as, bs, rfl, has, hp⟩

end Patterns

/-! ## 3. Parts between separators -/

section Parts

variable {sep : Char}

theorem cutAll_of_notMem {part : List Char} (h : sep ∉ part) : cutAll sep part = [part] := by
  induction part with
  | nil => rfl
  | cons c part ih =>
    obtain ⟨hc, hpart⟩ := not_or.1 (mt List.mem_cons.2 h)
    rw [cutAll, if_neg (Ne.symm hc), ih hpart]

theorem cutAll_append {part : List Char} (h : sep ∉ part) (rest : List Char) :
    cutAll sep (part ++ sep :: rest) = part :: cutAll sep rest := by
  induction part with
  | nil => simp [cutAll]
  | cons c part ih =>
    obtain ⟨hc, hpart⟩ := not_or.1 (mt List.mem_cons.2 h)
    rw [List.cons_append, cutAll, if_neg (Ne.symm hc), ih hpart]

/-- Parts that do not hold the separator are the parts of the text that they make. -/
theorem cutAll_join {first : List Char} {parts : List (List Char)} (hfirst : sep ∉ first)
    (hparts : ∀ part ∈ parts, sep ∉ part) :
    cutAll sep (first ++ parts.flatMap (sep :: ·)) = first :: parts := by
  induction parts generalizing first with
  | nil => simpa using cutAll_of_notMem hfirst
  | cons part parts ih =>
    obtain ⟨hpart, hrest⟩ := List.forall_mem_cons.1 hparts
    rw [List.flatMap_cons, List.cons_append, cutAll_append hfirst, ih hpart hrest]

/-- A text is made of its parts. With `cutAll_join` the two are inverse to each other. -/
theorem exists_cutAll_eq (sep : Char) (cs : List Char) :
    ∃ first parts, cutAll sep cs = first :: parts ∧ cs = first ++ parts.flatMap (sep :: ·) := by
  induction cs with
  | nil => exact ⟨[], [], rfl, rfl⟩
  | cons c cs ih =>
    obtain ⟨first, parts, hcut, hcs⟩ := ih
    by_cases hc : c = sep
    · refine ⟨[], first :: parts, by rw [cutAll, if_pos hc, hcut], ?_⟩
      rw [List.nil_append, List.flatMap_cons, hc, List.cons_append, ← hcs]
    · refine ⟨c :: first, parts, by rw [cutAll, if_neg hc, hcut], ?_⟩
      rw [List.cons_append, ← hcs]

/-- Texts that do not hold the separator are the parts of the text that they make. -/
theorem splitAll_intercalate {items : List String} (hne : items ≠ [])
    (hitems : ∀ item ∈ items, sep ∉ item.toList) :
    splitAll sep ((String.singleton sep).intercalate items) = items := by
  obtain ⟨first, rest, rfl⟩ := List.exists_cons_of_ne_nil hne
  have hjoin : ((String.singleton sep).intercalate (first :: rest)).toList =
      first.toList ++ (rest.map String.toList).flatMap (sep :: ·) := by
    clear hne hitems
    induction rest generalizing first with
    | nil => simp
    | cons second rest ih => simp [String.intercalate_cons_cons, ih]
  obtain ⟨hfirst, hrest⟩ := List.forall_mem_cons.1 hitems
  rw [splitAll, hjoin, cutAll_join hfirst (List.forall_mem_map.2 hrest)]
  simp

variable {p : Pattern} {cs : List Char}

/-- A text with a repeated pattern after separators is made of texts with the pattern. -/
theorem matches_star_separated_iff : Matches (.star (.seq (.one (.among [sep])) p)) cs ↔
    ∃ parts : List (List Char), (∀ part ∈ parts, Matches p part) ∧
      cs = parts.flatMap (sep :: ·) := by
  rw [matches_star_iff]
  constructor
  · rintro ⟨pieces, hpieces, rfl⟩
    induction pieces with
    | nil => exact ⟨[], by simp, rfl⟩
    | cons piece pieces ih =>
      obtain ⟨hpiece, hrest⟩ := List.forall_mem_cons.1 hpieces
      obtain ⟨parts, hparts, heq⟩ := ih hrest
      -- Every piece is the separator and a part behind it.
      obtain ⟨c, part, rfl, hc, hpart⟩ := matches_one_seq_iff.1 hpiece
      obtain rfl : c = sep := by simpa [CharSet.has] using hc
      refine ⟨part :: parts, List.forall_mem_cons.2 ⟨hpart, hparts⟩, ?_⟩
      rw [List.flatten_cons, List.flatMap_cons, heq]
  · rintro ⟨parts, hparts, rfl⟩
    refine ⟨parts.map (sep :: ·), fun piece hpiece => ?_, rfl⟩
    obtain ⟨part, hmem, rfl⟩ := List.mem_map.1 hpiece
    exact matches_one_seq_iff.2 ⟨sep, part, rfl, by simp [CharSet.has], hparts part hmem⟩

/-- When texts with a pattern do not hold the separator, a text with the pattern and more of them
after separators is one of which every part has the pattern. Without the condition a separator
within a part would be taken for one between two. -/
theorem matches_separated_iff (hsep : ∀ part, Matches p part → sep ∉ part) :
    Matches (.seq p (.star (.seq (.one (.among [sep])) p))) cs ↔
      ∀ part ∈ cutAll sep cs, Matches p part := by
  constructor
  · intro h
    obtain ⟨first, tail, rfl, hfirst, htail⟩ := matches_seq_iff.1 h
    obtain ⟨parts, hparts, rfl⟩ := matches_star_separated_iff.1 htail
    -- a text is cut into parts in one way
    rw [cutAll_join (hsep _ hfirst) fun part hmem => hsep _ (hparts part hmem)]
    exact List.forall_mem_cons.2 ⟨hfirst, hparts⟩
  · intro h
    obtain ⟨first, parts, hcut, hcs⟩ := exists_cutAll_eq sep cs
    rw [hcut] at h
    obtain ⟨hfirst, hparts⟩ := List.forall_mem_cons.1 h
    -- here the parts make the text, whether or not they hold the separator
    rw [hcs]
    exact .seq hfirst (matches_star_separated_iff.2 ⟨parts, hparts, rfl⟩)

end Parts

end Gatehouse.Text
