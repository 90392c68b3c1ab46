import Gatehouse.Proofs.Format.DnsName
import Gatehouse.Proofs.Format.Listed
import Gatehouse.Proofs.Format.Quantity
import Gatehouse.Validation.Basic
import Gatehouse.Validation.Features
import Gatehouse.Wire
import Mathlib.Data.List.Induction
import Mathlib.Data.List.Nodup

/-!
What the checks that objects share accept. A check accepts a value when it gives no errors, and each
is given the property of the value that this means. A list in which every item has to have a
property, and to differ from the items before it, is accepted when all items have the property and
no two are the same (`checkEach_eq_nil_iff_nodup`); the check of an item may rely on the property of
the items before it, for with a wrong item before it the list is refused anyway.
-/

set_option autoImplicit false

universe u v

namespace Gatehouse.Validation

open Format

/-! ## 1. Lists -/

section Lists

variable {α : Type u} {β : Type v} {check : List α → Nat → α → List FieldError}

/-- Lists are checked from the left, and what has been checked counts as earlier for the rest. -/
theorem checkEach_append (earlier xs ys : List α) :
    checkEach check earlier (xs ++ ys) =
      checkEach check earlier xs ++ checkEach check (earlier ++ xs) ys := by
  induction xs generalizing earlier with
  | nil => simp [checkEach]
  | cons x xs ih => simp [checkEach, ih]

/-- The errors of a list are those of its items, each checked with the items before it. -/
theorem mem_checkEach_iff {e : FieldError} {earlier items : List α} :
    e ∈ checkEach check earlier items ↔ ∃ before x after, items = before ++ x :: after ∧
      e ∈ check (earlier ++ before) (earlier ++ before).length x := by
  induction items using List.reverseRecOn with
  | nil => simp [checkEach]
  | append_singleton xs y ih =>
    rw [checkEach_append, List.mem_append, ih, checkEach, checkEach, List.append_nil]
    constructor
    · intro h
      rcases h with ⟨before, x, after, rfl, hx⟩ | hy
      · exact ⟨before, x, after ++ [y], by simp, hx⟩
      · exact ⟨xs, y, [], rfl, hy⟩
    · rintro ⟨before, x, after, heq, hx⟩
      -- the item is the last one, or stands among the others
      rcases List.eq_nil_or_concat' after with rfl | ⟨others, z, rfl⟩
      · obtain ⟨rfl, hlast⟩ := List.append_inj' heq rfl
        rw [← List.singleton_inj.1 hlast] at hx
        exact .inr hx
      · rw [← List.cons_append, ← List.append_assoc] at heq
        exact .inl ⟨before, x, others, List.append_inj_left' heq rfl, hx⟩

/-- Of a list with which nothing is wrong, every item passes the check. -/
theorem exists_of_checkEach {items : List α} (h : checkEach check [] items = []) {x : α}
    (hx : x ∈ items) : ∃ earlier i, check earlier i x = [] := by
  obtain ⟨before, after, heq⟩ := List.append_of_mem hx
  exact ⟨_, _, checkEach_eq_nil_iff.1 h before x after heq⟩

/-- A list of which every item has to have a property, and to agree with the items before it. The
induction goes from the left, as the check does, so the items before one are known to have the
property. -/
theorem checkEach_eq_nil_iff_pairwise {P : α → Prop} {R : α → α → Prop} {items : List α}
    (hcheck : ∀ earlier i x, (∀ y ∈ earlier, P y) →
      (check earlier i x = [] ↔ P x ∧ ∀ y ∈ earlier, R y x)) :
    checkEach check [] items = [] ↔ (∀ x ∈ items, P x) ∧ items.Pairwise R := by
  induction items using List.reverseRecOn with
  | nil => simp [checkEach]
  | append_singleton xs x ih =>
    -- the last item is checked against all others, which have the property by induction
    rw [checkEach_append, List.append_eq_nil_iff, ih, List.nil_append, List.forall_mem_append,
      List.forall_mem_singleton, List.pairwise_append, checkEach, checkEach, List.append_nil]
    simp only [List.forall_mem_singleton, List.pairwise_singleton, true_and]
    constructor
    · rintro ⟨⟨hall, hpairs⟩, hx⟩
      obtain ⟨hP, hagree⟩ := (hcheck xs _ x hall).1 hx
      exact ⟨⟨hall, hP⟩, hpairs, hagree⟩
    · rintro ⟨⟨hall, hP⟩, hpairs, hagree⟩
      exact ⟨⟨hall, hpairs⟩, (hcheck xs _ x hall).2 ⟨hP, hagree⟩⟩

/-- A list of which every item has to have a property, and a value that no item before it has. -/
theorem checkEach_eq_nil_iff_nodup {P : α → Prop} {valueOf : α → β} {items : List α}
    (hcheck : ∀ earlier i x, (∀ y ∈ earlier, P y) →
      (check earlier i x = [] ↔ P x ∧ valueOf x ∉ earlier.map valueOf)) :
    checkEach check [] items = [] ↔ (∀ x ∈ items, P x) ∧ (items.map valueOf).Nodup := by
  rw [List.Nodup, List.pairwise_map]
  refine checkEach_eq_nil_iff_pairwise fun earlier i x hall => ?_
  simp only [hcheck earlier i x hall, List.mem_map, not_exists, not_and]

/-- A list of which the items are checked one by one, without a look at each other. -/
theorem checkEach_eq_nil_iff_forall {P : α → Prop} {items : List α}
    (hcheck : ∀ earlier i x, check earlier i x = [] ↔ P x) :
    checkEach check [] items = [] ↔ ∀ x ∈ items, P x := by
  rw [checkEach_eq_nil_iff]
  simp only [hcheck]
  constructor
  · intro h x hx
    obtain ⟨before, after, heq⟩ := List.append_of_mem hx
    exact h before x after heq
  · rintro h before x after rfl
    exact h x (by simp)

end Lists

/-! ## 2. Single values -/

/-- One error when a condition fails. Most checks of single values are of this form or the next. -/
theorem ite_nil_eq_nil_iff {p : Prop} [Decidable p] {e : FieldError} :
    (if p then [] else [e]) = [] ↔ p := by
  split <;> simp [*]

theorem ite_singleton_eq_nil_iff {p : Prop} [Decidable p] {e : FieldError} :
    (if p then [e] else []) = [] ↔ ¬p := by
  split <;> simp [*]

/-- A snippet is written only where snippets are switched on. What is in it is not looked at. -/
def SnippetOk (f : Features) (snippet : String) : Prop :=
  snippet = "" ∨ f.snippetsEnabled = true

/-- A time limit is a duration, or is left open, which the empty text does. -/
def TimeLimitOk (value : String) : Prop := value = "" ∨ IsTime value

section Values

variable {path : Path} {value : String} {complaints : List String}

theorem invalidTexts_eq_nil_iff : invalidTexts path value complaints = [] ↔ complaints = [] :=
  List.map_eq_nil_iff

/-- A check by a format accepts what has the format. -/
theorem labelErrors_eq_nil_iff : labelErrors path value = [] ↔ IsLabel value := by
  rw [labelErrors]
  split
  · rename_i hempty
    have hvalue : value = "" := by simpa using hempty
    simpa using fun h : IsLabel value => h.ne_empty hvalue
  · rw [invalidTexts_eq_nil_iff, labelComplaints_eq_nil_iff]

/-- A host has to be there, and a subdomain always is. -/
theorem hostErrors_eq_nil_iff : hostErrors path value = [] ↔ IsSubdomain value := by
  rw [hostErrors]
  split
  · rename_i hempty
    have hvalue : value = "" := by simpa using hempty
    simpa using fun h : IsSubdomain value => h.ne_empty hvalue
  · rw [invalidTexts_eq_nil_iff, subdomainComplaints_eq_nil_iff]

theorem optionalSubdomainErrors_eq_nil_iff {shown : String} :
    (if value.isEmpty then [] else invalidTexts path shown (subdomainComplaints value)) = [] ↔
      value = "" ∨ IsSubdomain value := by
  by_cases hempty : value = ""
  · simp [hempty]
  · simp [hempty, invalidTexts_eq_nil_iff, subdomainComplaints_eq_nil_iff]

/-- The bounds of a port are those of its range, and are both allowed. -/
theorem portErrors_eq_nil_iff {port : Int} :
    portErrors path port = [] ↔ 1 ≤ port ∧ port ≤ 65535 := by
  rw [portErrors, ite_nil_eq_nil_iff, isPort_eq_true_iff]

theorem timeErrors_eq_nil_iff : timeErrors path value = [] ↔ TimeLimitOk value := by
  rw [timeErrors, ite_nil_eq_nil_iff, Bool.or_eq_true, String.isEmpty_iff, isTime_iff, TimeLimitOk]

/-- A number that is left open is not negative. -/
theorem nonNegativeErrors_eq_nil_iff {n? : Option Int} :
    nonNegativeErrors path n? = [] ↔ ∀ n, n? = some n → 0 ≤ n := by
  cases n? with
  | none => simp [nonNegativeErrors]
  | some n => simp [nonNegativeErrors]

theorem nonNegativeErrors_map_eq_nil_iff {n? : Option Signed32} :
    nonNegativeErrors path (n?.map (·.val)) = [] ↔ ∀ n, n? = some n → 0 ≤ n.val := by
  rw [nonNegativeErrors_eq_nil_iff]
  cases n? with
  | none => simp
  | some n => simp

theorem snippetErrors_eq_nil_iff {enabled : Bool} :
    snippetErrors enabled path value = [] ↔ value = "" ∨ enabled = true := by
  rw [snippetErrors]
  cases enabled <;> simp

/-- Who has a snippet without an error has the feature for it. -/
theorem enabled_of_snippetErrors {enabled : Bool} (h : snippetErrors enabled path value = [])
    (hne : value ≠ "") : enabled = true :=
  (snippetErrors_eq_nil_iff.1 h).resolve_left hne

/-- A name is looked for among the earlier ones only when it is a label. Otherwise it is wrong
anyway. -/
theorem uniqueLabelErrors_eq_nil_iff {earlier : List String} :
    uniqueLabelErrors path earlier value = [] ↔ IsLabel value ∧ value ∉ earlier := by
  have hlabel : labelErrors path value = [] ↔ IsLabel value := labelErrors_eq_nil_iff
  rw [← hlabel, uniqueLabelErrors]
  cases labelErrors path value with
  | nil => simp
  | cons e errors => simp

/-- Where all names are labels, all of them are proper. That is the case in an object with which
nothing is wrong. -/
theorem properNames_eq {names : List String} (h : ∀ name ∈ names, IsLabel name) :
    properNames names = names := by
  refine List.filter_eq_self.2 fun name hname => ?_
  rw [labelErrors_eq_nil_iff.2 (h name hname)]
  rfl

end Values

end Gatehouse.Validation
