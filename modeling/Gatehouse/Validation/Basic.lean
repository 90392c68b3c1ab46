import Gatehouse.Field
import Gatehouse.Format.DnsName
import Gatehouse.Format.Listed
import Gatehouse.Format.Quantity

/-!
Checks that several kinds of object share. Each takes a value and its place and gives what is wrong
with it. `checkEach` runs a check over a list; the check of an item sees the items before it, which
is how repetitions are found: the first of several equal items is accepted, each later one is
reported. `checkEach_eq_nil_iff` says when a list has no errors.
-/

set_option autoImplicit false

universe u

namespace Gatehouse.Validation

open Format

/-! ## 1. Lists -/

/-- The errors of the items of a list, in order; `earlier` are the items before the list. -/
def checkEach {α : Type u} (check : (earlier : List α) → (index : Nat) → α → List FieldError)
    (earlier : List α) : List α → List FieldError
  | [] => []
  | x :: xs => check earlier earlier.length x ++ checkEach check (earlier ++ [x]) xs

theorem checkEach_eq_nil_iff {α : Type u} {check : List α → Nat → α → List FieldError}
    {earlier items : List α} :
    checkEach check earlier items = [] ↔
      ∀ before x after, items = before ++ x :: after →
        check (earlier ++ before) (earlier.length + before.length) x = [] := by
  induction items generalizing earlier with
  | nil => simp [checkEach]
  | cons y ys ih =>
    simp only [checkEach, List.append_eq_nil_iff, ih]
    constructor
    · rintro ⟨hy, hys⟩ before x after heq
      cases before with
      | nil =>
        obtain ⟨rfl, rfl⟩ := List.cons.inj heq
        simpa using hy
      | cons b before =>
        obtain ⟨rfl, rfl⟩ := List.cons.inj heq
        have := hys before x after rfl
        simpa [Nat.add_assoc, Nat.add_comm 1] using this
    · intro h
      refine ⟨by simpa using h [] y ys rfl, fun before x after heq => ?_⟩
      have := h (y :: before) x after (by rw [heq]; rfl)
      simpa [Nat.add_assoc, Nat.add_comm 1] using this

/-! ## 2. Single values -/

/-- One `Invalid` error for each complaint about a text. -/
def invalidTexts (path : Path) (value : String) (complaints : List String) : List FieldError :=
  complaints.map fun m => .invalid path (.text value) m

/-- A name that is to be a label. -/
def labelErrors (path : Path) (value : String) : List FieldError :=
  if value.isEmpty then [.required path ""] else invalidTexts path value (labelComplaints value)

/-- A host that is to be a subdomain. -/
def hostErrors (path : Path) (host : String) : List FieldError :=
  if host.isEmpty then [.required path ""] else invalidTexts path host (subdomainComplaints host)

/-- A duration, or nothing. -/
def timeErrors (path : Path) (value : String) : List FieldError :=
  if value.isEmpty || isTime value then [] else [.invalid path (.text value) "must be a time"]

/-- A number, or nothing, that is not to be negative. -/
def nonNegativeErrors (path : Path) (value : Option Int) : List FieldError :=
  match value with
  | some n => if n < 0 then [.invalid path (.number n) "must be positive"] else []
  | none => []

/-- A number that is to be a port. -/
def portErrors (path : Path) (port : Int) : List FieldError :=
  if isPort port then []
  else [.invalid path (.number port) "must be between 1 and 65535, inclusive"]

/-- The wording for a snippet while snippets are off. -/
def snippetsDisabled : String := "snippet specified but snippets feature is not enabled"

/-- A snippet, which is to be empty while snippets are off. -/
def snippetErrors (enabled : Bool) (path : Path) (snippet : String) : List FieldError :=
  if enabled || snippet.isEmpty then [] else [.forbidden path snippetsDisabled]

/-- A name that is to be a label and to differ from the names before it. -/
def uniqueLabelErrors (path : Path) (earlier : List String) (name : String) : List FieldError :=
  match labelErrors path name with
  | [] => if earlier.contains name then [.duplicate path (.text name)] else []
  | errors => errors

/-- The names that are labels: those of upstreams that actions may use. -/
def properNames (names : List String) : List String :=
  names.filter fun name => (labelErrors (.top "name") name).isEmpty

end Gatehouse.Validation
