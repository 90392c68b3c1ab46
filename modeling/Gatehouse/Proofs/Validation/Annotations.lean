import Gatehouse.Proofs.Format.Balancing
import Gatehouse.Proofs.Format.Listed
import Gatehouse.Proofs.Table
import Gatehouse.Proofs.Validation.Basic
import Gatehouse.Validation.Annotations
import Mathlib.Data.List.Chain

/-!
Which annotations are accepted, and what is reported about the others.

`Rule.Kept` says what each rule asks of a value, and a rule gives no error exactly when it is kept
(`Rule.error?_eq_none_iff`). A known annotation that is set gives an error when it breaks one of its
rules, and then one, at the place of the annotation. So the errors are in the order of the known
annotations (`map_path_annotationErrors`), which is that of the bytes of their names, and no
annotation has two.

A rule may look at another annotation, but only at a known one (`related_known`). This is what makes
unknown annotations irrelevant (`annotationErrors_congr`).
-/

set_option autoImplicit false

namespace Gatehouse.Validation

open Format

/-! ## 1. Rules -/

/-- The text stands for a truth value. There are a few spellings, and a blank at either end is not
one of them. -/
def IsTruth (s : String) : Prop := ∃ b, Text.readBool s = some b

/-- A truth value is what is expected. -/
def Expectation.Met : Expectation → Bool → Prop
  | .aBool, _ => True
  | .isTrue, b => b = true

/-- The value of an annotation keeps a rule. Each rule is described by a format or a property, and
not by the check. -/
def Rule.Kept (c : RuleContext) (value : String) : Rule → Prop
  | .required => value ≠ ""
  | .bool => IsTruth value
  | .int => Text.IsNumeral Text.int32Range value
  | .int64 => Text.IsNumeral Text.int64Range value
  | .uint64 => Text.IsNumeral Text.nat64Range value
  | .time => IsTime value
  | .offset => IsSize ['k', 'K', 'm', 'M', 'g', 'G'] value
  | .size => IsSize ['k', 'K', 'm', 'M'] value
  | .proxyBuffers => IsBuffers value
  | .portList => ∀ item ∈ Text.splitAll ',' value, IsPortNumeral (Text.trimmed item)
  | .serviceList => ∀ service ∈ Format.serviceList value, service ∈ c.services
  | .stickyServiceList => ∀ item ∈ listItems ';' value, StickyService item.toList
  | .rewriteList => ∀ item ∈ listItems ';' value, Rewrite item.toList
  | .plusOnly => c.features.isPlus = true
  | .appProtectOnly => c.features.appProtectEnabled = true
  | .appProtectDosOnly => c.features.appProtectDosEnabled = true
  | .internalRoutesOnly => c.features.internalRoutesEnabled = true
  | .snippets => c.features.snippetsEnabled = true
  | .mergeableType => value = "master" ∨ value = "minion"
  | .lbMethod => IsHttpMethod c.features.isPlus (Text.trimmed value)
  | .serverTokens => c.features.isPlus = true ∨ IsTruth value
  | .qualifiedName => IsQualifiedName value
  | .related name expectation =>
    ∃ other b, c.annotations.get? name = some other ∧ Text.readBool other = some b ∧
      expectation.Met b

section Rules

variable {c : RuleContext} {path : Path} {value : String}

/-- Most rules make one demand and have one error. -/
theorem demand_eq_none_iff {holds : Bool} {error : FieldError} :
    demand holds error = none ↔ holds = true := by
  cases holds <;> simp [demand]

theorem isSome_readBool_iff : (Text.readBool value).isSome = true ↔ IsTruth value :=
  Option.isSome_iff_exists

/-- The services that are reported are those of the list that the ingress does not have. -/
theorem mem_unknownServices_iff {services : List String} {service : String} :
    service ∈ unknownServices services value ↔
      service ∈ serviceList value ∧ service ∉ services := by
  rw [unknownServices, Table.mem_keys_iff]
  simp only [Table.get?_ofList_map_iff, List.mem_filter, Bool.not_eq_true', List.contains_eq_mem,
    decide_eq_false_iff_not]
  exact ⟨fun ⟨_, h, _⟩ => h, fun h => ⟨(), h, trivial⟩⟩

/-- Nothing is reported when it has all of them. -/
theorem serviceListError_eq_none_iff {services : List String} :
    serviceListError services path value = none ↔
      ∀ service ∈ serviceList value, service ∈ services := by
  rw [serviceListError]
  split
  · rename_i hnone
    refine iff_of_true rfl fun service hservice => ?_
    by_contra hnot
    have hunknown := mem_unknownServices_iff.2 ⟨hservice, hnot⟩
    rw [hnone] at hunknown
    cases hunknown
  · rename_i hsome
    refine iff_of_false nofun fun hall => hsome ?_
    refine List.eq_nil_iff_forall_not_mem.2 fun service hservice => ?_
    obtain ⟨hlisted, hnot⟩ := mem_unknownServices_iff.1 hservice
    exact hnot (hall service hlisted)

/-- Another annotation that is asked for has to be set, to a truth value, and to the one that is
expected. -/
theorem relatedError_eq_none_iff {annotations : Table String} {name : String}
    {expectation : Expectation} : relatedError annotations path name expectation = none ↔
      ∃ other b, annotations.get? name = some other ∧ Text.readBool other = some b ∧
        expectation.Met b := by
  rw [relatedError]
  cases annotations.get? name with
  | none => simp
  | some other =>
    cases hread : Text.readBool other with
    | none => simp [hread]
    | some b => cases expectation <;> cases b <;> simp [hread, Expectation.Met]

/-- A rule gives no error exactly when it is kept. There is one case for each rule, closed by the
lemma of its format. -/
theorem Rule.error?_eq_none_iff {rule : Rule} :
    rule.error? c path value = none ↔ rule.Kept c value := by
  cases rule with
  | required => simp [Rule.error?, Rule.Kept, demand_eq_none_iff]
  | bool => exact demand_eq_none_iff.trans isSome_readBool_iff
  | int => exact demand_eq_none_iff.trans (Text.isInt_iff Text.int32Range_hasZero)
  | int64 => exact demand_eq_none_iff.trans (Text.isInt_iff Text.int64Range_hasZero)
  | uint64 => exact demand_eq_none_iff.trans (Text.isInt_iff Text.nat64Range_hasZero)
  | time => exact demand_eq_none_iff.trans isTime_iff
  | offset => exact demand_eq_none_iff.trans hasTrimmed_sizePattern_iff
  | size => exact demand_eq_none_iff.trans hasTrimmed_sizePattern_iff
  | proxyBuffers => exact demand_eq_none_iff.trans isProxyBuffers_iff
  | portList => exact demand_eq_none_iff.trans isPortList_iff
  | serviceList => exact serviceListError_eq_none_iff
  | stickyServiceList => exact demand_eq_none_iff.trans isStickyServiceList_iff
  | rewriteList => exact demand_eq_none_iff.trans isRewriteList_iff
  | plusOnly => exact demand_eq_none_iff
  | appProtectOnly => exact demand_eq_none_iff
  | appProtectDosOnly => exact demand_eq_none_iff
  | internalRoutesOnly => exact demand_eq_none_iff
  | snippets => exact demand_eq_none_iff
  | mergeableType => simp [Rule.error?, Rule.Kept, demand_eq_none_iff]
  | lbMethod => exact Option.map_eq_none_iff.trans httpMethodComplaint_eq_none_iff
  | serverTokens =>
    rw [Rule.error?, demand_eq_none_iff, Bool.or_eq_true, isSome_readBool_iff, Rule.Kept]
  | qualifiedName =>
    rw [Rule.error?, demand_eq_none_iff, List.isEmpty_iff, qualifiedNameComplaints_eq_nil_iff,
      Rule.Kept]
  | related name expectation => exact relatedError_eq_none_iff

theorem path_of_demand {holds : Bool} {error e : FieldError} (h : demand holds error = some e) :
    e = error := by
  rw [demand] at h
  split at h
  · cases h
  · exact (Option.some.inj h).symm

/-- Even if another annotation is looked at, the error is about the one that asks for it. -/
theorem path_of_relatedError {annotations : Table String} {name : String}
    {expectation : Expectation} {e : FieldError}
    (h : relatedError annotations path name expectation = some e) : e.path = path := by
  unfold relatedError at h
  dsimp only at h
  split at h
  · rw [← Option.some.inj h]
    rfl
  · split at h
    · rw [← Option.some.inj h]
      rfl
    · rw [← Option.some.inj h]
      rfl
    · cases h

/-- An error is about the annotation that breaks the rule. -/
theorem Rule.path_of_error? {rule : Rule} {e : FieldError}
    (h : rule.error? c path value = some e) : e.path = path := by
  cases rule with
  -- The rules that do not simply demand something: a list, a method and the rules about others.
  | serviceList =>
    rw [Rule.error?, serviceListError] at h
    split at h
    · cases h
    · rw [← Option.some.inj h]
      rfl
  | lbMethod =>
    obtain ⟨complaint, -, rfl⟩ := Option.map_eq_some_iff.1 h
    rfl
  | related name expectation => exact path_of_relatedError h
  | _ =>
    rw [path_of_demand h]
    rfl

end Rules

/-! ## 2. The annotations of an ingress -/

/-- The bytes of a text. -/
def bytes (s : String) : List UInt8 := s.toUTF8.data.toList

/-- The known annotations are listed in the order of the bytes of their names. -/
theorem pairwise_bytes_knownAnnotations :
    (knownAnnotations.map (·.1)).Pairwise fun a b => bytes a < bytes b := by
  have hchain : (knownAnnotations.map fun known => bytes known.1).IsChain (· < ·) := by
    decide +kernel
  rw [List.pairwise_map]
  exact List.pairwise_map.1 (List.isChain_iff_pairwise.1 hchain)

/-- In whatever order the known annotations are listed with their rules, sorting them by the bytes
of the names gives this list. No two names are the same, so the order leaves nothing to choose. -/
theorem mergeSort_eq_knownAnnotations {rules : List (String × List Rule)}
    (h : rules.Perm knownAnnotations) :
    (rules.mergeSort fun a b => decide (bytes a.1 ≤ bytes b.1)) = knownAnnotations := by
  have hperm : (rules.mergeSort fun a b => decide (bytes a.1 ≤ bytes b.1)).Perm knownAnnotations :=
    (List.mergeSort_perm rules _).trans h
  have hsorted : (rules.mergeSort fun a b => decide (bytes a.1 ≤ bytes b.1)).Pairwise
      fun a b => bytes a.1 ≤ bytes b.1 := by
    refine (List.pairwise_mergeSort ?_ ?_ rules).imp of_decide_eq_true
    · intro a b c hab hbc
      exact decide_eq_true (List.le_trans (of_decide_eq_true hab) (of_decide_eq_true hbc))
    · intro a b
      rw [Bool.or_eq_true, decide_eq_true_iff, decide_eq_true_iff]
      exact List.le_total _ _
  have hordered : knownAnnotations.Pairwise fun a b => bytes a.1 < bytes b.1 := by
    have hnames := pairwise_bytes_knownAnnotations
    rwa [List.pairwise_map] at hnames
  have hnodup : (knownAnnotations.map fun known => bytes known.1).Nodup := by
    refine List.pairwise_map.2 (hordered.imp fun hlt heq => ?_)
    rw [heq] at hlt
    exact List.lt_irrefl _ hlt
  refine hperm.eq_of_pairwise ?_ hsorted (hordered.imp List.le_of_lt)
  -- two entries under one name are the same entry, so sorting leaves no choice
  intro a b ha hb hab hba
  exact List.inj_on_of_nodup_map hnodup (hperm.mem_iff.1 ha) hb (List.le_antisymm hab hba)

section Annotations

variable {c : RuleContext} {path : Path}

/-- An annotation that is not set breaks no rule. -/
theorem annotationError?_eq_none_iff {known : String × List Rule} :
    annotationError? c path known = none ↔
      ∀ value, c.annotations.get? known.1 = some value → ∀ rule ∈ known.2, rule.Kept c value := by
  rw [annotationError?]
  cases hget : c.annotations.get? known.1 with
  | none => exact iff_of_true rfl nofun
  | some value =>
    show known.2.findSome? _ = none ↔ _
    simp only [List.findSome?_eq_none_iff, Rule.error?_eq_none_iff, Option.some.injEq,
      forall_eq']

/-- What is reported of an annotation is at its own place, whichever rule it breaks. -/
theorem path_of_annotationError? {known : String × List Rule} {e : FieldError}
    (h : annotationError? c path known = some e) : e.path = path.child known.1 := by
  obtain ⟨value, -, h⟩ := Option.bind_eq_some_iff.1 h
  obtain ⟨rule, -, hrule⟩ := List.exists_of_findSome?_eq_some h
  exact rule.path_of_error? hrule

/-- Nothing is wrong with the annotations when all rules of all known ones that are set are kept. -/
theorem annotationErrors_eq_nil_iff : annotationErrors c path = [] ↔
    ∀ known ∈ knownAnnotations, ∀ value, c.annotations.get? known.1 = some value →
      ∀ rule ∈ known.2, rule.Kept c value := by
  simp only [annotationErrors, List.filterMap_eq_nil_iff, annotationError?_eq_none_iff]

/-- The errors stand at the places of the annotations that have one. -/
theorem map_path_annotationErrors : (annotationErrors c path).map (·.path) =
    ((knownAnnotations.filter fun known => (annotationError? c path known).isSome).map
      (·.1)).map path.child := by
  rw [annotationErrors]
  induction knownAnnotations with
  | nil => rfl
  | cons known rest ih =>
    cases herror : annotationError? c path known with
    | none => simpa [herror] using ih
    | some e => simpa [herror, path_of_annotationError? herror] using ih

/-- The annotations that break a rule, one error for each, in the order of the bytes of their
names. -/
theorem exists_broken_names (c : RuleContext) (path : Path) : ∃ names : List String,
    names.Pairwise (fun a b => bytes a < bytes b) ∧
      (annotationErrors c path).map (·.path) = names.map path.child ∧
      ∀ name, name ∈ names ↔ ∃ rules value, (name, rules) ∈ knownAnnotations ∧
        c.annotations.get? name = some value ∧ ∃ rule ∈ rules, ¬rule.Kept c value := by
  refine ⟨_, pairwise_bytes_knownAnnotations.sublist (List.filter_sublist.map _),
    map_path_annotationErrors, fun name => ?_⟩
  simp only [List.mem_map, List.mem_filter, Option.isSome_iff_ne_none, ne_eq,
    annotationError?_eq_none_iff, not_forall]
  constructor
  · rintro ⟨known, ⟨hknown, value, hvalue, rule, hrule, hbroken⟩, rfl⟩
    exact ⟨known.2, value, hknown, hvalue, rule, hrule, hbroken⟩
  · rintro ⟨rules, value, hknown, hvalue, rule, hrule, hbroken⟩
    exact ⟨(name, rules), ⟨hknown, value, hvalue, rule, hrule, hbroken⟩, rfl⟩

/-! ## 3. Unknown annotations -/

/-- The annotation that a rule looks at besides its own. -/
def Rule.reads? : Rule → Option String
  | .related name _ => some name
  | _ => none

theorem related_known : ∀ known ∈ knownAnnotations, ∀ rule ∈ known.2, ∀ name ∈ rule.reads?,
    name ∈ knownAnnotations.map (·.1) := by
  decide +kernel

theorem Rule.error?_congr {features : Features} {services : List String} {s t : Table String}
    {rule : Rule} {value : String} (h : ∀ name ∈ rule.reads?, s.get? name = t.get? name) :
    rule.error? ⟨features, services, s⟩ path value =
      rule.error? ⟨features, services, t⟩ path value := by
  cases rule with
  | related name expectation =>
    rw [Rule.error?, Rule.error?, relatedError, relatedError, h name rfl]
  | _ => rfl

/-- Annotations that agree on the known names have the same errors. -/
theorem annotationErrors_congr {features : Features} {services : List String} {s t : Table String}
    (h : ∀ name ∈ knownAnnotations.map (·.1), s.get? name = t.get? name) :
    annotationErrors ⟨features, services, s⟩ path =
      annotationErrors ⟨features, services, t⟩ path := by
  rw [annotationErrors, annotationErrors]
  refine List.filterMap_congr fun known hknown => ?_
  rw [annotationError?, annotationError?, h known.1 (List.mem_map_of_mem hknown)]
  refine Option.bind_congr fun value _ => ?_
  -- the first error is the same because all of them are
  rw [← List.head?_filterMap, ← List.head?_filterMap]
  refine congrArg List.head? (List.filterMap_congr fun rule hrule => ?_)
  exact Rule.error?_congr fun name hname => h name (related_known known hknown rule hrule name hname)

end Annotations

end Gatehouse.Validation
