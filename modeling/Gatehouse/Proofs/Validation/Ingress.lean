import Gatehouse.Proofs.Validation.Annotations
import Gatehouse.Validation.Ingress
import Mathlib.Tactic.MkIffOfInductiveProp

/-!
Which ingresses are accepted, and what is known of one that is.

Three checks have to find nothing: that of the annotations, that of the rules and backends, and that
of the part which the ingress plays for its host. Each is given the property that it means, and
together they are `IngressWellFormed`.

Some annotations ask for others. Health checks with a queue have to be mandatory ones, and mandatory
ones have to be on; so when the first of these annotations is accepted, the rules of the second are
known to be kept as well, and the chain can be followed to its end (`IngressWellFormed.settled`).
-/

set_option autoImplicit false

namespace Gatehouse

/-- The annotation is set, to a text that stands for the truth value. One that is not set says
neither. -/
def Meta.Says (m : Meta) (name : String) (b : Bool) : Prop :=
  ∃ value, m.annotation? name = some value ∧ Text.readBool value = some b

namespace Validation

open Format

/-! ## 1. Rules and backends -/

section Rules

variable {path : Path}

/-- A backend has to be a service. Another resource is the one thing that can be wrong with it. -/
theorem backendErrors_eq_nil_iff {b : Backend} :
    backendErrors path b = [] ↔ b.resource = none := by
  rw [backendErrors, ite_singleton_eq_nil_iff, Bool.not_eq_true, Option.isSome_eq_false_iff,
    Option.isNone_iff_eq_none]

/-- A host has to be there and has to be a new one. -/
theorem ruleHostErrors_eq_nil_iff {earlier : List String} {host : String} :
    ruleHostErrors path earlier host = [] ↔ host ≠ "" ∧ host ∉ earlier := by
  rw [ruleHostErrors]
  by_cases hempty : host = ""
  · simp [hempty]
  · rw [if_neg (by simpa using hempty), ite_singleton_eq_nil_iff]
    simp [hempty]

theorem httpPathErrors_eq_nil_iff {paths : List HttpPath} :
    checkEach (httpPathErrors path) [] paths = [] ↔ ∀ p ∈ paths, p.backend.resource = none :=
  checkEach_eq_nil_iff_forall fun _ _ _ => backendErrors_eq_nil_iff

/-- A rule has a host and sends requests to services only. Backends that are other resources are
known to the cluster and not to the controller. -/
structure IngressRuleOk (r : IngressRule) : Prop where
  host : r.hostOrEmpty ≠ ""
  backends : ∀ p ∈ r.paths, p.backend.resource = none

/-- Hosts are compared as they are written, an absent one as the empty text. -/
theorem ruleErrors_eq_nil_iff {earlier : List IngressRule} {i : Nat} {r : IngressRule} :
    ruleErrors path earlier i r = [] ↔
      IngressRuleOk r ∧ r.hostOrEmpty ∉ earlier.map (·.hostOrEmpty) := by
  rw [ruleErrors, List.append_eq_nil_iff, ruleHostErrors_eq_nil_iff, httpPathErrors_eq_nil_iff]
  exact ⟨fun h => ⟨⟨h.1.1, h.2⟩, h.1.2⟩, fun h => ⟨⟨h.1.host, h.2⟩, h.1.backends⟩⟩

/-- There has to be a rule at least. -/
theorem rulesErrors_eq_nil_iff {rules : List IngressRule} : rulesErrors path rules = [] ↔
    rules ≠ [] ∧ (∀ r ∈ rules, IngressRuleOk r) ∧ (rules.map (·.hostOrEmpty)).Nodup := by
  rw [rulesErrors]
  by_cases hempty : rules = []
  · simp [hempty]
  · rw [if_neg (by simpa using hempty), and_iff_right hempty]
    exact checkEach_eq_nil_iff_nodup fun _ _ _ _ => ruleErrors_eq_nil_iff

end Rules

/-! ## 2. The part an ingress plays -/

section Parts

variable {path : Path} {i : Ingress}

/-- A master has one rule and leaves its paths to minions. -/
theorem masterErrors_eq_nil_iff :
    masterErrors path i = [] ↔ ∃ rule, i.rules = [rule] ∧ rule.paths = [] := by
  rw [masterErrors]
  split
  · rename_i rule hrules
    rw [ite_nil_eq_nil_iff, List.isEmpty_iff, hrules]
    simp
  · rename_i hrules
    refine iff_of_false (List.cons_ne_nil _ _) ?_
    rintro ⟨rule, hrule, -⟩
    exact hrules rule hrule

/-- A minion has one rule with paths, and leaves TLS to the master. -/
theorem minionErrors_eq_nil_iff :
    minionErrors path i = [] ↔ i.tls = [] ∧ ∃ rule, i.rules = [rule] ∧ rule.paths ≠ [] := by
  rw [minionErrors, List.append_eq_nil_iff, ite_nil_eq_nil_iff, List.isEmpty_iff]
  refine and_congr_right fun _ => ?_
  split
  · rename_i rule hrules
    rw [ite_singleton_eq_nil_iff, List.isEmpty_iff, hrules]
    simp
  · rename_i hrules
    refine iff_of_false (List.cons_ne_nil _ _) ?_
    rintro ⟨rule, hrule, -⟩
    exact hrules rule hrule

/-- Nothing is asked of an ingress that is neither. -/
theorem mergeableErrors_eq_nil_iff : mergeableErrors path i = [] ↔
    (i.isMaster = true → ∃ rule, i.rules = [rule] ∧ rule.paths = []) ∧
      (i.isMinion = true → i.tls = [] ∧ ∃ rule, i.rules = [rule] ∧ rule.paths ≠ []) := by
  rw [mergeableErrors, Ingress.isMaster, Ingress.isMinion, decide_eq_true_eq, decide_eq_true_eq]
  cases i.mergeable? with
  | none => simp
  | some part =>
    cases part with
    | master => simp [masterErrors_eq_nil_iff]
    | minion => simp [minionErrors_eq_nil_iff]

end Parts

/-! ## 3. Ingresses -/

/-- An ingress of which every part is as it should be: all rules for its annotations are kept, it
has at least one rule, its hosts are given and differ, all of its backends are services, and it has
the shape of the part that it plays. -/
structure IngressWellFormed (f : Features) (i : Ingress) : Prop where
  annotations : ∀ known ∈ knownAnnotations, ∀ value,
    i.metadata.annotation? known.1 = some value → ∀ rule ∈ known.2,
      rule.Kept (ruleContext f i) value
  rules : i.rules ≠ []
  hosts : "" ∉ i.hosts
  distinct : i.hosts.Nodup
  backends : ∀ b ∈ i.backends, b.resource = none
  master : i.isMaster = true → ∃ rule, i.rules = [rule] ∧ rule.paths = []
  minion : i.isMinion = true → i.tls = [] ∧ ∃ rule, i.rules = [rule] ∧ rule.paths ≠ []

section Ingresses

variable {f : Features} {i : Ingress}

/-- The rules read the annotations of the ingress, and none if it has none. -/
theorem get?_ruleContext (name : String) :
    (ruleContext f i).annotations.get? name = i.metadata.annotation? name := by
  rw [ruleContext, Meta.annotation?]
  cases i.metadata.annotations with
  | none => rfl
  | some annotations => rfl

/-- The backends are the default one and those of the paths. The checks go through them in these two
groups. -/
theorem forall_mem_backends_iff {P : Backend → Prop} : (∀ b ∈ i.backends, P b) ↔
    (∀ b, i.defaultBackend? = some b → P b) ∧ ∀ r ∈ i.rules, ∀ p ∈ r.paths, P p.backend := by
  simp only [Ingress.backends, List.forall_mem_append, Option.mem_toList,
    List.forall_mem_flatMap, List.forall_mem_map]

theorem ingressSpecErrors_eq_nil_iff {path : Path} : ingressSpecErrors path i = [] ↔
    (∀ b, i.defaultBackend? = some b → b.resource = none) ∧ i.rules ≠ [] ∧
      (∀ r ∈ i.rules, IngressRuleOk r) ∧ i.hosts.Nodup := by
  rw [ingressSpecErrors, List.append_eq_nil_iff, rulesErrors_eq_nil_iff, Ingress.hosts]
  refine and_congr_left fun _ => ?_
  cases i.defaultBackend? with
  | none => simp
  | some b => simp [backendErrors_eq_nil_iff]

/-- The verdict about an ingress, put together from the three checks. -/
theorem ingressErrors_eq_nil_iff : ingressErrors f i = [] ↔ IngressWellFormed f i := by
  rw [ingressErrors, List.append_eq_nil_iff, List.append_eq_nil_iff, annotationErrors_eq_nil_iff,
    ingressSpecErrors_eq_nil_iff, mergeableErrors_eq_nil_iff]
  simp only [get?_ruleContext]
  constructor
  · rintro ⟨⟨hannotations, hdefault, hrules, heach, hdistinct⟩, hmaster, hminion⟩
    refine ⟨hannotations, hrules, ?_, hdistinct, ?_, hmaster, hminion⟩
    · -- No host is empty: the check is made at each rule, the condition speaks of all of them.
      intro hempty
      obtain ⟨r, hr, hhost⟩ := List.mem_map.1 hempty
      exact (heach r hr).host hhost
    · exact forall_mem_backends_iff.2 ⟨hdefault, fun r hr => (heach r hr).backends⟩
  · intro h
    obtain ⟨hdefault, hpaths⟩ := forall_mem_backends_iff.1 h.backends
    refine ⟨⟨h.annotations, hdefault, h.rules, fun r hr => ⟨?_, hpaths r hr⟩, h.distinct⟩, h.master,
      h.minion⟩
    intro hempty
    exact h.hosts (List.mem_map.2 ⟨r, hr, hempty⟩)

/-- The hosts of an ingress with which nothing is wrong differ from each other. So it asks for no
host twice. -/
theorem nodup_hosts_of_ingressErrors (h : ingressErrors f i = []) : i.hosts.Nodup :=
  (ingressErrors_eq_nil_iff.1 h).distinct

/-- Masters and minions with which nothing is wrong have one rule. The plans take their first host
for the only one, because of this. -/
theorem one_rule_of_ingressErrors (h : ingressErrors f i = [])
    (hpart : i.isMaster = true ∨ i.isMinion = true) : ∃ rule, i.rules = [rule] := by
  have hwell := ingressErrors_eq_nil_iff.1 h
  rcases hpart with hmaster | hminion
  · obtain ⟨rule, hrules, -⟩ := hwell.master hmaster
    exact ⟨rule, hrules⟩
  · obtain ⟨-, rule, hrules, -⟩ := hwell.minion hminion
    exact ⟨rule, hrules⟩

/-! ## 4. What accepted annotations say -/

/-- What the annotations of an ingress say about others and about its services. None of this is a
check of its own: each part is the rule of some annotation, and follows from the verdict. -/
structure IngressSettled (i : Ingress) : Prop where
  /-- Health checks that have a queue are mandatory and on. -/
  healthChecks : ∀ value,
    i.metadata.annotation? "nginx.com/health-checks-mandatory-queue" = some value →
      i.metadata.Says Annotations.healthChecksMandatory true ∧
        i.metadata.Says Annotations.healthChecks true
  /-- Where something is said about strict transport security, it is on or off. -/
  hsts : ∀ known ∈ knownAnnotations, Text.startsWith known.1 "nginx.org/hsts-" = true →
    ∀ value, i.metadata.annotation? known.1 = some value →
      ∃ b, i.metadata.Says Annotations.hsts b
  /-- Listed services are those of backends. -/
  services : ∀ known ∈ knownAnnotations, Rule.serviceList ∈ known.2 →
    ∀ value, i.metadata.annotation? known.1 = some value → ∀ service ∈ serviceList value,
      ∃ b ∈ i.backends, b.serviceName? = some service

/-- An annotation that asks for another one has it. The rule is found in the table, so this is one
lemma for all annotations of the kind. -/
theorem IngressWellFormed.says_of_related (h : IngressWellFormed f i) {name value : String}
    (hvalue : i.metadata.annotation? name = some value) (other : String) (expectation : Expectation)
    (hrule : ∃ known ∈ knownAnnotations, known.1 = name ∧ .related other expectation ∈ known.2) :
    ∃ b, i.metadata.Says other b ∧ expectation.Met b := by
  obtain ⟨known, hknown, rfl, hasks⟩ := hrule
  obtain ⟨text, b, htext, hb, hmet⟩ := h.annotations _ hknown value hvalue _ hasks
  rw [get?_ruleContext] at htext
  exact ⟨b, ⟨text, htext, hb⟩, hmet⟩

/-- Everything that is said about strict transport security asks for it to be on or off. The table
is finite and its names are closed terms, so this is computed. -/
theorem related_hsts : ∀ known ∈ knownAnnotations,
    Text.startsWith known.1 "nginx.org/hsts-" = true →
      .related Annotations.hsts .aBool ∈ known.2 := by
  decide +kernel

/-- The chain of annotations is followed to its end. Each link is a rule that is known to be
kept. -/
theorem IngressWellFormed.settled (h : IngressWellFormed f i) : IngressSettled i where
  healthChecks value hvalue := by
    obtain ⟨_, hmandatory, rfl⟩ :=
      h.says_of_related hvalue Annotations.healthChecksMandatory .isTrue (by decide)
    -- so the second annotation is set, and asks for the third
    obtain ⟨text, htext, htrue⟩ := hmandatory
    obtain ⟨_, hon, rfl⟩ := h.says_of_related htext Annotations.healthChecks .isTrue (by decide)
    exact ⟨⟨text, htext, htrue⟩, hon⟩
  hsts known hknown hname value hvalue := by
    obtain ⟨b, hsays, -⟩ := h.says_of_related hvalue Annotations.hsts .aBool
      ⟨known, hknown, rfl, related_hsts known hknown hname⟩
    exact ⟨b, hsays⟩
  services known hknown hrule value hvalue service hservice := by
    have hlisted : service ∈ ingressServices i :=
      h.annotations known hknown value hvalue _ hrule service hservice
    exact List.mem_filterMap.1 hlisted

/-! ## 5. Unknown annotations -/

/-- Two ingresses with the same specification that at most differ in annotations nobody knows. The
verdict has to be the same for both. -/
structure AgreeOnKnown (i j : Ingress) : Prop where
  spec : i.spec = j.spec
  annotations : ∀ name ∈ knownAnnotations.map (·.1),
    i.metadata.annotation? name = j.metadata.annotation? name

variable {j : Ingress}

/-- The check of the annotations goes through the known ones, and their rules look at known ones
only. -/
theorem AgreeOnKnown.annotationErrors_eq (h : AgreeOnKnown i j) (path : Path) :
    annotationErrors (ruleContext f i) path = annotationErrors (ruleContext f j) path := by
  have hservices : ingressServices i = ingressServices j := by
    unfold ingressServices Ingress.backends Ingress.defaultBackend? Ingress.rules
    rw [h.spec]
  unfold ruleContext
  rw [hservices]
  refine annotationErrors_congr fun name hname => ?_
  have hagree := h.annotations name hname
  rwa [← get?_ruleContext (f := f), ← get?_ruleContext (f := f)] at hagree

/-- The part an ingress plays is said by a known annotation, too. So unknown ones make no difference
to any error. -/
theorem AgreeOnKnown.ingressErrors_eq (h : AgreeOnKnown i j) :
    ingressErrors f i = ingressErrors f j := by
  have hpart : i.mergeable? = j.mergeable? := by
    unfold Ingress.mergeable?
    rw [h.annotations Annotations.mergeableType (by decide +kernel)]
  rw [ingressErrors, ingressErrors, h.annotationErrors_eq]
  unfold ingressSpecErrors mergeableErrors masterErrors minionErrors Ingress.defaultBackend?
    Ingress.rules Ingress.tls
  rw [hpart, h.spec]

end Ingresses

/-! ## 6. The verdict -/

/-- The verdict about an ingress is right. Whatever features there are, each known annotation that
breaks one of its rules is reported once, in the order of the bytes of the names, and no annotation
that nobody knows makes a difference. There are no errors exactly when every part of the ingress is
as it should be, and then its annotations go with each other and with its backends. -/
theorem ingress_accepted_iff (f : Features) (i : Ingress) :
    (∃ names : List String, names.Pairwise (fun a b => bytes a < bytes b) ∧
      (annotationErrors (ruleContext f i) (.top "annotations")).map (·.path) =
        names.map (Path.top "annotations").child ∧
      ∀ name, name ∈ names ↔ ∃ rules value, (name, rules) ∈ knownAnnotations ∧
        i.metadata.annotation? name = some value ∧
          ∃ rule ∈ rules, ¬rule.Kept (ruleContext f i) value) ∧
    (∀ j, AgreeOnKnown i j →
      annotationErrors (ruleContext f i) (.top "annotations") =
        annotationErrors (ruleContext f j) (.top "annotations") ∧
      ingressErrors f i = ingressErrors f j) ∧
    (ingressErrors f i = [] ↔ IngressWellFormed f i) ∧
    (ingressErrors f i = [] → IngressSettled i) := by
  refine ⟨?_, fun j hj => ⟨hj.annotationErrors_eq _, hj.ingressErrors_eq⟩,
    ingressErrors_eq_nil_iff, fun h => (ingressErrors_eq_nil_iff.1 h).settled⟩
  obtain ⟨names, hordered, hpaths, hnames⟩ :=
    exists_broken_names (ruleContext f i) (.top "annotations")
  simp only [get?_ruleContext] at hnames
  exact ⟨names, hordered, hpaths, hnames⟩

/-- An ingress with a queue for health checks, with strict transport security for subdomains and
with a service that is reached by TLS. -/
def guardedIngress : Ingress where
  metadata := { Meta.blank with annotations := some (.ofList [
    ("nginx.com/health-checks", "true"), ("nginx.com/health-checks-mandatory", "1"),
    ("nginx.com/health-checks-mandatory-queue", "100"), ("nginx.org/hsts", "false"),
    ("nginx.org/hsts-include-subdomains", "True"), ("nginx.org/ssl-services", " tea-svc, ")]) }
  spec := some ⟨none, none, none, some [
    ⟨some "cafe.example.com", some [⟨some "/tea", "Prefix", ⟨some ⟨"tea-svc", none⟩, none⟩⟩]⟩]⟩
  state := none

/-- It is accepted with NGINX Plus, and stays so with an annotation that nobody knows. -/
theorem guardedIngress_accepted :
    let f : Features := { Features.none with isPlus := true }
    let noted : Ingress := { guardedIngress with metadata := { guardedIngress.metadata with
      annotations := guardedIngress.metadata.annotations.map (·.insert "example.com/note" "x") } }
    AgreeOnKnown guardedIngress noted ∧ ingressErrors f guardedIngress = [] ∧
      ingressErrors f noted = [] ∧ IngressSettled guardedIngress := by
  intro f noted
  have hagree : AgreeOnKnown guardedIngress noted := ⟨rfl, by decide +kernel⟩
  have haccepted : ingressErrors f guardedIngress = [] := by decide +kernel
  obtain ⟨-, hunknown, -, hsettled⟩ := ingress_accepted_iff f guardedIngress
  exact ⟨hagree, haccepted, (hunknown noted hagree).2 ▸ haccepted, hsettled haccepted⟩

end Validation

end Gatehouse
