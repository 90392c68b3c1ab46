import Gatehouse.Validation.Annotations

/-!
What is wrong with an ingress: with its annotations, with its rules and backends, and with the
part that it plays for its host. A master has one rule and leaves the paths to its minions; a
minion has one rule with at least one path, and no certificate.
-/

set_option autoImplicit false

namespace Gatehouse.Validation

/-! ## 1. Rules and backends -/

/-- A backend, which is to be a service. -/
def backendErrors (path : Path) (b : Backend) : List FieldError :=
  if b.resource.isSome then
    [.forbidden (path.child "resource") "resource backends are not supported"]
  else []

/-- The host of a rule, which is to differ from the hosts before it. -/
def ruleHostErrors (path : Path) (earlier : List String) (host : String) : List FieldError :=
  if host.isEmpty then [.required path ""]
  else if earlier.contains host then [.duplicate path (.text host)]
  else []

/-- The place of the paths of a rule. -/
def pathsPath (rule : Path) : Path := (rule.child "http").child "paths"

/-- One path of a rule. -/
def httpPathErrors (rule : Path) (_earlier : List HttpPath) (i : Nat) (p : HttpPath) :
    List FieldError :=
  backendErrors (((pathsPath rule).index i).child "backend") p.backend

/-- One rule. -/
def ruleErrors (list : Path) (earlier : List IngressRule) (i : Nat) (r : IngressRule) :
    List FieldError :=
  let path := list.index i
  ruleHostErrors (path.child "host") (earlier.map (·.hostOrEmpty)) r.hostOrEmpty ++
    checkEach (httpPathErrors path) [] r.paths

/-- The rules, of which there is to be at least one. -/
def rulesErrors (path : Path) (rules : List IngressRule) : List FieldError :=
  if rules.isEmpty then [.required path ""] else checkEach (ruleErrors path) [] rules

/-- The default backend, the rules and their backends. -/
def ingressSpecErrors (path : Path) (i : Ingress) : List FieldError :=
  (match i.defaultBackend? with
  | none => []
  | some b => backendErrors (path.child "defaultBackend") b) ++
  rulesErrors (path.child "rules") i.rules

/-! ## 2. The part an ingress plays -/

/-- A master: one rule, without paths. -/
def masterErrors (path : Path) (i : Ingress) : List FieldError :=
  match i.rules with
  | [rule] =>
    if rule.paths.isEmpty then []
    else [.tooMany (pathsPath ((path.child "rules").index 0)) rule.paths.length 0]
  | rules => [.tooMany (path.child "rules") rules.length 1]

/-- A minion: no certificate, and one rule with a path. -/
def minionErrors (path : Path) (i : Ingress) : List FieldError :=
  (if i.tls.isEmpty then [] else [.tooMany (path.child "tls") i.tls.length 0]) ++
  match i.rules with
  | [rule] =>
    if rule.paths.isEmpty then
      [.required (pathsPath ((path.child "rules").index 0)) "must include at least one path"]
    else []
  | rules => [.tooMany (path.child "rules") rules.length 1]

/-- The part that the ingress plays for its host. -/
def mergeableErrors (path : Path) (i : Ingress) : List FieldError :=
  match i.mergeable? with
  | some .master => masterErrors path i
  | some .minion => minionErrors path i
  | none => []

/-! ## 3. The object -/

/-- The names of the services the ingress sends requests to. -/
def ingressServices (i : Ingress) : List String := i.backends.filterMap (·.serviceName?)

/-- What the rules for the annotations of an ingress look at. -/
def ruleContext (f : Features) (i : Ingress) : RuleContext :=
  ⟨f, ingressServices i, i.metadata.annotations.getD Table.empty⟩

/-- What is wrong with an ingress. -/
def ingressErrors (f : Features) (i : Ingress) : List FieldError :=
  annotationErrors (ruleContext f i) (.top "annotations") ++
  ingressSpecErrors (.top "spec") i ++
  mergeableErrors (.top "spec") i

end Gatehouse.Validation
