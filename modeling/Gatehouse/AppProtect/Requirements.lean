import Gatehouse.AppProtect.Signatures

/-!
Requirements: the user signatures that a policy asks for. A requirement names a tag and may bound
the time of the revision on either side; both bounds are exclusive, and a signature without a time
of revision meets any bounds. An entry without a tag asks for nothing.
-/

set_option autoImplicit false

namespace Gatehouse

/-- A demand for a signature with a tag, revised after one time and before another. -/
structure Requirement where
  tag : String
  after : Option Instant
  upTo : Option Instant
  deriving DecidableEq

namespace Requirement

/-- The time lies strictly between the bounds that there are. -/
def admits (r : Requirement) (revision : Instant) : Bool :=
  r.after.all (fun least => least.before revision) &&
    r.upTo.all fun greatest => revision.before greatest

/-- The signature is one that is asked for. -/
def isMetBy (r : Requirement) (s : Signature) : Bool :=
  !s.tag.isEmpty && s.tag == r.tag && s.revision.all r.admits

/-- The text that an entry has in a field. -/
def text? (entry : Json) (field : String) : Option String := (entry.field? field).bind Json.text?

/-- A bound on the time of revision; one that is no text does not count. -/
def bound (entry : Json) (field : String) : Except PolicyFault (Option Instant) :=
  match text? entry field with
  | none => .ok none
  | some value => match Instant.read value with
    | .ok time => .ok (some time)
    | .error e => .error (.badBound field value e)

/-- Reads one entry of a list of requirements. -/
def ofEntry (entry : Json) : Except PolicyFault (Option Requirement) :=
  match text? entry "tag" with
  | none => .ok none
  | some tag => do
    let after ← bound entry "minRevisionDatetime"
    let upTo ← bound entry "maxRevisionDatetime"
    return some ⟨tag, after, upTo⟩

/-- Reads the entries of a list of requirements, up to the first that is wrong. -/
def ofEntries : List Json → Except PolicyFault (List Requirement)
  | [] => .ok []
  | entry :: entries => do
    let requirement? ← ofEntry entry
    let requirements ← ofEntries entries
    return requirement?.toList ++ requirements

end Requirement

namespace ApPolicySpec

/-- What the policy asks for. -/
def requirements (s : ApPolicySpec) : Except PolicyFault (List Requirement) :=
  if !s.policy.isObject then .error .noBody
  else match s.policy.field? "signature-requirements" with
    | none => .ok []
    | some list => match list.items? with
      | none => .error .requirementsNotAList
      | some entries => Requirement.ofEntries entries

end ApPolicySpec

/-- Each of the requirements is met by one of the signatures. -/
def Requirement.allMet (usable : List Signature) (requirements : List Requirement) : Bool :=
  requirements.all fun r => usable.any r.isMetBy

/-- What is wrong with a policy, when these are the signatures that can be used. -/
def ApPolicySpec.fault? (usable : List Signature) (s : ApPolicySpec) : Option PolicyFault :=
  match s.requirements with
  | .error fault => some fault
  | .ok requirements => if Requirement.allMet usable requirements then none else some .unsatisfied

/-- A stored policy: the object, what it asks for, and why it cannot be used. One that is not well
formed is stored as if it asked for nothing. -/
structure StoredPolicy where
  policy : ApPolicy
  requirements : List Requirement
  status : Option Invalid

namespace StoredPolicy

/-- A policy as it is stored, when these are the signatures that can be used. -/
def ofPolicy (usable : List Signature) (p : ApPolicy) : StoredPolicy where
  policy := p
  requirements := p.spec.requirements.toOption.getD []
  status := (p.spec.fault? usable).map PolicyFault.invalid

/-- A stored policy when other signatures can be used. Only whether its requirements are met can
change. -/
def recheck (usable : List Signature) (p : StoredPolicy) : StoredPolicy :=
  let met := Requirement.allMet usable p.requirements
  if p.status = some .missingUserSig && met then { p with status := none }
  else if p.status = none && !met then { p with status := some .missingUserSig }
  else p

end StoredPolicy

end Gatehouse
