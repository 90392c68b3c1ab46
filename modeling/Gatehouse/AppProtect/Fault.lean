import Gatehouse.Instant.Reader
import Gatehouse.Object.Protection
import Gatehouse.Text.Quoted

/-!
What can be wrong with an App Protect object. There are two wordings: the short one says why a
stored object cannot be used, and the long one, for the owner, also says what to mend.
-/

set_option autoImplicit false

namespace Gatehouse

/-! ## 1. Why an object cannot be used -/

/-- Why a stored object cannot be used. -/
inductive Invalid
  | validationFailed
  | missingUserSig
  | duplicateTag
  | invalidTimestamp
  deriving DecidableEq, Repr

/-- The short wording. -/
def Invalid.message : Invalid → String
  | .validationFailed => "Validation Failed"
  | .missingUserSig => "Policy has unsatisfied signature requirements"
  | .duplicateTag => "Duplicate tag set"
  | .invalidTimestamp => "Invalid timestamp"

/-! ## 2. Required parts -/

/-- What is said of a field that should hold an object. -/
def requiredField (field : String) : String := "Required field " ++ field ++ " not found"

/-- The first required part of a log configuration that is not an object. -/
def LogConfSpec.missingPart? (s : LogConfSpec) : Option String :=
  if !s.content.isObject then some "spec.content"
  else if !s.filter.isObject then some "spec.filter"
  else none

/-! ## 3. Policies -/

/-- What can be wrong with a policy. -/
inductive PolicyFault
  | noBody
  | requirementsNotAList
  | badBound (field value : String) (error : Instant.ReadError)
  | unsatisfied
  deriving DecidableEq

namespace PolicyFault

/-- Why the policy cannot be used. -/
def invalid : PolicyFault → Invalid
  | noBody | requirementsNotAList => .validationFailed
  | badBound _ _ _ => .invalidTimestamp
  | unsatisfied => .missingUserSig

/-- The long wording, for a policy of the given name. -/
def message (name : String) : PolicyFault → String
  | noBody => "Error validating App Protect Policy " ++ name ++ ": " ++ requiredField "spec.policy"
  | requirementsNotAList =>
    "Error retrieving Signature requirements from " ++ name ++
      ": spec.policy.signature-requirements must be a list"
  | badBound field value error =>
    "Error creating time requirements from " ++ name ++ ": invalid " ++ field ++ " " ++
      Text.quoted value ++ ": " ++ error.message
  | unsatisfied => Invalid.missingUserSig.message

end PolicyFault

end Gatehouse
