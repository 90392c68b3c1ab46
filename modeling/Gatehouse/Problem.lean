import Gatehouse.Kind

/-!
Problems: what the owner of an object should be told about it. A problem that stands is not told
again as long as it reads the same.
-/

set_option autoImplicit false

namespace Gatehouse

/-- Why an object has a problem. -/
inductive Reason
  | rejected
  | noIngressMasterFound
  | ignored
  | noVirtualServerFound
  deriving DecidableEq, Repr

/-- The name of a reason, as it is shown. -/
def Reason.name : Reason → String
  | .rejected => "Rejected"
  | .noIngressMasterFound => "NoIngressMasterFound"
  | .ignored => "Ignored"
  | .noVirtualServerFound => "NoVirtualServerFound"

/-- Something wrong with an object. An error makes the object unusable; a warning does not. -/
structure Problem where
  object : Object
  isError : Bool
  reason : Reason
  message : String
  deriving DecidableEq

namespace Problem

/-- The object is unusable. -/
def rejection (object : Object) (message : String) : Problem := ⟨object, true, .rejected, message⟩

/-- The object is usable but does not get what it asks for. -/
def warning (object : Object) (reason : Reason) (message : String) : Problem :=
  ⟨object, false, reason, message⟩

/-- The kind of the object. -/
def kind (p : Problem) : Kind := p.object.kind

/-- The metadata of the object. -/
def metadata (p : Problem) : Meta := p.object.metadata

/-- The key of the object with its kind. -/
def key (p : Problem) : String := p.object.key

/-- The two problems read the same. -/
def readsAs (p q : Problem) : Bool :=
  p.isError == q.isError && p.reason == q.reason && p.message == q.message

/-- The problems of a table that do not read as they did in an earlier one, in the order of their
keys. -/
def news (earlier now : Table Problem) : List Problem :=
  (now.entries.filter fun e => !(earlier.get? e.1).any fun p => p.readsAs e.2).map (·.2)

end Problem

end Gatehouse
