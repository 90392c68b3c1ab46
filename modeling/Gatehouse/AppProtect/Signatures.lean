import Gatehouse.AppProtect.Fault
import Gatehouse.Seniority

/-!
User signatures. A signature is stored with a status, which says why it cannot be used if it cannot.
One that is not well formed is stored without its tag. Of the others with one tag only the senior
one can be used; which one that is changes as signatures come and go, and then the statuses are
changed with it.
-/

set_option autoImplicit false

namespace Gatehouse

/-! ## 1. Stored signatures -/

/-- A stored user signature: the object, its tag, which may be empty, the time of its revision, and
why it cannot be used. -/
structure Signature where
  object : ApUserSig
  tag : String
  revision : Option Instant
  status : Option Invalid

namespace Signature

/-- The metadata of the object. -/
def metadata (s : Signature) : Meta := s.object.metadata

/-- The signature can be used. -/
def isUsable (s : Signature) : Bool := s.status.isNone

/-- A signature that can never be used. -/
def malformed (o : ApUserSig) (why : Invalid) : Signature := ⟨o, "", none, some why⟩

/-- An object as it is stored, before it is compared with others. One with a list of signatures, and
with a time of revision that can be read if it has one, is well formed. -/
def ofObject (o : ApUserSig) : Signature :=
  if !o.spec.signatures.isArray then malformed o .validationFailed
  else match o.spec.revisionDatetime with
    | none => ⟨o, o.spec.tag.getD "", none, none⟩
    | some text => match Instant.read text with
      | .ok revision => ⟨o, o.spec.tag.getD "", some revision, none⟩
      | .error _ => malformed o .invalidTimestamp

/-! ## 2. Tags -/

/-- The signature takes part in the contest for its tag; the empty one is no tag. -/
def contends (s : Signature) : Bool := !s.tag.isEmpty && s.status != some .validationFailed

/-- The signatures that contend for a tag, the senior one first. -/
def contenders (stored : Table Signature) (tag : String) : List Signature :=
  bySeniority metadata (stored.values.filter fun s => s.contends && s.tag == tag)

/-- The tags that are contended for, in order. -/
def tags (stored : Table Signature) : List String :=
  (Table.ofList ((stored.values.filter contends).map fun s => (s.tag, ()))).keys

/-- The signature is the first of those that contend for its tag. -/
def holdsTag (stored : Table Signature) (s : Signature) : Bool :=
  (contenders stored s.tag).head?.any fun first => first.metadata.key == s.metadata.key

/-- What the contest for its tag makes of a signature. -/
def decided (stored : Table Signature) (s : Signature) : Signature :=
  if !s.contends then s
  else if holdsTag stored s then { s with status := none }
  else if s.isUsable then { s with status := some .duplicateTag }
  else s

/-- The signatures after the contests for all tags. -/
def reconcile (stored : Table Signature) : Table Signature := stored.map (decided stored)

/-- The signatures that could be used until the contests, in the order of the tags and, under each
tag, of seniority. -/
def beaten (stored : Table Signature) : List Signature :=
  (tags stored).flatMap fun tag => (contenders stored tag).tail.filter isUsable

end Signature

end Gatehouse
