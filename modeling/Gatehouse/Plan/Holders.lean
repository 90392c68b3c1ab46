import Gatehouse.Change
import Gatehouse.Resource

/-!
Holders: the tables that say which resource holds a host or a listener, what they have the consumer
serve, and what changes from one table to the next.

The consumer keeps a copy of the served resources and follows the *changes* between two tables. They
are read off the slots: a resource that left a slot is removed, one that came to a slot or is not
equivalent to what was there is put; then each resource is mentioned once, removals come first, and
every change carries the resource as it was built last. A transport server can leave a listener and
come to a host at the same time, or the other way round; then only its coming is told.
-/

set_option autoImplicit false

namespace Gatehouse

/-! ## 1. What is served -/

/-- The holders of listeners, as resources. -/
def asResources (listeners : Table TransportServerResource) : Table Resource :=
  listeners.map .transportServer

/-- The resources that hold a host or a listener, of the kinds asked for, under their keys. -/
def servedBy (hosts : Table Resource) (listeners : Table TransportServerResource)
    (f : ResourceFilter) : Table Resource :=
  Table.ofList (((hosts.values.filter f.accepts) ++
    if f.transportServers then (asResources listeners).values else []).map fun r => (r.key, r))

/-! ## 2. Changes -/

/-- A change of a resource. -/
abbrev ResourceChange := Change Resource

/-- One slot that is held in both tables: the removal of a holder that another resource
replaced. -/
def replacedIn (now : Table Resource) (slot : String × Resource) : Option ResourceChange :=
  match now.get? slot.1 with
  | none => none
  | some r =>
    if !slot.2.equivalent r && slot.2.key != r.key then some (.plain .delete slot.2) else none

/-- The slots of the first table that are not in the second, with their holders. -/
def onlyIn (these those : Table Resource) : List Resource :=
  (these.entries.filter fun slot => !those.contains slot.1).map (·.2)

/-- One slot that is held in both tables: the update of a holder that is not equivalent. -/
def updatedIn (earlier : Table Resource) (slot : String × Resource) : Option ResourceChange :=
  match earlier.get? slot.1 with
  | none => none
  | some prior => if prior.equivalent slot.2 then none else some (.plain .addOrUpdate slot.2)

/-- The changes of the slots: removals from slots that are free now, removals of replaced holders,
updates of changed holders, and holders of slots that were free. -/
def slotChanges (earlier now : Table Resource) : List ResourceChange :=
  (onlyIn earlier now).map (.plain .delete) ++
  earlier.entries.filterMap (replacedIn now) ++
  now.entries.filterMap (updatedIn earlier) ++
  (onlyIn now earlier).map (.plain .addOrUpdate)

/-- A change with the resource as it was built last. -/
def withLatest (resources : List Resource) (c : ResourceChange) : ResourceChange :=
  match resources.find? fun r => r.key == c.resource.key with
  | some r => { c with resource := r }
  | none => c

/-- The changes between two tables of holders, each resource mentioned once. -/
def holderChanges (earlier now : Table Resource) (resources : List Resource) :
    List ResourceChange :=
  (Change.squash Resource.key (slotChanges earlier now)).map (withLatest resources)

/-- Leaves out the removal of a resource that is also put. -/
def dropReleases (changes : List ResourceChange) : List ResourceChange :=
  changes.filter fun c =>
    !c.isDelete || !changes.any fun d => !d.isDelete && d.resource.key == c.resource.key

end Gatehouse
