import Gatehouse.Controller

/-!
Metrics: how many events of each kind the controller has seen, and how many transport servers are
served. They are given out as text, one line for each value, under lines that say what is counted;
a kind of which no event was seen has no line. A listing of all objects counts once, however many
objects are in it.
-/

set_option autoImplicit false

namespace Gatehouse

/-! ## 1. Counting -/

/-- The three kinds of event. -/
inductive EventType
  | apply
  | delete
  | reset
  deriving DecidableEq

/-- The name of the counter for a kind of event. -/
def EventType.counter : EventType → String
  | .apply => "index_applies"
  | .delete => "index_deletes"
  | .reset => "index_resets"

/-- What the counter for a kind of event counts. -/
def EventType.help : EventType → String
  | .apply => "Count of applies to the index."
  | .delete => "Count of deletes to the index."
  | .reset => "Count of resets to the index."

/-- How many events were seen, under the names of the kinds of object. -/
structure EventCounts where
  applies : Table Nat
  deletes : Table Nat
  resets : Table Nat

namespace EventCounts

/-- No event was seen. -/
def zero : EventCounts := ⟨Table.empty, Table.empty, Table.empty⟩

/-- The counts of one kind of event. -/
def of (n : EventCounts) : EventType → Table Nat
  | .apply => n.applies
  | .delete => n.deletes
  | .reset => n.resets

/-- One more. -/
def increment (t : Table Nat) (kind : Kind) : Table Nat := t.alter kind.name fun n => n.getD 0 + 1

/-- One more event. -/
def count (n : EventCounts) (event : EventType) (kind : Kind) : EventCounts :=
  match event with
  | .apply => { n with applies := increment n.applies kind }
  | .delete => { n with deletes := increment n.deletes kind }
  | .reset => { n with resets := increment n.resets kind }

end EventCounts

/-! ## 2. A controller that is counted -/

/-- A controller and the events that it has seen. -/
structure Monitor where
  controller : Controller
  counts : EventCounts

namespace Monitor

/-- A controller that has seen no event. -/
def fresh (c : Controller) : Monitor := ⟨c, .zero⟩

/-- Counts an event and keeps its outcome. -/
def saw (m : Monitor) (event : EventType) (kind : Kind) (o : Controller.Outcome) :
    Monitor × List Notice :=
  (⟨o.1, m.counts.count event kind⟩, o.2)

/-- An object came or changed. -/
def apply (m : Monitor) (o : Object) : Monitor × List Notice :=
  m.saw .apply o.kind (m.controller.apply o)

/-- An object went. -/
def delete (m : Monitor) (kind : Kind) (space name : String) : Monitor × List Notice :=
  m.saw .delete kind (m.controller.delete kind space name)

/-- All objects of a kind were listed anew. -/
def reset (m : Monitor) (kind : Kind) (objects : List Object) (gone : List (String × String)) :
    Monitor × List Notice :=
  m.saw .reset kind (m.controller.reset kind objects gone)

/-! ## 3. The text -/

/-- The lines that say what a value is. -/
def headLines (name help type : String) : List String :=
  ["# HELP " ++ name ++ " " ++ help, "# TYPE " ++ name ++ " " ++ type]

/-- The line of a value with one label. -/
def valueLine (name label labelValue : String) (value : Nat) : String :=
  name ++ "\x7b" ++ label ++ "=\"" ++ labelValue ++ "\"\x7d " ++ toString value

/-- The lines of a counter. -/
def counterLines (m : Monitor) (event : EventType) : List String :=
  headLines event.counter event.help "counter" ++
    (m.counts.of event).entries.map fun e => valueLine (event.counter ++ "_total") "kind" e.1 e.2

/-- The name of the gauge of transport servers. -/
def transportGauge : String := "transport_servers"

/-- The lines of the gauge of transport servers. -/
def transportLines (m : Monitor) : List String :=
  let n := m.controller.configuration.transportCounts
  headLines transportGauge "The number of TransportServers holding a host or a listener" "gauge" ++
    [("passthrough", n.passthrough), ("tcp", n.tcp), ("udp", n.udp)].map fun e =>
      valueLine transportGauge "type" e.1 e.2

/-- All lines of the text, sorted. -/
def sortedLines (m : Monitor) : List String :=
  (m.counterLines .apply ++ m.counterLines .delete ++ m.counterLines .reset ++
    m.transportLines ++ ["# EOF"]).mergeSort fun a b => decide (a ≤ b)

end Monitor

end Gatehouse
