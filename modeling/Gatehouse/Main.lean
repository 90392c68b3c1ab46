import Gatehouse.CommandLine
import Gatehouse.Metrics

/-!
The program: it reads the command line and refuses settings that do not go together. A controller
that is set up as the command line says is then ready for the events of a cluster; what it would
give out as metrics before the first event is printed.
-/

set_option autoImplicit false

namespace Gatehouse

/-- A controller as the settings say. -/
def Settings.controller (s : Settings) : Controller :=
  .fresh s.className s.features s.globalKey

/-- Says what is wrong and ends. -/
def complain (code : UInt32) (message : String) : IO UInt32 := do
  IO.eprintln ("error: " ++ message)
  return code

end Gatehouse

open Gatehouse in
/-- The program. -/
def main (words : List String) : IO UInt32 := do
  match CommandLine.read words with
  | .error fault => complain 2 fault.message
  | .ok settings =>
    match settings.refusal? with
    | some refusal => complain 1 refusal.message
    | none =>
      for line in (Monitor.fresh settings.controller).sortedLines do IO.println line
      return 0
