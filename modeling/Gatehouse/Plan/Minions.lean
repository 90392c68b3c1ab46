import Gatehouse.Contest
import Gatehouse.Resource
import Gatehouse.Store

/-!
The minions of a master: all minions whose first host is that of the master, in the order of their
keys. They contest the paths that they list. A minion has a path when it did not lose it; a minion
that lists a path twice loses it to itself, because the second claim takes over from the first.
-/

set_option autoImplicit false

namespace Gatehouse

/-- The paths of the first rule of an ingress. -/
def Ingress.firstPaths (i : Ingress) : List String :=
  ((i.rules.head?.map (·.paths)).getD []).map (·.pathOrEmpty)

/-- The minions for a host. -/
def Store.minionsFor (s : Store) (host : String) : List Ingress :=
  s.minions.filter fun i => !i.rules.isEmpty && i.firstHost == host

/-- What a minion is told about a path that it lost. -/
def pathTaken (path : String) : String := "path " ++ path ++ " is taken by another resource"

/-- The contest of minions for their paths. -/
def pathContest (minions : List Ingress) : Standing :=
  contest (·.metadata) (·.firstPaths) minions

/-- A minion with the paths that it has. -/
def minionOf (standing : Standing) (number : Nat) (i : Ingress) : Minion :=
  ⟨i, Table.ofList (i.firstPaths.map fun p => (p, !(standing.lost number).contains p))⟩

/-- What the minions are told, under their keys; who lost nothing is not in the table. -/
def minionWarnings (standing : Standing) (minions : List Ingress) : Table (List String) :=
  Table.ofList (minions.zipIdx.filterMap fun x =>
    match standing.lost x.2 with
    | [] => none
    | lost => some (x.1.metadata.key, lost.map pathTaken))

/-- A master with its minions, before hosts are decided. -/
def masterResource (s : Store) (i : Ingress) : IngressResource :=
  let minions := s.minionsFor i.firstHost
  let standing := pathContest minions
  { ingress := i
    isMaster := true
    minions := minions.zipIdx.map fun x => minionOf standing x.2 x.1
    validHosts := Table.empty
    warnings := []
    childWarnings := minionWarnings standing minions }

end Gatehouse
