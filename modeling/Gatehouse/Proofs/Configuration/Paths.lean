import Gatehouse.Proofs.Configuration.Provenance
import Gatehouse.Proofs.Plan.Minions

/-!
The paths of the minions that there are after a run.

The minions of a host are those that are taken on, in the order of their keys (`mem_minionsFor_iff`,
`increasing_minionsFor`), so what has been shown of lists of minions applies to them, with any
admission. The marks of the minions and what they are told say the same (`paths_decided`): a path
has one owner at most, nobody who lists it is senior to that one, and whoever lists it in vain is
told that it is taken.

That a path has an owner at all is another matter. A minion that lists a path twice, with two types
of path for example, passes the checks, and when the path belongs to it, nobody has the path
(`path_kept_iff`).
-/

set_option autoImplicit false

namespace Gatehouse.Configuration

section Run

variable {f : Features} {a : Admission} {events : List Event}

/-- The minions of a host are those that are taken on and have it as their first host. Their other
hosts, if they have any, are not looked at. -/
theorem mem_minionsFor_iff {host : String} {i : Ingress} :
    i ∈ ((fresh f a).run events).store.minionsFor host ↔
      TakenOn a events (.ingress i) ∧ i.isMinion = true ∧ i.firstHost? = some host := by
  have hstored : (∃ key, ((fresh f a).run events).store.ingresses.get? key = some i) ↔
      TakenOn a events (.ingress i) := by
    rw [takenOn_ingress_iff (f := f)]
    refine ⟨fun ⟨key, hkey⟩ => ?_, fun h => ⟨_, h⟩⟩
    rw [(admitted_run.ingress key i hkey).1]
    exact hkey
  have hhost : i.firstHost? = some host ↔ i.rules ≠ [] ∧ i.firstHost = host := by
    cases hrules : i.rules <;> simp [Ingress.firstHost?, Ingress.firstHost, hrules]
  rw [Store.minionsFor, List.mem_filter, mem_minions_iff, hstored, hhost]
  simp [and_assoc]

/-- They are listed by their keys, as a table lists what it has. -/
theorem increasing_minionsFor_run (host : String) :
    ((((fresh f a).run events).store.minionsFor host).map (·.metadata.key)).Pairwise (· < ·) :=
  increasing_minionsFor (fun key i hi => (admitted_run.ingress key i hi).1) host

end Run

/-! ## 1. Marks and warnings -/

/-- The minions of a host with their marks, and what they are told. The minions are those that are
taken on for the host, in the order of their keys. Each has a mark for every path that it lists and
for no other. A path is marked as the own one of one minion at most, and no minion that lists it is
senior to that one. And a minion that lists a path is told that it is taken exactly when it is not
marked as its own. -/
structure PathsDecided (a : Admission) (events : List Event) (host : String)
    (minions : List Minion) (told : Table (List String)) : Prop where
  /-- The minions are those that are taken on and have the host as their first one. -/
  merged : ∀ i, i ∈ minions.map (·.ingress) ↔
    TakenOn a events (.ingress i) ∧ i.isMinion = true ∧ i.firstHost? = some host
  /-- They come in the order of their keys, each once. -/
  order : (minions.map (·.ingress.metadata.key)).Pairwise (· < ·)
  /-- A minion has a mark for each path that it lists, and for no other. -/
  marks : ∀ m ∈ minions, ∀ path, path ∈ m.validPaths.keys ↔ path ∈ m.ingress.firstPaths
  /-- Two minions never have the same path. -/
  unique : ∀ m ∈ minions, ∀ n ∈ minions, ∀ path, m.validPaths.get? path = some true →
    n.validPaths.get? path = some true → m = n
  /-- Nobody who lists a path is senior to who has it. -/
  unbeaten : ∀ m ∈ minions, ∀ n ∈ minions, ∀ path, m.validPaths.get? path = some true →
    path ∈ n.ingress.firstPaths → n.ingress.metadata.wins m.ingress.metadata = false
  /-- A minion is told that a path is taken exactly when it lists it and does not have it. -/
  told_iff : ∀ m ∈ minions, ∀ path ∈ m.ingress.firstPaths, m.validPaths.get? path = some false ↔
    ∃ texts, told.get? m.ingress.metadata.key = some texts ∧ pathTaken path ∈ texts

/-- After any events and with any admission, the paths of the minions of a host are decided and
explained, whichever ingress has the host. It holds of minions that list a path twice as well; what
they lose by it is said by `path_kept_iff`. -/
theorem paths_decided (f : Features) (a : Admission) (events : List Event) (master : Ingress) :
    let r := masterResource ((fresh f a).run events).store master
    PathsDecided a events master.firstHost r.minions r.childWarnings := by
  intro r
  let minions := ((fresh f a).run events).store.minionsFor master.firstHost
  have hdecided : r.minions = decidedMinions minions := rfl
  have hsorted : (minions.map (·.metadata.key)).Pairwise (· < ·) := increasing_minionsFor_run _
  have hnodup : (minions.map (·.metadata.key)).Nodup := hsorted.imp fun hlt => ne_of_lt hlt
  have hingresses : r.minions.map (·.ingress) = minions :=
    (map_decidedMinions id minions).trans (List.map_id _)
  refine ⟨fun i => ?_, ?_, ?_, ?_, ?_, ?_⟩
  · rw [hingresses]
    exact mem_minionsFor_iff
  · rw [← hingresses, List.map_map] at hsorted
    exact hsorted
  · intro m hm path
    obtain ⟨n, i, -, rfl⟩ := exists_of_mem_decidedMinions hm
    rw [minionOf, Table.mem_keys_iff]
    simp [Table.get?_ofList_map_iff]
  · intro m hm m' hm' path hhas hhas'
    obtain ⟨n, i, hi, rfl⟩ := exists_of_mem_decidedMinions hm
    obtain ⟨n', i', hi', rfl⟩ := exists_of_mem_decidedMinions hm'
    -- both have the number of the holder
    have hholds := ((has_path_iff hi).1 hhas).1
    have hholds' := ((has_path_iff hi').1 hhas').1
    obtain rfl := Standing.isHolder_unique hholds hholds'
    rw [Option.some.inj (hi.symm.trans hi')]
  · intro m hm m' hm' path hhas hlists
    obtain ⟨n, i, hi, rfl⟩ := exists_of_mem_decidedMinions hm
    obtain ⟨n', i', hi', rfl⟩ := exists_of_mem_decidedMinions hm'
    exact not_wins_of_isHolder hi ((has_path_iff hi).1 hhas).1 hi' hlists
  · intro m hm path _
    obtain ⟨n, i, hi, rfl⟩ := exists_of_mem_decidedMinions hm
    rw [lacks_path_iff hi]
    exact (told_iff_lost hnodup hi _).symm

/-! ## 2. Paths without an owner -/

/-- After any events and with any admission, some minion of a host has a path exactly when the one
that the path belongs to lists it once; and every path that is listed belongs to one. A minion that
lists a path twice takes it over from itself: it is marked as the new holder and then, as the one
that it was taken from, as one that does not have it. -/
theorem path_kept_iff (f : Features) (a : Admission) (events : List Event) (master : Ingress)
    (path : String) :
    let minions := (masterResource ((fresh f a).run events).store master).minions
    let ingresses := minions.map (·.ingress)
    ((∃ m ∈ minions, m.validPaths.get? path = some true) ↔
      ∃ i, Entitled ingresses path i ∧ i.firstPaths.count path = 1) ∧
    ((∃ i, Entitled ingresses path i) ↔ ∃ m ∈ minions, path ∈ m.ingress.firstPaths) := by
  intro minions ingresses
  let stored := ((fresh f a).run events).store.minionsFor master.firstHost
  have hsorted : (stored.map (·.metadata.key)).Pairwise (· < ·) := increasing_minionsFor_run _
  have hstored : ingresses = stored := (map_decidedMinions id stored).trans (List.map_id _)
  constructor
  · rw [hstored]
    exact exists_has_path_iff hsorted
  · rw [hstored, exists_entitled_iff hsorted, ← hstored]
    simp [ingresses]

/-- The ingress with a class, so that the built-in admission selects it. -/
def inClass (className : String) (i : Ingress) : Ingress :=
  { i with spec := i.spec.map fun spec => { spec with ingressClassName := some className } }

/-- The minion that lists a path twice passes the checks and is the only one of its master, and the
path is nobody's. Requests for the path are not answered, though nobody else ever asked for it. -/
theorem path_lost_by_repetition :
    let a := Admission.checked "nginx" Features.none
    let master := inClass "nginx" (shopMaster "1")
    let minion := inClass "nginx" (shopMinion "1")
    let c := (fresh Features.none a).run [.apply (.ingress master), .apply (.ingress minion)]
    let minions := (masterResource c.store master).minions
    a.admits (.ingress master) = true ∧ a.admits (.ingress minion) = true ∧
      (∃ m ∈ minions, "/tea" ∈ m.ingress.firstPaths) ∧
      ¬∃ m ∈ minions, m.validPaths.get? "/tea" = some true := by
  decide +kernel

end Gatehouse.Configuration
