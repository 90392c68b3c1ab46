import Gatehouse.Plan.Listeners
import Gatehouse.Proofs.Drafting
import Gatehouse.Proofs.Plan.Core

/-!
The plans as loops over drafts.

Resources are drafted and claim their hosts, minions their paths, and transport servers the listener
that they ask for. What a draft is told when it loses a slot is written into it at once. A minion
has a mark for each path besides, which every claim writes anew; the marks of an ingress for its
hosts are written when all claims have been decided.

Each of the three loops gives something for every store, and the plan is what it gives
(`hostPlan_eq_run`, `minions_eq_run`, `listenerPlan_eq_run`).
-/

set_option autoImplicit false

namespace Gatehouse

/-- The table has for every slot what stands at the index of the slot, and all indices are in the
list. The second part keeps the first from leaving a slot out. -/
def ReadsAll {α : Type} (holders : Table Nat) (xs : List α) (t : Table α) : Prop :=
  (∀ slot i, holders.get? slot = some i → i < xs.length) ∧ t = holders.filterMap fun i => xs[i]?

/-- The indices of a contest read what the numbers of its holders say. -/
theorem readsAll_of_run {ι α β : Type} {D : Drafting ι α} {acts : List (Act ι)} {s : Drafts α}
    {standing : Standing} {xs : List β} (hrun : D.run acts = some s)
    (hholders : s.holders = standing.holders.map (·.claimant))
    (hlength : xs.length = s.drafts.length) :
    ReadsAll s.holders xs (standing.holders.filterMap fun c => xs[c.claimant]?) := by
  refine ⟨fun slot i hi => hlength ▸ Drafting.inRange_run hrun slot i hi, ?_⟩
  refine Table.ext_get? fun slot => ?_
  rw [hholders, Table.get?_filterMap, Table.get?_filterMap, Table.get?_map, Option.bind_map]
  rfl

/-! ## 1. Hosts -/

namespace Resource

/-- A resource with more warnings. -/
def warned (texts : List String) : Resource → Resource
  | .ingress r => .ingress { r with warnings := r.warnings ++ texts }
  | .virtualServer r => .virtualServer { r with warnings := r.warnings ++ texts }
  | .transportServer r => .transportServer { r with warnings := r.warnings ++ texts }

/-- An ingress has a mark for each of its hosts, which says whether the host has its index. -/
def marked (holders : Table Nat) (number : Nat) : Resource → Resource
  | .ingress r =>
    .ingress { r with
      validHosts := Table.ofList (r.ingress.hosts.map fun h => (h, holders.get? h == some number)) }
  | .virtualServer r => .virtualServer r
  | .transportServer r => .transportServer r

theorem warned_nil (r : Resource) : r.warned [] = r := by
  cases r <;> simp [warned]

theorem warned_append (r : Resource) (texts more : List String) :
    (r.warned texts).warned more = r.warned (texts ++ more) := by
  cases r <;> simp [warned]

theorem metadata_warned (r : Resource) (texts : List String) :
    (r.warned texts).metadata = r.metadata := by
  cases r <;> rfl

/-- What the contest decides of a resource are its warnings first and its marks after that. The loop
writes the two at different times. -/
theorem decided_eq_marked (standing : Standing) (number : Nat) (r : Resource) :
    r.decided standing number =
      (r.warned ((standing.lost number).map hostTaken)).marked
        (standing.holders.map (·.claimant)) number := by
  cases r with
  | ingress r =>
    have hholds : ∀ h, standing.isHolder number h =
        ((standing.holders.map (·.claimant)).get? h == some number) := by
      intro h
      rw [Standing.isHolder, Table.get?_map]
      cases standing.holders.get? h <;> rfl
    simp [decided, warned, marked, hholds]
  | virtualServer r => rfl
  | transportServer r => rfl

end Resource

/-- Resources are drafted as they are, and are told which hosts they lose. Gaining a host leaves no
trace in the draft. -/
def hostDrafting : Drafting Resource Resource where
  draft r := r
  metaOf r := r.metadata
  gain _ r := r
  lose host r := r.warned [hostTaken host]

/-- The acts that decide who has which host. -/
def hostActs (a : Admission) (passthrough : Bool) (s : Store) : List (Act Resource) :=
  actsFor (·.hosts) (hostClaimants a passthrough s)

/-- A draft tells the hosts that it has lost, and nothing of those it has claimed. -/
theorem hostDrafting_tells : hostDrafting.Tells (·.metadata)
    fun r _ lost => r.warned (lost.map hostTaken) where
  draft_eq r := r.warned_nil.symm
  metaOf_after r _ lost := r.metadata_warned _
  gain_after _ _ _ _ _ := rfl
  lose_after r _ lost host := by
    rw [List.map_append]
    exact r.warned_append ..
  lose_gain _ _ _ _ := rfl
  again _ _ _ _ _ := rfl

/-- The loop over the hosts gives something for every store, and with the marks written at the end
it is the plan. -/
theorem hostPlan_eq_run (a : Admission) (passthrough : Bool) (s : Store) :
    ∃ d, hostDrafting.run (hostActs a passthrough s) = some d ∧
      (hostPlan a passthrough s).resources = d.drafts.mapIdx (Resource.marked d.holders) ∧
      ReadsAll d.holders (hostPlan a passthrough s).resources (hostPlan a passthrough s).hosts := by
  obtain ⟨d, hrun, hholders, hdrafts⟩ :=
    exists_run_actsFor hostDrafting_tells (·.hosts) (hostClaimants a passthrough s)
  have hresources : (hostPlan a passthrough s).resources =
      d.drafts.mapIdx (Resource.marked d.holders) := by
    rw [hdrafts, List.mapIdx_mapIdx, List.mapIdx_eq_zipIdx_map, hholders]
    refine List.map_congr_left fun x _ => ?_
    exact Resource.decided_eq_marked ..
  refine ⟨d, hrun, hresources, readsAll_of_run hrun hholders ?_⟩
  rw [hresources, List.length_mapIdx]

/-! ## 2. Minions -/

/-- The marks of paths that are claimed, of which some are lost. A path that is claimed twice has
one mark. -/
def pathMarks (claimed lost : List String) : Table Bool :=
  Table.ofList (claimed.map fun path => (path, !lost.contains path))

/-- A path has a mark when it is claimed, and the mark says whether it is lost. -/
theorem get?_pathMarks (claimed lost : List String) (path : String) :
    (pathMarks claimed lost).get? path =
      if path ∈ claimed then some (!lost.contains path) else none := by
  refine Option.ext fun mark => ?_
  rw [pathMarks, Table.get?_ofList_map_iff]
  split_ifs with h <;> simp [h, eq_comm]

/-- Writing that a path is had adds it to those that are claimed. A path that has been lost is left
out here, because the mark would no longer say so. -/
theorem insert_true_pathMarks {claimed lost : List String} {path : String} (h : path ∉ lost) :
    (pathMarks claimed lost).insert path true = pathMarks (claimed ++ [path]) lost := by
  refine Table.ext_get? fun p => ?_
  rw [Table.get?_insert, get?_pathMarks, get?_pathMarks]
  by_cases hp : path = p
  · simp [← hp, h]
  · simp [hp, Ne.symm hp]

/-- Writing that a path is lost adds it to both. -/
theorem insert_false_pathMarks (claimed lost : List String) (path : String) :
    (pathMarks claimed lost).insert path false =
      pathMarks (claimed ++ [path]) (lost ++ [path]) := by
  refine Table.ext_get? fun p => ?_
  rw [Table.get?_insert, get?_pathMarks, get?_pathMarks]
  by_cases hp : path = p
  · simp [← hp]
  · simp [hp, Ne.symm hp]

/-- A path that is claimed once more has its mark already. -/
theorem pathMarks_concat_of_mem {claimed lost : List String} {path : String} (h : path ∈ claimed) :
    pathMarks (claimed ++ [path]) lost = pathMarks claimed lost := by
  refine Table.ext_get? fun p => ?_
  have hmem : p ∈ claimed ++ [path] ↔ p ∈ claimed := by simpa using fun hp => hp ▸ h
  rw [get?_pathMarks, get?_pathMarks, if_congr hmem rfl rfl]

/-- A minion that is being drafted, and what it is told. The texts are kept with the draft, and go
into the table of warnings when the loop is over. -/
structure MinionDraft where
  minion : Minion
  told : List String

/-- The minion with a mark for a path. -/
def Minion.mark (m : Minion) (path : String) (has : Bool) : Minion :=
  { m with validPaths := m.validPaths.insert path has }

/-- Minions are drafted without marks; each claim to a path writes a mark. -/
def minionDrafting : Drafting Ingress MinionDraft where
  draft i := ⟨⟨i, Table.empty⟩, []⟩
  metaOf d := d.minion.ingress.metadata
  gain path d := { d with minion := d.minion.mark path true }
  lose path d := ⟨d.minion.mark path false, d.told ++ [pathTaken path]⟩

/-- The acts that decide which minion of a host has which path. -/
def minionActs (s : Store) (host : String) : List (Act Ingress) :=
  actsFor (·.firstPaths) (s.minionsFor host)

/-- What the minions are told, under their keys. -/
def toldByKey (drafts : List MinionDraft) : Table (List String) :=
  Table.ofList (drafts.filterMap fun d =>
    if d.told.isEmpty then none else some (d.minion.ingress.metadata.key, d.told))

/-- A draft of a minion tells both what it has claimed and what it has lost, since each of them has
its mark. -/
theorem minionDrafting_tells : minionDrafting.Tells (·.metadata)
    fun i claimed lost => ⟨⟨i, pathMarks claimed lost⟩, lost.map pathTaken⟩ where
  draft_eq _ := rfl
  metaOf_after _ _ _ := rfl
  gain_after i claimed lost path hlost :=
    congrArg (fun marks => MinionDraft.mk ⟨i, marks⟩ _) (insert_true_pathMarks hlost)
  lose_after i claimed lost path := by
    rw [List.map_append, ← insert_false_pathMarks]
    rfl
  lose_gain i claimed lost path :=
    congrArg (fun marks => MinionDraft.mk ⟨i, marks⟩ _) (Table.insert_insert ..)
  again i claimed lost path hclaimed :=
    congrArg (fun marks => MinionDraft.mk ⟨i, marks⟩ _) (pathMarks_concat_of_mem hclaimed)

/-- The drafts of minions whose contest is decided are the minions, with what they are told. -/
theorem toldByKey_eq (standing : Standing) (minions : List Ingress) :
    toldByKey (minions.zipIdx.map fun x =>
      ⟨minionOf standing x.2 x.1, (standing.lost x.2).map pathTaken⟩) =
        minionWarnings standing minions := by
  rw [toldByKey, minionWarnings, List.filterMap_map]
  refine congrArg Table.ofList (List.filterMap_congr fun x _ => ?_)
  cases hlost : standing.lost x.2 <;> simp [hlost, minionOf]

/-- The loop over the paths of a host gives something for every store: the minions with their marks,
and what they are told. -/
theorem minions_eq_run (s : Store) (host : String) :
    ∃ d, minionDrafting.run (minionActs s host) = some d ∧
      decidedMinions (s.minionsFor host) = d.drafts.map (·.minion) ∧
      minionWarnings (pathContest (s.minionsFor host)) (s.minionsFor host) =
        toldByKey d.drafts := by
  obtain ⟨d, hrun, -, houtcome⟩ :=
    exists_run_actsFor minionDrafting_tells (·.firstPaths) (s.minionsFor host)
  have hdrafts : d.drafts = (s.minionsFor host).zipIdx.map fun x =>
      ⟨minionOf (pathContest (s.minionsFor host)) x.2 x.1,
        ((pathContest (s.minionsFor host)).lost x.2).map pathTaken⟩ := by
    rw [houtcome, List.mapIdx_eq_zipIdx_map]
    rfl
  refine ⟨d, hrun, ?_, ?_⟩
  · rw [hdrafts, List.map_map]
    rfl
  · rw [hdrafts, toldByKey_eq]

/-! ## 3. Listeners -/

/-- Transport servers are drafted with their ports, and are told which listener they lose. -/
def listenerDrafting : Drafting TransportServerResource TransportServerResource where
  draft r := r
  metaOf r := r.server.metadata
  gain _ r := r
  lose listener r := { r with warnings := r.warnings ++ [listenerTaken listener] }

/-- The acts that decide which transport server is bound to which listener. -/
def listenerActs (s : Store) : List (Act TransportServerResource) :=
  actsFor (claimedListener s) (s.listeningServers.map (listeningResource s))

/-- A draft tells the listener that it has lost, as with hosts. -/
theorem listenerDrafting_tells : listenerDrafting.Tells (·.server.metadata)
    fun r _ lost => { r with warnings := r.warnings ++ lost.map listenerTaken } where
  draft_eq r := by simp [listenerDrafting]
  metaOf_after _ _ _ := rfl
  gain_after _ _ _ _ _ := rfl
  lose_after r _ lost listener := by simp [listenerDrafting]
  lose_gain _ _ _ _ := rfl
  again _ _ _ _ _ := rfl

/-- The loop over the listeners gives something for every store, and it is the plan. There is
nothing left to write when it ends. -/
theorem listenerPlan_eq_run (s : Store) :
    ∃ d, listenerDrafting.run (listenerActs s) = some d ∧
      (listenerPlan s).servers = d.drafts ∧
      ReadsAll d.holders (listenerPlan s).servers (listenerPlan s).listeners := by
  obtain ⟨d, hrun, hholders, hdrafts⟩ := exists_run_actsFor listenerDrafting_tells
    (claimedListener s) (s.listeningServers.map (listeningResource s))
  have hservers : (listenerPlan s).servers = d.drafts := by
    rw [hdrafts, List.mapIdx_eq_zipIdx_map]
    refine List.map_congr_left fun x hx => ?_
    -- nobody is told anything before the claims are decided
    have hnone : x.1.warnings = [] := by
      obtain ⟨ts, -, hts⟩ := List.mem_map.1 (List.fst_mem_of_mem_zipIdx hx)
      rw [← hts]
      rfl
    simp only [hnone, List.nil_append]
  refine ⟨d, hrun, hservers, readsAll_of_run hrun hholders ?_⟩
  rw [hservers]

end Gatehouse
