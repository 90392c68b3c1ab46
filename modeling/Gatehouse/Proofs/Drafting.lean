import Gatehouse.Proofs.Contest
import Mathlib.Data.Nat.PSub

/-!
Contests that are run over a list of drafts.

A contest says which number holds which slot. The loop that decides it keeps the items as *drafts*
in a list, and for every slot the index of the draft that holds it. An item is added to the end of
the list and then claims its slots: the index of the newest draft is one less than their number, the
holder is looked up by its index, and what a draft gains or loses is written into it. Here every
such access is *checked*: an index that is not in the list, or a number below zero, leaves nothing.

Two things are shown of the loop. It gives something whatever the items are, and that is the outcome
of the contest (`exists_run_actsFor`). So no access fails, at any moment of it; and the indices that
it keeps are those of drafts at every moment (`inRange_run`), since the list never gets shorter.
The argument for the outcome is that the drafts tell which slots an item has claimed and which of
them it has lost so far. A newcomer that gains a slot has not lost the slot before, because it would
have lost it to a holder that is senior to it (`Reflects.notMem_lost`).
-/

set_option autoImplicit false

namespace Gatehouse

/-! ## 1. The loop -/

/-- What the loop does: it adds a draft of an item, or claims a slot for the draft that it added
last. -/
inductive Act (ι : Type)
  | draft (x : ι)
  | claim (slot : String)

/-- The acts for a list of items: each of them is drafted and then claims its slots. -/
def actsFor {ι : Type} (slotsOf : ι → List String) (xs : List ι) : List (Act ι) :=
  xs.flatMap fun x => .draft x :: (slotsOf x).map .claim

/-- The drafts, and for every slot the index of the one that holds it. That the indices are those of
drafts is nothing the structure promises; it is shown of the loop. -/
structure Drafts (α : Type) where
  drafts : List α
  holders : Table Nat

/-- How items are drafted, and what is written into a draft that gains or loses a slot. Hosts, paths
and listeners are given away by the same loop, and differ in these four functions. -/
structure Drafting (ι α : Type) where
  draft : ι → α
  metaOf : α → Meta
  gain : String → α → α
  lose : String → α → α

/-- Changes the element at an index, which has to be in the list. Where it is not, there is no
result, as an access that is out of range has none. -/
def modifyAt? {α : Type} (f : α → α) (i : Nat) (xs : List α) : Option (List α) :=
  (xs[i]?).map fun x => xs.set i (f x)

namespace Drafting

variable {ι α : Type}

/-- Claims a slot for the newest draft. A holder that is senior keeps the slot and the newcomer
loses it; else the newcomer gains the slot first and the holder loses it after that. The order
matters when both are the same draft. -/
def claim (D : Drafting ι α) (s : Drafts α) (slot : String) : Option (Drafts α) := do
  let newest ← s.drafts.length.ppred
  match s.holders.get? slot with
  | none =>
    let drafts ← modifyAt? (D.gain slot) newest s.drafts
    return ⟨drafts, s.holders.insert slot newest⟩
  | some holder =>
    let old ← s.drafts[holder]?
    let new ← s.drafts[newest]?
    if (D.metaOf old).wins (D.metaOf new) then
      let drafts ← modifyAt? (D.lose slot) newest s.drafts
      return ⟨drafts, s.holders⟩
    else
      let gained ← modifyAt? (D.gain slot) newest s.drafts
      let drafts ← modifyAt? (D.lose slot) holder gained
      return ⟨drafts, s.holders.insert slot newest⟩

/-- One act of the loop. -/
def step (D : Drafting ι α) (s : Drafts α) : Act ι → Option (Drafts α)
  | .draft x => some { s with drafts := s.drafts ++ [D.draft x] }
  | .claim slot => D.claim s slot

/-- The loop, from no drafts. It has a result if no access on the way fails. -/
def run (D : Drafting ι α) (acts : List (Act ι)) : Option (Drafts α) :=
  acts.foldlM D.step ⟨[], Table.empty⟩

end Drafting

/-! ## 2. Indices -/

section Modify

variable {α : Type} {f : α → α} {i : Nat}

/-- An access in range succeeds and is the modification of the list. -/
theorem modifyAt?_of_lt {xs : List α} (hi : i < xs.length) :
    modifyAt? f i xs = some (xs.modify i f) := by
  simp [modifyAt?, hi, List.modify_eq_set_getElem?]

/-- In a list that is drafted by numbers, the modification at an index is one of the draft with that
number. The drafts after a step are brought back to this form. -/
theorem modify_mapIdx {ι : Type} (draftOf : Nat → ι → α) (xs : List ι) :
    (xs.mapIdx draftOf).modify i f =
      xs.mapIdx fun n x => if n = i then f (draftOf n x) else draftOf n x := by
  refine List.ext_getElem? fun n => ?_
  rw [List.getElem?_modify, List.getElem?_mapIdx, List.getElem?_mapIdx]
  cases xs[n]? with
  | none => rfl
  | some x => by_cases hn : i = n <;> simp [hn, eq_comm (a := n)]

/-- Conversely, an access that succeeds was in range, and the list stays as long. -/
theorem length_of_modifyAt? {xs ys : List α} (h : modifyAt? f i xs = some ys) :
    i < xs.length ∧ ys.length = xs.length := by
  obtain ⟨x, hx, rfl⟩ := Option.map_eq_some_iff.1 h
  exact ⟨(List.getElem?_eq_some_iff.1 hx).1, List.length_set⟩

end Modify

/-- Every slot has the index of a draft. Drafts are only ever added, so what is in range stays
so. -/
def Drafts.InRange {α : Type} (s : Drafts α) : Prop :=
  ∀ slot i, s.holders.get? slot = some i → i < s.drafts.length

namespace Drafts.InRange

variable {α : Type} {s : Drafts α}

/-- The indices stay in range when drafts are added or written to. -/
theorem of_length_le (h : s.InRange) {drafts : List α} (hle : s.drafts.length ≤ drafts.length) :
    InRange ⟨drafts, s.holders⟩ :=
  fun slot i hi => Nat.lt_of_lt_of_le (h slot i hi) hle

/-- A slot may be given the index of any draft that is there. -/
theorem insert (h : s.InRange) {drafts : List α} (hle : s.drafts.length ≤ drafts.length)
    {slot : String} {i : Nat} (hi : i < drafts.length) :
    InRange ⟨drafts, s.holders.insert slot i⟩ := by
  intro slot' j hj
  rw [Table.get?_insert] at hj
  split_ifs at hj
  · exact Option.some.inj hj ▸ hi
  · exact h.of_length_le hle slot' j hj

end Drafts.InRange

namespace Drafting

variable {ι α : Type} {D : Drafting ι α} {s t : Drafts α}

/-- A claim keeps the indices in range. It gives the slot to the newest draft, if at all, and the
two accesses to drafts leave the length. -/
theorem inRange_claim (h : s.InRange) {slot : String} (hclaim : D.claim s slot = some t) :
    t.InRange := by
  unfold claim at hclaim
  obtain ⟨newest, hnewest, hclaim⟩ := Option.bind_eq_some_iff.1 hclaim
  have hlt : newest < s.drafts.length := by
    have := Nat.ppred_eq_some.1 hnewest
    omega
  rcases hholder : s.holders.get? slot with _ | holder <;> rw [hholder] at hclaim
  · obtain ⟨drafts, hdrafts, hclaim⟩ := Option.bind_eq_some_iff.1 hclaim
    obtain rfl := Option.some.inj hclaim
    have hlength := (length_of_modifyAt? hdrafts).2
    exact h.insert (by omega) (by omega)
  · obtain ⟨old, -, hclaim⟩ := Option.bind_eq_some_iff.1 hclaim
    obtain ⟨new, -, hclaim⟩ := Option.bind_eq_some_iff.1 hclaim
    split_ifs at hclaim
    · obtain ⟨drafts, hdrafts, hclaim⟩ := Option.bind_eq_some_iff.1 hclaim
      obtain rfl := Option.some.inj hclaim
      exact h.of_length_le (length_of_modifyAt? hdrafts).2.ge
    · obtain ⟨gained, hgained, hclaim⟩ := Option.bind_eq_some_iff.1 hclaim
      obtain ⟨drafts, hdrafts, hclaim⟩ := Option.bind_eq_some_iff.1 hclaim
      obtain rfl := Option.some.inj hclaim
      have hlength := (length_of_modifyAt? hgained).2
      have hlength' := (length_of_modifyAt? hdrafts).2
      exact h.insert (by omega) (by omega)

/-- An act keeps the indices in range: a new draft only makes the list longer. -/
theorem inRange_step (h : s.InRange) {a : Act ι} (hstep : D.step s a = some t) : t.InRange := by
  cases a with
  | draft x =>
    obtain rfl := Option.some.inj hstep
    exact h.of_length_le (by simp)
  | claim slot => exact inRange_claim h hstep

theorem run_append (acts more : List (Act ι)) :
    D.run (acts ++ more) = (D.run acts).bind fun s => more.foldlM D.step s :=
  List.foldlM_append

/-- The indices are in range after any acts that succeed. This does not need that the acts are those
for a list of items. -/
theorem inRange_run {acts : List (Act ι)} (hrun : D.run acts = some s) : s.InRange := by
  induction acts using List.reverseRecOn generalizing s with
  | nil =>
    obtain rfl := Option.some.inj hrun
    exact fun slot i hi => nomatch hi
  | append_singleton acts a ih =>
    rw [run_append] at hrun
    obtain ⟨t, ht, hstep⟩ := Option.bind_eq_some_iff.1 hrun
    exact inRange_step (ih ht) (by simpa using hstep)

end Drafting

/-! ## 3. How a claim ends -/

namespace Drafting

variable {ι α : Type} {D : Drafting ι α} {s : Drafts α} {slot : String} {newest : Nat}

/-- A slot that nobody holds goes to the newest draft. In this section the list of drafts is not
empty, and the newest one is the last. -/
theorem claim_of_free (hlength : s.drafts.length = newest + 1)
    (hfree : s.holders.get? slot = none) :
    D.claim s slot =
      some ⟨s.drafts.modify newest (D.gain slot), s.holders.insert slot newest⟩ := by
  have hlt : newest < s.drafts.length := by omega
  rw [claim, hlength, Nat.ppred_succ, Option.bind_eq_bind, Option.bind_some, hfree]
  simp [modifyAt?_of_lt hlt]

section Held

variable {holder : Nat} {old new : α}

/-- A holder that is senior to the newest draft keeps the slot. -/
theorem claim_of_senior (hlength : s.drafts.length = newest + 1)
    (hholder : s.holders.get? slot = some holder) (hold : s.drafts[holder]? = some old)
    (hnew : s.drafts[newest]? = some new) (hwins : (D.metaOf old).wins (D.metaOf new) = true) :
    D.claim s slot = some ⟨s.drafts.modify newest (D.lose slot), s.holders⟩ := by
  have hlt : newest < s.drafts.length := by omega
  rw [claim, hlength, Nat.ppred_succ, Option.bind_eq_bind, Option.bind_some, hholder]
  simp [hold, hnew, hwins, modifyAt?_of_lt hlt]

/-- A holder that is not senior loses the slot to the newest draft. The holder may be the newest
draft itself, which then gains the slot and loses it at once. -/
theorem claim_of_not_senior (hlength : s.drafts.length = newest + 1)
    (hholder : s.holders.get? slot = some holder) (hold : s.drafts[holder]? = some old)
    (hnew : s.drafts[newest]? = some new) (hwins : ¬(D.metaOf old).wins (D.metaOf new) = true) :
    D.claim s slot = some ⟨(s.drafts.modify newest (D.gain slot)).modify holder (D.lose slot),
      s.holders.insert slot newest⟩ := by
  have hlt : newest < s.drafts.length := by omega
  have hlt' : holder < (s.drafts.modify newest (D.gain slot)).length := by
    rw [List.length_modify]
    exact (List.getElem?_eq_some_iff.1 hold).1
  rw [claim, hlength, Nat.ppred_succ, Option.bind_eq_bind, Option.bind_some, hholder]
  simp [hold, hnew, hwins, modifyAt?_of_lt hlt, modifyAt?_of_lt hlt']

end Held

end Drafting

/-! ## 4. What the drafts tell -/

/-- The drafts tell what has been claimed and lost: `after x claimed lost` is the draft of an item
that has claimed some slots and lost some of them. A draft that loses a slot which it has just
gained only tells the loss, and a slot that is claimed again makes no difference. -/
structure Drafting.Tells {ι α : Type} (D : Drafting ι α) (seniority : ι → Meta)
    (after : ι → List String → List String → α) : Prop where
  draft_eq : ∀ x, D.draft x = after x [] []
  metaOf_after : ∀ x claimed lost, D.metaOf (after x claimed lost) = seniority x
  gain_after : ∀ x claimed lost slot, slot ∉ lost →
    D.gain slot (after x claimed lost) = after x (claimed ++ [slot]) lost
  lose_after : ∀ x claimed lost slot,
    D.lose slot (after x claimed lost) = after x (claimed ++ [slot]) (lost ++ [slot])
  lose_gain : ∀ x claimed lost slot,
    D.lose slot (D.gain slot (after x claimed lost)) = D.lose slot (after x claimed lost)
  again : ∀ x claimed lost slot, slot ∈ claimed →
    after x (claimed ++ [slot]) lost = after x claimed lost

/-! ## 5. The outcome -/

section Outcome

variable {ι α : Type} {D : Drafting ι α} {seniority : ι → Meta}
  {after : ι → List String → List String → α}

/-- The drafts of some items, of which some claims have been decided: every draft tells what its
item has claimed and lost, and the indices are the numbers of the holders. The claims come by the
numbers of the items. -/
structure Reflects (seniority : ι → Meta) (after : ι → List String → List String → α)
    (xs : List ι) (claims : List Claim) (s : Drafts α) : Prop where
  drafts : s.drafts = xs.mapIdx fun n x =>
    after x (claimedBy n claims) ((settle claims).lost n)
  holders : s.holders = (settle claims).holders.map (·.claimant)
  sorted : claims.Pairwise fun a b => a.claimant ≤ b.claimant
  numbered : ∀ c ∈ claims, ∃ x, xs[c.claimant]? = some x ∧ seniority x = c.metadata

namespace Reflects

open Drafting (claim_of_free claim_of_senior claim_of_not_senior)

variable {xs : List ι} {claims : List Claim} {s : Drafts α}

/-- Without items there is no draft, and nothing has been claimed. -/
theorem start : Reflects seniority after [] [] (⟨[], Table.empty⟩ : Drafts α) where
  drafts := rfl
  holders := rfl
  sorted := .nil
  numbered _ hc := absurd hc List.not_mem_nil

theorem lt_length (h : Reflects seniority after xs claims s) {c : Claim} (hc : c ∈ claims) :
    c.claimant < xs.length := by
  obtain ⟨x, hx, -⟩ := h.numbered c hc
  exact (List.getElem?_eq_some_iff.1 hx).1

/-- There is a draft for every item. -/
theorem length_drafts (h : Reflects seniority after xs claims s) :
    s.drafts.length = xs.length := by
  rw [h.drafts, List.length_mapIdx]

/-- Another item has not claimed anything. Its draft is therefore the one after no claims and no
losses. -/
theorem draft (htells : D.Tells seniority after) (h : Reflects seniority after xs claims s) (x : ι) :
    Reflects seniority after (xs ++ [x]) claims ⟨s.drafts ++ [D.draft x], s.holders⟩ where
  drafts := by
    have hclaimed : claimedBy xs.length claims = [] :=
      claimedBy_eq_nil fun c hc => Nat.ne_of_lt (h.lt_length hc)
    have hlost : (settle claims).lost xs.length = [] := by
      refine List.eq_nil_iff_forall_not_mem.2 fun slot hslot => ?_
      obtain ⟨c, hc, hnumber, -⟩ := exists_of_mem_lost hslot
      exact Nat.ne_of_lt (h.lt_length hc) hnumber
    rw [List.mapIdx_concat, ← h.drafts, hclaimed, hlost, htells.draft_eq]
  holders := h.holders
  sorted := h.sorted
  numbered c hc := by
    obtain ⟨y, hy, hmeta⟩ := h.numbered c hc
    exact ⟨y, by rwa [List.getElem?_append_left (h.lt_length hc)], hmeta⟩

/-- The draft of an item tells what it has claimed and lost so far. -/
theorem getElem?_drafts (h : Reflects seniority after xs claims s) {n : Nat} {y : ι}
    (hy : xs[n]? = some y) :
    s.drafts[n]? = some (after y (claimedBy n claims) ((settle claims).lost n)) := by
  rw [h.drafts, List.getElem?_mapIdx, hy, Option.map_some]

/-- So when an item has been added, its number is that of the newest draft. -/
theorem length_eq_succ {x : ι} (h : Reflects seniority after (xs ++ [x]) claims s) :
    s.drafts.length = xs.length + 1 := by
  rw [h.length_drafts, List.length_append, List.length_singleton]

/-- And no claim is by a greater number. -/
theorem claimant_le {x : ι} (h : Reflects seniority after (xs ++ [x]) claims s) :
    ∀ c ∈ claims, c.claimant ≤ xs.length := fun c hc => by
  simpa [Nat.lt_succ_iff] using h.lt_length hc

/-- The claims come by the numbers of the items when the newest one claims. What is left to show of
a claim are the drafts and the holders after it. -/
theorem concat {x : ι} (h : Reflects seniority after (xs ++ [x]) claims s) {c : Claim}
    (hnumber : c.claimant = xs.length) (hmeta : c.metadata = seniority x) {t : Drafts α}
    (hdrafts : t.drafts = (xs ++ [x]).mapIdx fun n y =>
      after y (claimedBy n (claims ++ [c])) ((settle (claims ++ [c])).lost n))
    (hholders : t.holders = (settle (claims ++ [c])).holders.map (·.claimant)) :
    Reflects seniority after (xs ++ [x]) (claims ++ [c]) t where
  drafts := hdrafts
  holders := hholders
  sorted := by
    refine List.pairwise_append.2 ⟨h.sorted, List.pairwise_singleton .., fun a ha b hb => ?_⟩
    rw [List.mem_singleton.1 hb, hnumber]
    exact h.claimant_le a ha
  numbered d hd := by
    rcases List.mem_append.1 hd with hin | hin
    · exact h.numbered d hin
    · rw [List.mem_singleton.1 hin]
      exact ⟨x, by simp [hnumber], hmeta.symm⟩

/-- A newcomer that the holder of the slot does not turn away has not lost the slot before: the
holder would have been senior to it then. -/
theorem notMem_lost {x : ι} (h : Reflects seniority after (xs ++ [x]) claims s) {slot : String}
    {holder : Claim} (hholder : (settle claims).holders.get? slot = some holder)
    (hstays : ¬holder.metadata.wins (seniority x) = true) (hne : xs.length ≠ holder.claimant) :
    slot ∉ (settle claims).lost xs.length := by
  intro hlost
  obtain ⟨c, hc, hnumber, rfl⟩ := exists_of_mem_lost hlost
  obtain ⟨y, hy, hmeta⟩ := h.numbered c hc
  obtain rfl : x = y := by simpa [hnumber] using hy
  have hle := h.claimant_le holder (mem_of_get?_settle hholder).1
  rw [hmeta] at hstays
  exact hstays (wins_of_get?_settle h.sorted hholder hc rfl (by omega))

/-- The newest draft is as senior as its item. -/
theorem exists_newest (htells : D.Tells seniority after) {x : ι}
    (h : Reflects seniority after (xs ++ [x]) claims s) :
    ∃ new, s.drafts[xs.length]? = some new ∧ D.metaOf new = seniority x :=
  ⟨_, h.getElem?_drafts (by simp), htells.metaOf_after ..⟩

/-- A holder has its index under the slot, where there is a draft as senior as it. -/
theorem exists_holder (htells : D.Tells seniority after) (h : Reflects seniority after xs claims s)
    {slot : String} {holder : Claim} (hholder : (settle claims).holders.get? slot = some holder) :
    s.holders.get? slot = some holder.claimant ∧
      ∃ old, s.drafts[holder.claimant]? = some old ∧ D.metaOf old = holder.metadata := by
  obtain ⟨y, hy, hmeta⟩ := h.numbered holder (mem_of_get?_settle hholder).1
  refine ⟨?_, _, h.getElem?_drafts hy, ?_⟩
  · rw [h.holders, Table.get?_map, hholder, Option.map_some]
  · rw [htells.metaOf_after, hmeta]

section Claim

variable (htells : D.Tells seniority after) {x : ι} {c : Claim}
  (h : Reflects seniority after (xs ++ [x]) claims s)
  (hnumber : c.claimant = xs.length) (hmeta : c.metadata = seniority x)

include htells h hnumber hmeta

/-- The slot was free. Then nobody has lost it, and the newest draft gains it as one that it has not
lost. -/
theorem exists_claim_of_free (hfree : (settle claims).holders.get? c.slot = none) :
    ∃ t, D.claim s c.slot = some t ∧ Reflects seniority after (xs ++ [x]) (claims ++ [c]) t := by
  -- nobody has claimed the slot, so nobody has lost it
  have hlost : c.slot ∉ (settle claims).lost xs.length := by
    intro hlost
    obtain ⟨d, hd, -, hslot⟩ := exists_of_mem_lost hlost
    obtain ⟨holder, hholder⟩ := exists_get?_settle hd
    rw [hslot, hfree] at hholder
    cases hholder
  have hsettle : settle (claims ++ [c]) =
      ⟨(settle claims).holders.insert c.slot c, (settle claims).losses⟩ := by
    rw [settle_append, Standing.claim, hfree]
  have hnone : s.holders.get? c.slot = none := by
    rw [h.holders, Table.get?_map, hfree, Option.map_none]
  refine ⟨_, claim_of_free h.length_eq_succ hnone, h.concat hnumber hmeta ?_ ?_⟩
  · rw [h.drafts, modify_mapIdx, hsettle]
    refine congrArg (List.mapIdx · (xs ++ [x])) (funext₂ fun n y => ?_)
    rw [claimedBy_concat, hnumber]
    split_ifs with hn
    · rw [hn, htells.gain_after _ _ _ _ hlost]
      rfl
    · rfl
  · rw [hsettle, Table.map_insert, ← h.holders, hnumber]

section Held

variable {holder : Claim} (hholder : (settle claims).holders.get? c.slot = some holder)

include hholder

/-- The newcomer is turned away. This is the one case in which the holders stay as they are. -/
theorem exists_claim_of_senior (hwins : holder.metadata.wins c.metadata = true) :
    ∃ t, D.claim s c.slot = some t ∧ Reflects seniority after (xs ++ [x]) (claims ++ [c]) t := by
  obtain ⟨new, hnew, hmetanew⟩ := h.exists_newest htells
  obtain ⟨hheld, old, hold, hmetaold⟩ := h.exists_holder htells hholder
  have hsettle : settle (claims ++ [c]) =
      ⟨(settle claims).holders, (settle claims).losses ++ [(c.claimant, c.slot)]⟩ := by
    rw [settle_append, Standing.claim, hholder]
    exact if_pos hwins
  refine ⟨_, claim_of_senior h.length_eq_succ hheld hold hnew ?_, h.concat hnumber hmeta ?_ ?_⟩
  · rwa [hmetaold, hmetanew, ← hmeta]
  · rw [h.drafts, modify_mapIdx, hsettle]
    refine congrArg (List.mapIdx · (xs ++ [x])) (funext₂ fun n y => ?_)
    rw [claimedBy_concat, Standing.lost_append, hnumber]
    split_ifs with hn
    · rw [htells.lose_after]
    · rfl
  · rw [hsettle, h.holders]

/-- The newcomer takes the slot over, perhaps from itself. From another holder it gains a slot that
it has not lost; from itself it is left with the loss alone. -/
theorem exists_claim_of_not_senior (hstays : ¬holder.metadata.wins c.metadata = true) :
    ∃ t, D.claim s c.slot = some t ∧ Reflects seniority after (xs ++ [x]) (claims ++ [c]) t := by
  obtain ⟨new, hnew, hmetanew⟩ := h.exists_newest htells
  obtain ⟨hheld, old, hold, hmetaold⟩ := h.exists_holder htells hholder
  have hsettle : settle (claims ++ [c]) = ⟨(settle claims).holders.insert c.slot c,
      (settle claims).losses ++ [(holder.claimant, c.slot)]⟩ := by
    rw [settle_append, Standing.claim, hholder]
    exact if_neg hstays
  refine ⟨_, claim_of_not_senior h.length_eq_succ hheld hold hnew ?_,
    h.concat hnumber hmeta ?_ ?_⟩
  · rwa [hmetaold, hmetanew, ← hmeta]
  · rw [h.drafts, modify_mapIdx, modify_mapIdx, hsettle]
    refine congrArg (List.mapIdx · (xs ++ [x])) (funext₂ fun n y => ?_)
    rw [claimedBy_concat, Standing.lost_append, hnumber]
    by_cases hn : n = xs.length <;> by_cases hk : n = holder.claimant
    · rw [if_pos hk, if_pos hn, if_pos hn, if_pos hk, htells.lose_gain, htells.lose_after]
    · have hlost : c.slot ∉ (settle claims).lost n :=
        hn ▸ h.notMem_lost hholder (hmeta ▸ hstays) (hn ▸ hk)
      rw [if_neg hk, if_pos hn, if_pos hn, if_neg hk, htells.gain_after _ _ _ _ hlost]
    · obtain ⟨hmem, hslot⟩ := mem_of_get?_settle hholder
      have hclaimed : c.slot ∈ claimedBy n claims := by
        rw [hk, ← hslot]
        exact mem_claimedBy hmem
      rw [if_pos hk, if_neg hn, if_neg hn, if_pos hk, htells.lose_after,
        htells.again _ _ _ _ hclaimed]
    · rw [if_neg hk, if_neg hn, if_neg hn, if_neg hk]
  · rw [hsettle, Table.map_insert, ← h.holders, hnumber]

end Held

/-- One more claim of the newest item ends in the loop as it does in the contest. The cases are who
holds the slot and whether it is senior. -/
theorem exists_claim :
    ∃ t, D.claim s c.slot = some t ∧ Reflects seniority after (xs ++ [x]) (claims ++ [c]) t := by
  rcases hholder : (settle claims).holders.get? c.slot with _ | holder
  · exact exists_claim_of_free htells h hnumber hmeta hholder
  · by_cases hwins : holder.metadata.wins c.metadata = true
    · exact exists_claim_of_senior htells h hnumber hmeta hholder hwins
    · exact exists_claim_of_not_senior htells h hnumber hmeta hholder hwins

end Claim

/-- And so do its claims to any slots, one after the other. This is the run lemma of one item; the
whole loop is the same over the items. -/
theorem exists_claims (htells : D.Tells seniority after) {x : ι}
    (h : Reflects seniority after (xs ++ [x]) claims s) (slots : List String) :
    ∃ t, (slots.map Act.claim).foldlM D.step s = some t ∧
      Reflects seniority after (xs ++ [x]) (claims ++ claimsOf xs.length (seniority x) slots) t := by
  induction slots generalizing claims s with
  | nil => exact ⟨s, rfl, by rwa [claimsOf, List.map_nil, List.append_nil]⟩
  | cons slot slots ih =>
    obtain ⟨t, ht, hreflects⟩ :=
      exists_claim htells h (c := ⟨slot, xs.length, seniority x⟩) rfl rfl
    obtain ⟨u, hu, hreflects'⟩ := ih hreflects
    refine ⟨u, ?_, by simpa [claimsOf] using hreflects'⟩
    rw [List.map_cons, List.foldlM_cons]
    exact Option.bind_eq_some_iff.2 ⟨t, ht, hu⟩

end Reflects

/-- The loop reflects the contest. The induction is on the items, each of which is drafted and then
makes its claims. -/
theorem exists_run_reflects (htells : D.Tells seniority after) (slotsOf : ι → List String)
    (xs : List ι) :
    ∃ s, D.run (actsFor slotsOf xs) = some s ∧ Reflects seniority after xs
      (xs.zipIdx.flatMap fun x => claimsOf x.2 (seniority x.1) (slotsOf x.1)) s := by
  induction xs using List.reverseRecOn with
  | nil => exact ⟨_, rfl, .start⟩
  | append_singleton xs x ih =>
    obtain ⟨s, hs, hreflects⟩ := ih
    obtain ⟨t, ht, hreflects'⟩ := (hreflects.draft htells x).exists_claims htells (slotsOf x)
    refine ⟨t, ?_, by rwa [claims_concat]⟩
    have hacts : actsFor slotsOf (xs ++ [x]) =
        actsFor slotsOf xs ++ .draft x :: (slotsOf x).map .claim := by simp [actsFor]
    rw [hacts, Drafting.run_append, hs]
    exact ht

/-- The loop gives the outcome of the contest: the same holders, and for every item the draft of
what it wants and has lost. -/
theorem exists_run_actsFor (htells : D.Tells seniority after) (slotsOf : ι → List String)
    (xs : List ι) :
    ∃ s, D.run (actsFor slotsOf xs) = some s ∧
      s.holders = (contest seniority slotsOf xs).holders.map (·.claimant) ∧
      s.drafts = xs.mapIdx fun n x =>
        after x (slotsOf x) ((contest seniority slotsOf xs).lost n) := by
  obtain ⟨s, hs, hreflects⟩ := exists_run_reflects htells slotsOf xs
  refine ⟨s, hs, hreflects.holders, ?_⟩
  rw [hreflects.drafts]
  refine List.ext_getElem? fun n => ?_
  rw [List.getElem?_mapIdx, List.getElem?_mapIdx]
  cases hx : xs[n]? with
  | none => rfl
  | some x => rw [Option.map_some, Option.map_some, claimedBy_claims hx]; rfl

end Outcome

/-! ## 6. In range at every moment -/

/-- At every moment of the loop no access has failed, the indices that it keeps are those of drafts,
and when a slot is claimed there is a newest draft. -/
structure Drafting.StaysInRange {ι α : Type} (D : Drafting ι α) (acts : List (Act ι)) : Prop where
  indices : ∀ done, done <+: acts → ∃ s, D.run done = some s ∧ s.InRange
  newest : ∀ done slot, done ++ [.claim slot] <+: acts →
    ∃ s, D.run done = some s ∧ 0 < s.drafts.length

/-- A loop that gives something has stayed in range, since no later act can make up for an access
that has failed. -/
theorem Drafting.staysInRange_of_run {ι α : Type} {D : Drafting ι α} {acts : List (Act ι)}
    {s : Drafts α} (hrun : D.run acts = some s) : D.StaysInRange acts := by
  have hreached : ∀ done, done <+: acts → ∃ t, D.run done = some t := by
    rintro done ⟨rest, rfl⟩
    rw [Drafting.run_append] at hrun
    obtain ⟨t, ht, -⟩ := Option.bind_eq_some_iff.1 hrun
    exact ⟨t, ht⟩
  refine ⟨fun done hdone => ?_, fun done slot hdone => ?_⟩
  · obtain ⟨t, ht⟩ := hreached done hdone
    exact ⟨t, ht, Drafting.inRange_run ht⟩
  · obtain ⟨t, ht⟩ := hreached _ hdone
    rw [Drafting.run_append] at ht
    obtain ⟨u, hu, hclaim⟩ := Option.bind_eq_some_iff.1 ht
    refine ⟨u, hu, Nat.pos_of_ne_zero fun hzero => ?_⟩
    simp [Drafting.step, Drafting.claim, hzero] at hclaim

end Gatehouse
