import Gatehouse.Main
import Gatehouse.Proofs.Controller.Run
import Gatehouse.Proofs.Text.Alphabet
import Gatehouse.Proofs.Text.Blank
import Gatehouse.Proofs.Text.Numeral
import Mathlib.Data.Finset.Sort

/-!
The values of the command line: ports, and the global configuration that counts.

Ports are read item by item into a list that increases, and such a list is determined by the set of
its numbers. So what is read of numerals is the listing of the set of their numbers, whatever their
order and however often each is there (`readPorts_of_numerals`). Commas occur neither in numerals
nor among blanks, so a list of ports that was written is cut into the items that it was made of
(`PortItems.portsOf_eq`). The key of a global configuration has one slash. Therefore no other object
has that key, and a controller that is set up with it hands on the messages about one global
configuration only (`values_read_back`).
-/

set_option autoImplicit false

namespace Gatehouse

open Text

/-! ## 1. Sets of ports -/

section Sets

variable {port n : Int} {ports : List Int}

/-- Putting a port into a listing adds it and nothing else. -/
theorem mem_insertPort_iff : n ∈ insertPort port ports ↔ n = port ∨ n ∈ ports := by
  induction ports with
  | nil => simp [insertPort]
  | cons p ps ih =>
    rw [insertPort]
    split
    · exact List.mem_cons
    · split
      · rename_i heq
        rw [heq, List.mem_cons]
        exact or_self_left.symm
      · rw [List.mem_cons, List.mem_cons, ih, or_left_comm]

/-- The listing stays an increasing one, so a port that is there is not put in again. With the
members (`mem_insertPort_iff`) this determines it. -/
theorem pairwise_insertPort (h : ports.Pairwise (· < ·)) :
    (insertPort port ports).Pairwise (· < ·) := by
  induction ports with
  | nil => exact List.pairwise_singleton _ _
  | cons p ps ih =>
    obtain ⟨hp, hps⟩ := List.pairwise_cons.1 h
    rw [insertPort]
    split
    · rename_i hlt
      refine List.pairwise_cons.2 ⟨List.forall_mem_cons.2 ⟨hlt, fun q hq => ?_⟩, h⟩
      exact hlt.trans (hp q hq)
    · split
      · exact h
      · -- the port comes somewhere behind the first one
        refine List.pairwise_cons.2 ⟨fun q hq => ?_, ih hps⟩
        rcases mem_insertPort_iff.1 hq with rfl | hq
        · omega
        · exact hp q hq

/-- A port is put into the listing of a set. An increasing list is determined by its members, which
is why the listing has to be the one. -/
theorem insertPort_sort (port : Int) (P : Finset Int) :
    insertPort port P.sort = (insert port P).sort := by
  have hsorted : ∀ Q : Finset Int, Q.sort.Pairwise (· < ·) := fun Q => Q.sortedLT_sort.pairwise
  refine (pairwise_insertPort (hsorted P)).eq_of_mem_iff (hsorted _) fun n => ?_
  rw [mem_insertPort_iff, Finset.mem_sort, Finset.mem_sort, Finset.mem_insert]

end Sets

/-! ## 2. Reading ports -/

/-- What is read of numerals is the set of their numbers. -/
theorem readPorts_of_numerals {items : List String} {ns : List Int}
    (h : List.Forall₂ (fun item n => NumeralIn int32Range item.toList n) items ns) :
    readPorts items = .ok ns.toFinset.sort := by
  induction h with
  | nil => rw [readPorts, List.toFinset_nil, Finset.sort_empty]
  | cons hitem _ ih =>
    rw [readPorts, (readInt_eq_ok_iff int32Range_hasZero).2 hitem, ih, List.toFinset_cons,
      ← insertPort_sort]
    rfl

/-- Reading stops at what is no numeral, and nowhere else. Which fault it is, the first such item
says. -/
theorem exists_fault_readPorts_iff {items : List String} :
    (∃ fault, readPorts items = .error fault) ↔ ∃ item ∈ items, ¬IsNumeral int32Range item := by
  induction items with
  | nil => simp [readPorts]
  | cons item items ih =>
    rw [readPorts, List.exists_mem_cons_iff, ← ih]
    cases hread : readInt int32Range item.toList with
    | error e =>
      have hitem : ¬IsNumeral int32Range item := by
        rintro ⟨n, hn⟩
        rw [(readInt_eq_ok_iff int32Range_hasZero).2 hn] at hread
        cases hread
      exact iff_of_true ⟨_, rfl⟩ (.inl hitem)
    | ok n =>
      have hitem : IsNumeral int32Range item := ⟨n, (readInt_eq_ok_iff int32Range_hasZero).1 hread⟩
      rw [or_iff_right (not_not_intro hitem)]
      -- the first item is read, so the others decide
      cases readPorts items with
      | error fault => exact iff_of_true ⟨fault, rfl⟩ ⟨fault, rfl⟩
      | ok ports => exact iff_of_false nofun nofun

/-- Items that are blank are dropped before anything is read. -/
theorem exists_fault_portsOf_iff {text : String} :
    (∃ fault, portsOf text = .error fault) ↔
      ∃ item ∈ splitAll ',' text, trimmed item ≠ "" ∧ ¬IsNumeral int32Range (trimmed item) := by
  rw [portsOf, exists_fault_readPorts_iff]
  simp only [List.mem_filter, List.mem_map, Bool.not_eq_true', String.isEmpty_eq_false_iff]
  constructor
  · rintro ⟨_, ⟨⟨item, hitem, rfl⟩, hne⟩, hnumeral⟩
    exact ⟨item, hitem, hne, hnumeral⟩
  · rintro ⟨item, hitem, hne, hnumeral⟩
    exact ⟨trimmed item, ⟨⟨item, hitem, rfl⟩, hne⟩, hnumeral⟩

/-! ## 3. Ports that were written -/

/-- The items that numbers are written as, one after the other: their decimal numerals with blanks
around them, and between those any number of items that are blank. The numbers may come in any order
and more than once. -/
inductive PortItems : List Int → List String → Prop
  | nil : PortItems [] []
  | blank {ns : List Int} {item : String} {items : List String} (hitem : IsBlankText item)
      (hrest : PortItems ns items) : PortItems ns (item :: items)
  | port {n : Int} {ns : List Int} {front back : String} {items : List String}
      (hfront : IsBlankText front) (hback : IsBlankText back) (hrest : PortItems ns items) :
      PortItems (n :: ns) ((front ++ toString n ++ back) :: items)

/-- A numeral has no blanks, so dropping blanks leaves it as it is. -/
theorem not_isBlank_of_mem_toString {n : Int} {c : Char} (hc : c ∈ (toString n).toList) :
    isBlank c = false := by
  rcases (numeral_toString n).mem hc with hdigit | rfl | rfl
  · exact isBlank_of_isDecimalDigit (isDigit_iff.1 hdigit).1
  · decide
  · decide

/-- Nor has it a comma. -/
theorem comma_notMem_toString (n : Int) : ',' ∉ (toString n).toList := by
  intro hc
  rcases (numeral_toString n).mem hc with h | h | h <;> exact absurd h (by decide)

namespace PortItems

variable {ns : List Int} {items : List String}

/-- The numerals are what is left when the blanks are dropped, and with them the blank items. -/
theorem filter_trimmed (h : PortItems ns items) :
    ((items.map trimmed).filter fun item => !item.isEmpty) = ns.map toString := by
  induction h with
  | nil => rfl
  | blank hitem _ ih =>
    rw [List.map_cons, trimmed_eq_empty hitem, List.filter_cons_of_neg (by decide), ih]
  | @port n _ _ _ _ hfront hback _ ih =>
    have hne : toString n ≠ "" := by
      intro heq
      exact (numeral_toString n).ne_nil (by rw [heq]; rfl)
    rw [List.map_cons, trimmed_append hfront hback fun c => not_isBlank_of_mem_toString,
      List.filter_cons_of_pos (by simpa using hne), ih, List.map_cons]

/-- So none of the items has one, and the list is cut where it was put together. -/
theorem comma_notMem (h : PortItems ns items) : ∀ item ∈ items, ',' ∉ item.toList := by
  induction h with
  | nil => exact List.forall_mem_nil _
  | blank hitem _ ih => exact List.forall_mem_cons.2 ⟨hitem.notMem (by decide), ih⟩
  | @port n _ _ _ _ hfront hback _ ih =>
    refine List.forall_mem_cons.2 ⟨?_, ih⟩
    rw [String.toList_append, String.toList_append, List.mem_append, List.mem_append, not_or,
      not_or]
    exact ⟨⟨hfront.notMem (by decide), comma_notMem_toString n⟩, hback.notMem (by decide)⟩

/-- What was written is read as the set of the numbers. Neither the order of the items nor how often
one of them comes is left in the result. -/
theorem portsOf_eq (h : PortItems ns items) (hns : ∀ n ∈ ns, -2 ^ 31 ≤ n ∧ n < 2 ^ 31) :
    portsOf (",".intercalate items) = .ok ns.toFinset.sort := by
  have hnumerals : List.Forall₂ (fun item n => NumeralIn int32Range item.toList n)
      (ns.map toString) ns := by
    refine List.forall₂_map_left_iff.2 (List.forall₂_same.2 fun n hn => ?_)
    obtain ⟨hleast, hgreatest⟩ := hns n hn
    exact numeralIn_toString hleast (Int.lt_add_one_iff.1 hgreatest)
  rw [← readPorts_of_numerals hnumerals, ← h.filter_trimmed, portsOf]
  cases items with
  | nil => rfl
  | cons item items =>
    have hsplit : splitAll ',' (",".intercalate (item :: items)) = item :: items :=
      splitAll_intercalate (List.cons_ne_nil item items) h.comma_notMem
    rw [hsplit]

end PortItems

/-! ## 4. Keys -/

/-- The key of an object is read as it is, and nothing else is read as a key. A text without a
slash, with an empty part or with a second slash is refused. -/
theorem globalKeyOf_eq_ok_iff {s key : String} : globalKeyOf s = .ok key ↔
    key = s ∧ ∃ space name, IsKeyPart space ∧ IsKeyPart name ∧ s = joinKey space name := by
  rw [globalKeyOf]
  cases hsplit : splitFirst '/' s with
  | none =>
    refine iff_of_false nofun ?_
    rintro ⟨-, space, name, hspace, -, rfl⟩
    rw [splitFirst_joinKey hspace.slash_notMem] at hsplit
    cases hsplit
  | some parts =>
    obtain ⟨space, name⟩ := parts
    obtain ⟨hs, hslash⟩ := splitFirst_eq_some_iff.1 hsplit
    -- the parts of the key are those that the text is split into
    have hholds : holds name '/' = false ↔ '/' ∉ name.toList := by
      rw [← Bool.not_eq_true, holds_slash_iff]
    have hparts : (!space.isEmpty && !name.isEmpty && !holds name '/') = true ↔
        IsKeyPart space ∧ IsKeyPart name := by
      simp only [Bool.and_eq_true, Bool.not_eq_true', String.isEmpty_eq_false_iff, hholds]
      exact ⟨fun h => ⟨⟨h.1.1, hslash⟩, h.1.2, h.2⟩, fun h => ⟨⟨h.1.1, h.2.1⟩, h.2.2⟩⟩
    have hkey : (∃ a b, IsKeyPart a ∧ IsKeyPart b ∧ s = joinKey a b) ↔
        IsKeyPart space ∧ IsKeyPart name := by
      constructor
      · rintro ⟨a, b, ha, hb, rfl⟩
        rw [splitFirst_joinKey ha.slash_notMem] at hsplit
        cases hsplit
        exact ⟨ha, hb⟩
      · exact fun h => ⟨space, name, h.1, h.2, hs.trans (String.append_assoc ..).symm⟩
    rw [hkey, ← hparts]
    by_cases h : (!space.isEmpty && !name.isEmpty && !holds name '/') = true
    · simp only [h, if_true, and_true, Except.ok.injEq, eq_comm]
    · simp only [h, if_false, and_false, reduceCtorEq]

/-! ## 5. Values are read back -/

/-- The values of the two options are read back as they were written, and nothing else is read.
Ports that are listed in any order, with repetitions, blanks and blank items are read as their set,
and the reading fails exactly when an item that is not blank is no numeral of 32 bits. The key of a
namespace and a name is kept as it is. A controller that is set up with it only ever counts the
global configuration of that namespace and name, and after any messages it is as if it had never
heard of any other. -/
theorem values_read_back (s : String) :
    (∀ (P : Finset Int) (ns : List Int) (items : List String),
        (∀ n ∈ P, -2 ^ 31 ≤ n ∧ n < 2 ^ 31) → (∀ n, n ∈ ns ↔ n ∈ P) → PortItems ns items →
        s = ",".intercalate items → portsOf s = .ok P.sort) ∧
      ((∃ fault, portsOf s = .error fault) ↔
        ∃ item ∈ splitAll ',' s, trimmed item ≠ "" ∧ ¬IsNumeral int32Range (trimmed item)) ∧
      ((∃ key, globalKeyOf s = .ok key) ↔
        ∃ space name, IsKeyPart space ∧ IsKeyPart name ∧ s = joinKey space name) ∧
      ∀ space name, IsKeyPart space → IsKeyPart name → s = joinKey space name →
        globalKeyOf s = .ok s ∧
        ∀ settings : Settings, settings.globalKey = some s → ∀ messages : List Message,
          let c := settings.controller.run messages
          (∀ m : Meta, c.counts m.key = true ↔ m.space = some space ∧ m.name = some name) ∧
          c = .ofEvents settings.className settings.features (some s)
            ((messages.filter (!·.isOther space name)).map Message.event) := by
  refine ⟨?_, exists_fault_portsOf_iff, ?_, ?_⟩
  · rintro P ns items hP hmem hitems rfl
    have hset : ns.toFinset = P := Finset.ext fun n => List.mem_toFinset.trans (hmem n)
    rw [hitems.portsOf_eq fun n hn => hP n ((hmem n).1 hn), hset]
  · simp only [globalKeyOf_eq_ok_iff, exists_eq_left]
  · rintro space name hspace hname rfl
    refine ⟨globalKeyOf_eq_ok_iff.2 ⟨rfl, space, name, hspace, hname, rfl⟩, ?_⟩
    intro settings hkey messages c
    -- only the messages about the one global configuration have been seen
    have hrun : c = .ofEvents settings.className settings.features (some (joinKey space name))
        ((messages.filter (!·.isOther space name)).map Message.event) := by
      rw [← Controller.run_eq_ofEvents hspace hname, ← hkey]
      rfl
    have hcounted : c.globalKey = some (joinKey space name) := by rw [hrun]; rfl
    exact ⟨fun m => Controller.counts_key_iff hspace hname hcounted, hrun⟩

/-- Two ports out of order, one of them twice and with blanks around it, and a blank item; and the
key of the only global configuration that counts. -/
theorem ports_and_key_read_back :
    PortItems [443, 80, 443] [" 443 ", "80", "\t", "443"] ∧
      portsOf " 443 ,80,\t,443" = .ok (Finset.sort {80, 443}) ∧
      IsKeyPart "shop" ∧ IsKeyPart "nginx" ∧ globalKeyOf "shop/nginx" = .ok "shop/nginx" ∧
      ∀ m : Meta,
        ({ Settings.standard with globalKey := some "shop/nginx" }.controller.counts m.key = true ↔
          m.space = some "shop" ∧ m.name = some "nginx") := by
  have hblank : IsBlankText " " ∧ IsBlankText "" ∧ IsBlankText "\t" := by decide
  obtain ⟨hspaces, hempty, htab⟩ := hblank
  -- the numerals from the last one to the first, with a blank item before the last
  have hlast : PortItems [443] ["443"] := .port hempty hempty .nil
  have hitems : PortItems [443, 80, 443] [" 443 ", "80", "\t", "443"] :=
    .port hspaces hspaces (.port hempty hempty (.blank htab hlast))
  have hrange : ∀ n ∈ ({80, 443} : Finset Int), -2 ^ 31 ≤ n ∧ n < 2 ^ 31 := by simp
  have hmem : ∀ n, n ∈ [443, 80, 443] ↔ n ∈ ({80, 443} : Finset Int) := by
    intro n
    simp only [List.mem_cons, List.not_mem_nil, or_false, Finset.mem_insert, Finset.mem_singleton]
    omega
  have hports := (values_read_back " 443 ,80,\t,443").1 _ _ _ hrange hmem hitems (by decide)
  have hspace : IsKeyPart "shop" := ⟨by decide, by decide⟩
  have hname : IsKeyPart "nginx" := ⟨by decide, by decide⟩
  obtain ⟨-, -, -, hkey⟩ := values_read_back "shop/nginx"
  obtain ⟨hread, hcounts⟩ := hkey "shop" "nginx" hspace hname (by decide)
  exact ⟨hitems, hports, hspace, hname, hread,
    (hcounts { Settings.standard with globalKey := some "shop/nginx" } rfl []).1⟩

end Gatehouse
