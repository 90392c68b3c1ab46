import Gatehouse.Resource
import Gatehouse.Proofs.Key
import Mathlib.Data.List.Nodup

/-!
Resources compared, and what a resource serves.

Two resources are equivalent exactly when they have the same *rendering*: what the comparison looks
at, written down as a value (`equivalent_iff`). That equivalence is reflexive, symmetric and
transitive, and that it keeps the key, then needs no case analysis.

A resource says itself what it serves: an ingress the hosts that its table of hosts marks, a virtual
server its host, a transport server its host when it asks for the built-in listener and else its
listener. `serves_congr` is the reason why it is safe to tell nothing about an equivalent resource:
two equivalent resources that have one slot in common serve the same slots.
-/

set_option autoImplicit false

namespace Gatehouse

/-! ## 1. Keys -/

/-- A key is taken apart at its first slash, so the names of kinds must not have one. -/
theorem Kind.slash_notMem_name (k : Kind) : '/' ∉ k.name.toList := by cases k <;> decide

theorem Kind.name_inj {k l : Kind} (h : k.name = l.name) : k = l := by
  cases k <;> cases l <;> first | rfl | exact absurd h (by decide)

theorem Kind.joinKey_inj {k l : Kind} {x y : String} (h : joinKey k.name x = joinKey l.name y) :
    k = l ∧ x = y := by
  obtain ⟨hname, hkey⟩ := Gatehouse.joinKey_inj k.slash_notMem_name l.slash_notMem_name h
  exact ⟨Kind.name_inj hname, hkey⟩

theorem nodup_joinKey {α : Type} (kind : Kind) {keyOf : α → String} {xs : List α}
    (h : (xs.map keyOf).Nodup) : (xs.map fun x => joinKey kind.name (keyOf x)).Nodup := by
  have hinj : Function.Injective (joinKey kind.name) := fun x y hxy => (Kind.joinKey_inj hxy).2
  simpa [Function.comp_def] using h.map hinj

/-! ## 2. Equivalence -/

/-- An object in one of its generations. Two objects of the same version need not be equal, and
whether their specifications are is nothing that the comparison can see. -/
structure Version where
  space : Option String
  name : Option String
  generation : Option Int
  deriving DecidableEq

/-- The version that the metadata of an object tell. -/
def Meta.version (m : Meta) : Version := ⟨m.space, m.name, m.generation⟩

/-- What the comparison of resources looks at. Two resources are equivalent exactly when these are
equal (`equivalent_iff`), so that whatever equality has is had by the comparison. -/
inductive Rendering
  | ingress (version : Version) (annotations : Option (Table String)) (hosts : Table Bool)
    (isMaster : Bool) (minions : List (Version × Option (Table String)))
  | virtualServer (version : Version) (routes : List Version)
  | transportServer (version : Version) (port : Int)

/-- The comparison of namespace, name and generation is one of versions. -/
theorem Meta.sameGeneration_iff {a b : Meta} :
    a.sameGeneration b = true ↔ a.version = b.version := by
  simp [sameGeneration, version, and_assoc]

/-- For an ingress the annotations are compared as well. -/
theorem Meta.sameGenerationAndAnnotations_iff {a b : Meta} :
    a.sameGenerationAndAnnotations b = true ↔
      (a.version, a.annotations) = (b.version, b.annotations) := by
  simp [sameGenerationAndAnnotations, sameGeneration_iff]

/-- Lists are alike when they have the same length and the pairs of items at the same place are
alike. Without the length the end of the longer list would not be looked at. -/
theorem alike_eq_zip {α : Type} (same : α → α → Bool) (as bs : List α) :
    alike same as bs = (as.length == bs.length && (as.zip bs).all fun p => same p.1 p.2) := by
  induction as generalizing bs with
  | nil => cases bs <;> rfl
  | cons a as ih =>
    cases bs with
    | nil => rfl
    | cons b bs =>
      have hlength : ((a :: as).length == (b :: bs).length) = (as.length == bs.length) := by
        rw [List.length_cons, List.length_cons, Bool.eq_iff_iff, beq_iff_eq, beq_iff_eq,
          Nat.add_right_cancel_iff]
      rw [alike, ih, hlength, List.zip_cons_cons, List.all_cons]
      exact Bool.and_left_comm ..

/-- Lists are alike by a comparison of values exactly when their values are the same. Minions and
routes are both compared in this way. -/
theorem alike_iff_map_eq {α β : Type} {same : α → α → Bool} {value : α → β}
    (h : ∀ a b, same a b = true ↔ value a = value b) (as bs : List α) :
    alike same as bs = true ↔ as.map value = bs.map value := by
  induction as generalizing bs with
  | nil => cases bs <;> simp [alike]
  | cons a as ih => cases bs <;> simp [alike, h, ih]

namespace Resource

/-- What a comparison with another resource looks at. -/
def rendering : Resource → Rendering
  | .ingress r =>
    .ingress r.ingress.metadata.version r.ingress.metadata.annotations r.validHosts r.isMaster
      (r.minions.map fun m => (m.ingress.metadata.version, m.ingress.metadata.annotations))
  | .virtualServer r =>
    .virtualServer r.server.metadata.version (r.routes.map (·.metadata.version))
  | .transportServer r => .transportServer r.server.metadata.version r.port

/-- Resources are equivalent exactly when they have the same rendering. All that follows about
equivalence is read off this. -/
theorem equivalent_iff {a b : Resource} : a.equivalent b = true ↔ a.rendering = b.rendering := by
  cases a with
  | ingress a =>
    cases b with
    | ingress b =>
      -- Minions are compared pairwise with the lengths, which is equality of what is read of them.
      have hminions := alike_iff_map_eq (fun m n : Minion =>
        @Meta.sameGenerationAndAnnotations_iff m.ingress.metadata n.ingress.metadata)
        a.minions b.minions
      simp only [equivalent, rendering, Bool.and_eq_true, beq_iff_eq, hminions,
        Meta.sameGenerationAndAnnotations_iff, Prod.mk.injEq, Rendering.ingress.injEq, and_assoc]
    | virtualServer b => simp [equivalent, rendering]
    | transportServer b => simp [equivalent, rendering]
  | virtualServer a =>
    cases b with
    | virtualServer b =>
      have hroutes := alike_iff_map_eq (fun r s : VirtualServerRoute =>
        @Meta.sameGeneration_iff r.metadata s.metadata) a.routes b.routes
      simp only [equivalent, rendering, Bool.and_eq_true, hroutes, Meta.sameGeneration_iff,
        Rendering.virtualServer.injEq]
    | ingress b => simp [equivalent, rendering]
    | transportServer b => simp [equivalent, rendering]
  | transportServer a =>
    cases b with
    | transportServer b =>
      simp [equivalent, rendering, TransportServerResource.equivalent, Meta.sameGeneration_iff]
    | ingress b => simp [equivalent, rendering]
    | virtualServer b => simp [equivalent, rendering]

@[simp] theorem equivalent_refl (a : Resource) : a.equivalent a = true := equivalent_iff.2 rfl

theorem equivalent_symm {a b : Resource} (h : a.equivalent b = true) : b.equivalent a = true :=
  equivalent_iff.2 (equivalent_iff.1 h).symm

theorem equivalent_trans {a b c : Resource} (hab : a.equivalent b = true)
    (hbc : b.equivalent c = true) : a.equivalent c = true :=
  equivalent_iff.2 ((equivalent_iff.1 hab).trans (equivalent_iff.1 hbc))

/-- The version has the namespace and the name in it, so it tells the key. -/
theorem key_eq_of_version_eq {a b : Meta} (h : a.version = b.version) : a.key = b.key := by
  simp only [Meta.version, Version.mk.injEq] at h
  simp [Meta.key, Meta.spaceOrEmpty, h]

/-- Equivalent resources are versions of the same object. -/
theorem key_eq_of_equivalent {a b : Resource} (h : a.equivalent b = true) : a.key = b.key := by
  have hr := equivalent_iff.1 h
  cases a <;> cases b <;> simp only [rendering, reduceCtorEq, Rendering.ingress.injEq,
    Rendering.virtualServer.injEq, Rendering.transportServer.injEq] at hr
  all_goals
    simp only [key, kind, metadata]
    rw [key_eq_of_version_eq hr.1]

theorem validHosts_eq_of_equivalent {i j : IngressResource}
    (h : (Resource.ingress i).equivalent (.ingress j) = true) : i.validHosts = j.validHosts := by
  have hr := equivalent_iff.1 h
  rw [rendering, rendering, Rendering.ingress.injEq] at hr
  exact hr.2.2.1

/-- To be rendered alike is an equivalence, and no two objects are taken for one another by it. For
ingresses it also sees which of their hosts they have. -/
theorem equivalence_refines_key :
    Equivalence (fun a b : Resource => a.equivalent b = true) ∧
      ∀ a b : Resource, a.equivalent b = true → a.key = b.key ∧
        ∀ i j, a = .ingress i → b = .ingress j → i.validHosts = j.validHosts := by
  refine ⟨⟨equivalent_refl, equivalent_symm, equivalent_trans⟩, fun a b h => ?_⟩
  refine ⟨key_eq_of_equivalent h, ?_⟩
  rintro i j rfl rfl
  exact validHosts_eq_of_equivalent h

/-- An object of the namespace `shop` in its first generation. -/
def firstGeneration (name resourceVersion : String) : Meta :=
  { Meta.blank with
    space := some "shop"
    name := some name
    generation := some 1
    resourceVersion := some resourceVersion }

/-- A master that has its host, and a minion. -/
def mergedCafe (resourceVersion : String) (warnings : List String) : IngressResource where
  ingress := ⟨firstGeneration "cafe" resourceVersion, none, none⟩
  isMaster := true
  minions := [⟨⟨firstGeneration "tea" resourceVersion, none, none⟩, Table.empty⟩]
  validHosts := Table.ofList [("cafe.example.com", true)]
  warnings := warnings
  childWarnings := Table.empty

/-- In another resource version and with a warning, the master and the minion are rendered as
before. -/
theorem equivalent_of_resourceVersion :
    Resource.ingress (mergedCafe "1" []) ≠ .ingress (mergedCafe "2" ["late"]) ∧
      (Resource.ingress (mergedCafe "1" [])).equivalent (.ingress (mergedCafe "2" ["late"])) =
        true ∧
      (Resource.ingress (mergedCafe "1" [])).key =
        (Resource.ingress (mergedCafe "2" ["late"])).key ∧
      (mergedCafe "1" []).validHosts = (mergedCafe "2" ["late"]).validHosts := by
  have hsame : (Resource.ingress (mergedCafe "1" [])).equivalent
      (.ingress (mergedCafe "2" ["late"])) = true := by decide +kernel
  obtain ⟨hkey, hhosts⟩ := equivalence_refines_key.2 _ _ hsame
  exact ⟨by decide +kernel, hsame, hkey, hhosts _ _ rfl rfl⟩

end Resource

/-! ## 3. What a resource serves -/

/-- Something that one resource at most is to serve. Hosts and listeners are told apart even where
they have one name. -/
inductive Slot
  | host (name : String)
  | listener (name : String)
  deriving DecidableEq

/-- The slot is a host. -/
def Slot.isHost : Slot → Bool
  | .host _ => true
  | .listener _ => false

theorem Slot.exists_iff {P : Slot → Prop} :
    (∃ slot, P slot) ↔ (∃ h, P (.host h)) ∨ ∃ n, P (.listener n) := by
  constructor
  · rintro ⟨h | n, hslot⟩
    · exact .inl ⟨h, hslot⟩
    · exact .inr ⟨n, hslot⟩
  · rintro (⟨h, hslot⟩ | ⟨n, hslot⟩)
    · exact ⟨_, hslot⟩
    · exact ⟨_, hslot⟩

namespace Resource

/-- The resource, as it says itself, serves the host or the listener. It need not have it: a virtual
server says so of its host also when another resource has that. -/
def serves : Resource → Slot → Bool
  | .ingress r, .host h => r.validHosts.get? h = some true
  | .virtualServer r, .host h => r.server.spec.host = h
  | .transportServer r, .host h =>
    r.server.spec.listener.isPassthrough && decide (r.server.spec.host = h)
  | .transportServer r, .listener n =>
    !r.server.spec.listener.isPassthrough && decide (r.server.spec.listener.name = n)
  | _, _ => false

theorem isHost_eq_of_serves {r : Resource} {s t : Slot} (hs : r.serves s = true)
    (ht : r.serves t = true) : s.isHost = t.isHost := by
  cases r <;> cases s <;> cases t <;> simp_all [serves, Slot.isHost]

/-- A virtual server or a transport server serves one slot only. That is why it cannot lose one and
keep another. -/
theorem eq_of_serves {r : Resource} (hr : ∀ i, r ≠ .ingress i) {s t : Slot}
    (hs : r.serves s = true) (ht : r.serves t = true) : s = t := by
  cases r with
  | ingress i => exact absurd rfl (hr i)
  | virtualServer v =>
    cases s <;> cases t <;> simp only [serves, decide_eq_true_eq, Bool.false_eq_true] at hs ht
    rw [← hs, ← ht]
  | transportServer t' =>
    cases s <;> cases t <;>
      simp only [serves, Bool.and_eq_true, Bool.not_eq_true', decide_eq_true_eq] at hs ht
    · rw [← hs.2, ← ht.2]
    · -- asking for the built-in listener excludes every other one
      exact absurd (hs.1.symm.trans ht.1) (by decide)
    · exact absurd (ht.1.symm.trans hs.1) (by decide)
    · rw [← hs.2, ← ht.2]

/-- Equivalent resources that have a slot in common serve the same slots. The slot in common is
needed, because the comparison does not look at the host of a virtual server. -/
theorem serves_congr {a b : Resource} (h : a.equivalent b = true) {s : Slot}
    (ha : a.serves s = true) (hb : b.serves s = true) (t : Slot) : a.serves t = b.serves t := by
  have hr := equivalent_iff.1 h
  by_cases hi : ∃ i, a = .ingress i
  · -- the tables of hosts are part of what is compared
    obtain ⟨i, rfl⟩ := hi
    cases b with
    | ingress j =>
      simp only [rendering, Rendering.ingress.injEq] at hr
      cases t <;> simp [serves, hr.2.2.1]
    | virtualServer v => simp [rendering] at hr
    | transportServer t => simp [rendering] at hr
  · -- neither serves anything but the common slot
    have hb' : ∀ i, b ≠ .ingress i := by
      rintro i rfl
      cases a with
      | ingress j => exact hi ⟨j, rfl⟩
      | virtualServer v => simp [rendering] at hr
      | transportServer t => simp [rendering] at hr
    by_cases hst : s = t
    · rw [← hst, ha, hb]
    · have hta : a.serves t = false := by
        by_contra hta
        exact hst (eq_of_serves (fun i hi' => hi ⟨i, hi'⟩) ha (by simpa using hta))
      have htb : b.serves t = false := by
        by_contra htb
        exact hst (eq_of_serves hb' hb (by simpa using htb))
      rw [hta, htb]

end Resource

end Gatehouse
