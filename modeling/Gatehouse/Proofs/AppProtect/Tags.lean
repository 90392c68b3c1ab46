import Gatehouse.AppProtect.Signatures
import Gatehouse.Proofs.Seniority
import Gatehouse.Proofs.Table

/-!
Tags: which of the signatures that have one can be used.

The status of a signature is a mark that comes and goes. What is `Kept` of a signature is that it is
as it was stored first, up to the mark that it has lost its tag. That mark has no part in a contest,
so the contests for the tags come out as if all signatures were stored anew
(`reconcile_of_kept`), and what they come to is a function of the objects alone (`settled`).

For objects that lie under their own keys this function is then described without rankings: a
well-formed signature loses its tag exactly when another one with the tag precedes it
(`holdsTag_iff`). So a status says of an object what `Usable` and `Unusable` say (`judges_judged`).
-/

set_option autoImplicit false

namespace Gatehouse

/-- The status says whether something can be used, and why it cannot. Stated for a pair of
properties, it is what signatures, policies and log configurations have in common, and look-ups are
described from it (`answers_of_judges`). -/
structure Judges (status : Option Invalid) (usable : Prop) (unusable : Invalid → Prop) : Prop where
  usable_iff : status = none ↔ usable
  unusable_iff : ∀ why, status = some why ↔ unusable why

/-- When every case is covered, it is enough to look at what the status is in each of them. -/
theorem judges_of {status : Option Invalid} {usable : Prop} {unusable : Invalid → Prop}
    (hnone : usable → status = none) (hsome : ∀ why, unusable why → status = some why)
    (hall : usable ∨ ∃ why, unusable why) : Judges status usable unusable := by
  rcases hall with h | ⟨why, h⟩
  · have hstatus := hnone h
    refine ⟨iff_of_true hstatus h, fun why => ⟨fun heq => ?_, hsome why⟩⟩
    rw [hstatus] at heq
    cases heq
  · have hstatus := hsome why h
    refine ⟨⟨fun heq => ?_, hnone⟩, fun why' => ⟨fun heq => ?_, hsome why'⟩⟩
    · rw [hstatus] at heq
      cases heq
    · obtain rfl := Option.some.inj (hstatus.symm.trans heq)
      exact h

namespace Signature

/-! ## 1. Well-formed objects -/

/-- The object has a list of signatures, and its time of revision can be read if it has one. Only a
well-formed signature contends for its tag. -/
structure WellFormed (o : ApUserSig) : Prop where
  listed : o.spec.signatures.isArray = true
  readable : ∀ text, o.spec.revisionDatetime = some text → ∃ t, Instant.read text = .ok t

/-- What is wrong with the object. The list of signatures is looked at before the time of the
revision, and a time that is not given is not wrong. -/
inductive Malformed (o : ApUserSig) : Invalid → Prop
  | unlisted (h : o.spec.signatures.isArray = false) : Malformed o .validationFailed
  | unreadable (listed : o.spec.signatures.isArray = true) (text : String)
      (h : o.spec.revisionDatetime = some text) (hread : ∀ t, Instant.read text ≠ .ok t) :
      Malformed o .invalidTimestamp

/-- The object has the tag. The empty text is no tag, and signatures without a tag do not compete
with each other. -/
def HasTag (o : ApUserSig) (tag : String) : Prop := o.spec.tag = some tag ∧ tag ≠ ""

/-- Every object is one or the other. -/
theorem wellFormed_or_malformed (o : ApUserSig) : WellFormed o ∨ ∃ why, Malformed o why := by
  cases hlisted : o.spec.signatures.isArray with
  | false => exact .inr ⟨_, .unlisted hlisted⟩
  | true =>
    by_cases hread : ∀ text, o.spec.revisionDatetime = some text → ∃ t, Instant.read text = .ok t
    · exact .inl ⟨hlisted, hread⟩
    · push Not at hread
      obtain ⟨text, htext, hread⟩ := hread
      exact .inr ⟨_, .unreadable hlisted text htext hread⟩

section OfObject

variable {o : ApUserSig} {tag : String}

/-- A malformed object is stored with its status. -/
theorem ofObject_of_malformed {why : Invalid} (h : Malformed o why) :
    ofObject o = malformed o why := by
  cases h with
  | unlisted h => simp [ofObject, h]
  | unreadable hlisted text htext hread =>
    simp only [ofObject, hlisted, htext]
    cases hresult : Instant.read text with
    | ok t => exact absurd hresult (hread t)
    | error e => rfl

/-- A well-formed one is stored with its tag and the time of its revision. -/
theorem ofObject_of_wellFormed (h : WellFormed o) :
    ofObject o = ⟨o, o.spec.tag.getD "",
      o.spec.revisionDatetime.bind fun text => (Instant.read text).toOption, none⟩ := by
  simp only [ofObject, h.listed]
  cases htext : o.spec.revisionDatetime with
  | none => rfl
  | some text =>
    obtain ⟨t, ht⟩ := h.readable text htext
    simp [ht, Except.toOption]

@[simp] theorem object_ofObject : (ofObject o).object = o := by
  rcases wellFormed_or_malformed o with h | ⟨why, h⟩
  · rw [ofObject_of_wellFormed h]
  · rw [ofObject_of_malformed h]
    rfl

@[simp] theorem metadata_ofObject : (ofObject o).metadata = o.metadata := by
  rw [metadata, object_ofObject]

/-- An object is stored with a status when it is malformed, and the status says in which way.
Whether its tag is taken shows only after the contests. -/
theorem status_ofObject_eq_some_iff {why : Invalid} :
    (ofObject o).status = some why ↔ Malformed o why := by
  constructor
  · intro hstatus
    rcases wellFormed_or_malformed o with h | ⟨why', h⟩
    · rw [ofObject_of_wellFormed h] at hstatus
      cases hstatus
    · rw [ofObject_of_malformed h] at hstatus
      exact Option.some.inj hstatus ▸ h
  · intro h
    rw [ofObject_of_malformed h]
    rfl

/-- Without a tag, an object is stored with the empty one. So an empty tag is taken for none. -/
theorem hasTag_iff : HasTag o tag ↔ o.spec.tag.getD "" = tag ∧ tag ≠ "" := by
  refine and_congr_left fun hne => ?_
  cases o.spec.tag with
  | none => simp [hne.symm]
  | some tag' => simp

/-- A signature contends for a tag when it is well formed and has the tag. Of what is stored only
the object is left in this. -/
theorem contends_ofObject_iff :
    ((ofObject o).contends = true ∧ (ofObject o).tag = tag) ↔ WellFormed o ∧ HasTag o tag := by
  rcases wellFormed_or_malformed o with h | ⟨why, h⟩
  · rw [ofObject_of_wellFormed h]
    simp only [contends, h, hasTag_iff, true_and]
    constructor
    · rintro ⟨hcontends, rfl⟩
      exact ⟨rfl, by simpa using hcontends⟩
    · rintro ⟨rfl, hne⟩
      exact ⟨by simpa using hne, rfl⟩
  · -- What is malformed is stored without a tag and never stands in the contest.
    have hnot : ¬WellFormed o := fun hwell => by
      have hstatus := status_ofObject_eq_some_iff.2 h
      rw [ofObject_of_wellFormed hwell] at hstatus
      cases hstatus
    rw [ofObject_of_malformed h]
    simp [contends, malformed, hnot]

/-- Who contends for a tag has no status when it is stored. -/
theorem status_of_contends (h : (ofObject o).contends = true) : (ofObject o).status = none := by
  rw [ofObject_of_wellFormed (contends_ofObject_iff.1 ⟨h, rfl⟩).1]

end OfObject

/-! ## 2. The contests -/

/-- The signature is as it was stored first, or it has contended for its tag and has lost it.
Nothing else can become of a signature in the course of events. -/
def Kept (s : Signature) : Prop :=
  s = ofObject s.object ∨ (ofObject s.object).contends = true ∧
    s = { ofObject s.object with status := some .duplicateTag }

theorem kept_ofObject (o : ApUserSig) : Kept (ofObject o) := .inl (by rw [object_ofObject])

/-- What the contests for the tags of some objects make of one of them. -/
def judged (objects : Table ApUserSig) (o : ApUserSig) : Signature :=
  if (ofObject o).contends && !holdsTag (objects.map ofObject) (ofObject o) then
    { ofObject o with status := some .duplicateTag }
  else ofObject o

/-- What can be used after the contests is as it was stored first. -/
theorem judged_of_status {objects : Table ApUserSig} {o : ApUserSig}
    (h : (judged objects o).status = none) : judged objects o = ofObject o := by
  rw [judged] at h ⊢
  split at h
  · cases h
  · rename_i hnot
    exact if_neg hnot

/-- The signatures that the contests for the tags of some objects come to. It is a function of the
objects, so no history is left in it. -/
def settled (objects : Table ApUserSig) : Table Signature := objects.map (judged objects)

theorem object_judged (objects : Table ApUserSig) (o : ApUserSig) :
    (judged objects o).object = o := by
  rw [judged, apply_ite object]
  simp

theorem kept_judged (objects : Table ApUserSig) (o : ApUserSig) : Kept (judged objects o) := by
  rw [Kept, object_judged, judged]
  split
  · rename_i h
    rw [Bool.and_eq_true] at h
    exact .inr ⟨h.1, rfl⟩
  · exact .inl rfl

theorem object_settled (objects : Table ApUserSig) : (settled objects).map object = objects := by
  refine Table.ext_get? fun key => ?_
  simp [settled, Table.get?_map, Function.comp_def, object_judged]

section Kept

variable {stored : Table Signature} (hkept : ∀ s ∈ stored.values, Kept s)

/-- The mark has no part in what decides a contest. -/
theorem Kept.contends_eq {s : Signature} (h : Kept s) :
    s.contends = (ofObject s.object).contends ∧ s.tag = (ofObject s.object).tag := by
  rcases h with h | ⟨hcontends, h⟩
  · rw [← h]
    exact ⟨rfl, rfl⟩
  · have hne := (Bool.and_eq_true_iff.1 hcontends).1
    rw [h, object_ofObject, hcontends]
    exact ⟨by simp [contends, hne], rfl⟩

include hkept

/-- So the same ones contend for a tag whether or not they are marked. This is why deciding the
contests again from the marks of the last time comes to the same. -/
theorem contenders_of_kept (tag : String) :
    contenders ((stored.map object).map ofObject) tag =
      (contenders stored tag).map fun s => ofObject s.object := by
  have hmetadata : metadata ∘ (fun s : Signature => ofObject s.object) = metadata :=
    funext fun s => metadata_ofObject
  have hsame : stored.values.filter
      ((fun s => s.contends && s.tag == tag) ∘ fun s => ofObject s.object) =
        stored.values.filter fun s => s.contends && s.tag == tag := by
    refine List.filter_congr fun s hs => ?_
    obtain ⟨hcontends, htag⟩ := (hkept s hs).contends_eq
    rw [Function.comp, hcontends, htag]
  rw [contenders, Table.values_map, Table.values_map, List.map_map]
  show bySeniority metadata ((stored.values.map fun s => ofObject s.object).filter _) = _
  rw [List.filter_map, bySeniority_map, hmetadata, hsame, contenders]

/-- And the same one holds it. -/
theorem holdsTag_of_kept {s : Signature} (hs : s ∈ stored.values) :
    holdsTag ((stored.map object).map ofObject) (ofObject s.object) = holdsTag stored s := by
  rw [holdsTag, contenders_of_kept hkept, ← (hkept s hs).contends_eq.2, List.head?_map,
    Option.any_map, metadata_ofObject, holdsTag]
  simp only [metadata_ofObject]
  rfl

/-- A contest judges a signature as it would the object. The marks that are there already are
written over or were right. -/
theorem decided_of_kept {s : Signature} (hs : s ∈ stored.values) :
    decided stored s = judged (stored.map object) s.object := by
  rw [judged, holdsTag_of_kept hkept hs, decided, ← (hkept s hs).contends_eq.1]
  rcases hkept s hs with h | ⟨hcontends, h⟩
  · -- as it was stored first
    cases hcontends : s.contends with
    | false => simp [← h]
    | true =>
      have hstatus : s.status = none := by
        rw [h] at hcontends ⊢
        exact status_of_contends hcontends
      cases holdsTag stored s with
      | false => simp [isUsable, hstatus, ← h]
      | true =>
        rw [← h]
        simp [← hstatus]
  · -- marked by an earlier contest: the mark goes when it holds the tag now
    have hcontends' : s.contends = true := (hkept s hs).contends_eq.1.trans hcontends
    have hstatus : s.status = some .duplicateTag := by rw [h]
    rw [hcontends']
    cases holdsTag stored s with
    | false => simpa [isUsable, hstatus] using h
    | true =>
      have hbare : { ofObject s.object with status := none } = ofObject s.object := by
        rw [← status_of_contends hcontends]
      rw [h]
      simpa using hbare

/-- Marks that are kept do not show in what the contests come to. -/
theorem reconcile_of_kept : reconcile stored = settled (stored.map object) := by
  refine Table.ext_get? fun key => ?_
  rw [reconcile, settled, Table.get?_map, Table.get?_map, Table.get?_map, Option.map_map]
  cases hget : stored.get? key with
  | none => rfl
  | some s => exact congrArg some (decided_of_kept hkept (Table.mem_values_iff.2 ⟨key, hget⟩))

end Kept

/-- After the contests each signature is of this form again. -/
theorem kept_settled (objects : Table ApUserSig) : ∀ s ∈ (settled objects).values, Kept s := by
  intro s hs
  rw [settled, Table.values_map] at hs
  obtain ⟨o, -, rfl⟩ := List.mem_map.1 hs
  exact kept_judged objects o

/-- A signature that is stored besides others settles as if all were stored anew. -/
theorem reconcile_insert (objects : Table ApUserSig) (key : String) (o : ApUserSig) :
    reconcile ((settled objects).insert key (ofObject o)) = settled (objects.insert key o) := by
  have hkept : ∀ s ∈ ((settled objects).insert key (ofObject o)).values, Kept s := by
    intro s hs
    rcases Table.eq_or_mem_of_mem_values_insert hs with rfl | hs
    · exact kept_ofObject o
    · exact kept_settled objects s hs
  rw [reconcile_of_kept hkept, Table.map_insert, object_settled, object_ofObject]

/-- So do the others when a signature is removed. -/
theorem reconcile_erase (objects : Table ApUserSig) (key : String) :
    reconcile ((settled objects).erase key) = settled (objects.erase key) := by
  have hkept : ∀ s ∈ ((settled objects).erase key).values, Kept s := fun s hs =>
    kept_settled objects s (Table.mem_of_mem_values_erase hs)
  rw [reconcile_of_kept hkept, Table.map_erase, object_settled]

/-! ## 3. Which signatures can be used -/

/-- The signature is well formed, and no other one that is stored, is well formed and has its tag
precedes it. -/
structure Usable (stored : ApUserSig → Prop) (o : ApUserSig) : Prop where
  wellFormed : WellFormed o
  unpreceded : ∀ tag, HasTag o tag → ∀ r, stored r → WellFormed r → HasTag r tag →
    ¬r.metadata.Precedes o.metadata

/-- Why the signature cannot be used. A malformed one does not take part in the contest for its tag,
so it neither is beaten nor beats another one. -/
inductive Unusable (stored : ApUserSig → Prop) (o : ApUserSig) : Invalid → Prop
  | malformed {why : Invalid} (h : Malformed o why) : Unusable stored o why
  | preceded (h : WellFormed o) (tag : String) (htag : HasTag o tag) (r : ApUserSig) (hr : stored r)
      (hwell : WellFormed r) (hrtag : HasTag r tag) (hprecedes : r.metadata.Precedes o.metadata) :
      Unusable stored o .duplicateTag

section Holds

variable {objects : Table ApUserSig}
  (hkeys : ∀ key o, objects.get? key = some o → o.metadata.key = key)

/-- Those that contend for a tag are the well-formed objects with the tag. -/
theorem mem_contending_iff {tag : String} {s : Signature} :
    (s ∈ (objects.map ofObject).values.filter fun s => s.contends && s.tag == tag) ↔
      ∃ r ∈ objects.values, s = ofObject r ∧ WellFormed r ∧ HasTag r tag := by
  rw [List.mem_filter, Table.values_map, List.mem_map, Bool.and_eq_true, beq_iff_eq]
  constructor
  · rintro ⟨⟨r, hr, rfl⟩, hcontends⟩
    exact ⟨r, hr, rfl, contends_ofObject_iff.1 hcontends⟩
  · rintro ⟨r, hr, rfl, hr'⟩
    exact ⟨⟨r, hr, rfl⟩, contends_ofObject_iff.2 hr'⟩

include hkeys

/-- Signatures are listed by the keys of their objects. That is the order in which equals are left
by a ranking. -/
theorem pairwise_keys_contending (tag : String) :
    ((objects.map ofObject).values.filter fun s => s.contends && s.tag == tag).Pairwise
      fun s r => s.metadata.key < r.metadata.key := by
  refine List.Pairwise.filter _ ?_
  rw [Table.values_map, List.pairwise_map, Table.values, List.pairwise_map]
  refine objects.increasing.imp_of_mem fun {a b} ha hb hlt => ?_
  rw [metadata_ofObject, metadata_ofObject, hkeys a.1 a.2 (Table.mem_entries_iff.1 ha),
    hkeys b.1 b.2 (Table.mem_entries_iff.1 hb)]
  exact hlt

/-- A well-formed signature holds its tag exactly when no other one with the tag precedes it. -/
theorem holdsTag_iff {tag : String} {o : ApUserSig} (ho : o ∈ objects.values)
    (hwell : WellFormed o) (htag : HasTag o tag) :
    holdsTag (objects.map ofObject) (ofObject o) = true ↔
      ∀ r ∈ objects.values, WellFormed r → HasTag r tag → ¬r.metadata.Precedes o.metadata := by
  have htag' : (ofObject o).tag = tag := (contends_ofObject_iff.2 ⟨hwell, htag⟩).2
  have hhead := fun s : Signature =>
    head?_bySeniority_eq_some_iff (h := s) (pairwise_keys_contending hkeys tag)
  rw [holdsTag, htag', contenders, Option.any_eq_true]
  constructor
  · rintro ⟨s, hs, hkey⟩ r hr hwell' hr'
    obtain ⟨hmem, hnone⟩ := (hhead s).1 hs
    -- the holder has the key of the signature, so it is the signature
    obtain ⟨o', ho', rfl, -, -⟩ := mem_contending_iff.1 hmem
    rw [metadata_ofObject, metadata_ofObject, beq_iff_eq] at hkey
    obtain rfl : o' = o := List.inj_on_of_nodup_map (Table.nodup_map_values hkeys) ho' ho hkey
    have hnot := hnone (ofObject r) (mem_contending_iff.2 ⟨r, hr, rfl, hwell', hr'⟩)
    rwa [metadata_ofObject, metadata_ofObject] at hnot
  · intro hnone
    refine ⟨ofObject o, (hhead _).2 ⟨mem_contending_iff.2 ⟨o, ho, rfl, hwell, htag⟩, ?_⟩,
      beq_self_eq_true _⟩
    intro s hs
    obtain ⟨r, hr, rfl, hwell', hr'⟩ := mem_contending_iff.1 hs
    rw [metadata_ofObject, metadata_ofObject]
    exact hnone r hr hwell' hr'

/-- What the contests come to says of a stored object whether it can be used, and why not if it
cannot. -/
theorem judges_judged {o : ApUserSig} (ho : o ∈ objects.values) :
    Judges (judged objects o).status (Usable (· ∈ objects.values) o)
      (Unusable (· ∈ objects.values) o) := by
  refine judges_of (fun h => ?_) (fun why h => ?_) ?_
  · -- one without a tag does not contend
    have hstatus : (ofObject o).status = none := by rw [ofObject_of_wellFormed h.wellFormed]
    have hkeeps : ((ofObject o).contends && !holdsTag (objects.map ofObject) (ofObject o)) =
        false := by
      cases hcontends : (ofObject o).contends with
      | false => rfl
      | true =>
        obtain ⟨-, htag⟩ := contends_ofObject_iff.1 ⟨hcontends, rfl⟩
        rw [(holdsTag_iff hkeys ho h.wellFormed htag).2 (h.unpreceded _ htag)]
        rfl
    rw [judged, hkeeps, if_neg Bool.false_ne_true, hstatus]
  · -- a well-formed one that another one precedes has lost its tag
    cases h with
    | malformed h => simp [judged, ofObject_of_malformed h, Signature.malformed, contends]
    | preceded hwell tag htag r hr hrwell hrtag hprecedes =>
      have hcontends := (contends_ofObject_iff.2 ⟨hwell, htag⟩).1
      have hlost : ¬holdsTag (objects.map ofObject) (ofObject o) = true := fun hholds =>
        (holdsTag_iff hkeys ho hwell htag).1 hholds r hr hrwell hrtag hprecedes
      simp [judged, hcontends, hlost]
  · rcases wellFormed_or_malformed o with hwell | ⟨why, h⟩
    · by_cases hfirst : ∀ tag, HasTag o tag → ∀ r ∈ objects.values, WellFormed r →
          HasTag r tag → ¬r.metadata.Precedes o.metadata
      · exact .inl ⟨hwell, hfirst⟩
      · push Not at hfirst
        obtain ⟨tag, htag, r, hr, hrwell, hrtag, hprecedes⟩ := hfirst
        exact .inr ⟨_, .preceded hwell tag htag r hr hrwell hrtag hprecedes⟩
    · exact .inr ⟨why, .malformed h⟩

/-- The signatures that can be used, as they were stored first. A usable one bears no mark, so it is
what its object was stored as. -/
theorem mem_usable_iff {s : Signature} :
    s ∈ (settled objects).values.filter (·.isUsable) ↔
      ∃ o ∈ objects.values, Usable (· ∈ objects.values) o ∧ s = ofObject o := by
  rw [List.mem_filter, settled, Table.values_map, List.mem_map]
  constructor
  · rintro ⟨⟨o, ho, rfl⟩, husable⟩
    have hstatus : (judged objects o).status = none := by simpa [isUsable] using husable
    exact ⟨o, ho, (judges_judged hkeys ho).usable_iff.1 hstatus, judged_of_status hstatus⟩
  · rintro ⟨o, ho, husable, rfl⟩
    have hstatus := (judges_judged hkeys ho).usable_iff.2 husable
    refine ⟨⟨o, ho, judged_of_status hstatus⟩, ?_⟩
    rw [← judged_of_status hstatus, isUsable, hstatus]
    rfl

end Holds

end Signature

end Gatehouse
