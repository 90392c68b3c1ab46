import Gatehouse.AppProtect.Requirements
import Gatehouse.Proofs.AppProtect.Tags

/-!
Requirements: which policies can be used, when certain signatures can be.

What a policy asks for is read once, when it is stored, and only whether that is there is looked at
again. So a policy that is looked at again is as it would be if it were stored then
(`recheck_ofPolicy`).

What a policy asks for is then described by the entries of its list, without reading them into
requirements: an entry with a tag has to have bounds that can be read (`Readable`), and is met by a
signature with the tag whose revision lies between them (`Meets`).
-/

set_option autoImplicit false

namespace Gatehouse

namespace Requirement

/-! ## 1. Entries of a list of requirements -/

/-- The entry asks for a signature with the tag. An entry without a tag, or with a tag that is no
text, asks for nothing and is not looked at further. -/
def AsksFor (entry : Json) (tag : String) : Prop := text? entry "tag" = some tag

/-- The fields for bounds. -/
def boundFields : List String := ["minRevisionDatetime", "maxRevisionDatetime"]

/-- The bounds of the entry that are texts are times. A bound that is no text is none. -/
def Readable (entry : Json) : Prop :=
  ∀ field ∈ boundFields, ∀ text, text? entry field = some text → ∃ t, Instant.read text = .ok t

/-- The time lies strictly inside the bounds of the entry. There may be one bound only, or none. -/
structure Within (entry : Json) (t : Instant) : Prop where
  least : ∀ text least, text? entry "minRevisionDatetime" = some text →
    Instant.read text = .ok least → least.before t = true
  greatest : ∀ text greatest, text? entry "maxRevisionDatetime" = some text →
    Instant.read text = .ok greatest → t.before greatest = true

/-- The signature has the tag, and no revision or one that lies inside the bounds of the entry. -/
structure Meets (entry : Json) (tag : String) (o : ApUserSig) : Prop where
  tagged : Signature.HasTag o tag
  within : ∀ text t, o.spec.revisionDatetime = some text → Instant.read text = .ok t →
    Within entry t

/-- The bound in a field, if there is one that can be read. -/
def readBound (entry : Json) (field : String) : Option Instant :=
  (text? entry field).bind fun text => (Instant.read text).toOption

/-- What the entry asks for. -/
def demanded? (entry : Json) : Option Requirement :=
  (text? entry "tag").map fun tag =>
    ⟨tag, readBound entry "minRevisionDatetime", readBound entry "maxRevisionDatetime"⟩

theorem readBound_eq_some_iff {entry : Json} {field : String} {t : Instant} :
    readBound entry field = some t ↔
      ∃ text, text? entry field = some text ∧ Instant.read text = .ok t := by
  rw [readBound, Option.bind_eq_some_iff]
  refine exists_congr fun text => and_congr_right fun _ => ?_
  cases Instant.read text <;> simp [Except.toOption]

/-- An entry with a tag asks for the tag, between its bounds. -/
theorem demanded?_of_asksFor {entry : Json} {tag : String} (h : AsksFor entry tag) :
    demanded? entry = some ⟨tag, readBound entry "minRevisionDatetime",
      readBound entry "maxRevisionDatetime"⟩ := by
  rw [demanded?, show _ = some tag from h]
  rfl

/-- An entry without one asks for nothing. -/
theorem exists_asksFor_of_demanded? {entry : Json} {r : Requirement}
    (h : demanded? entry = some r) : ∃ tag, AsksFor entry tag := by
  obtain ⟨tag, htag, -⟩ := Option.map_eq_some_iff.1 h
  exact ⟨tag, htag⟩

/-! ## 2. Reading the entries -/

section Reading

variable {entry : Json} {entries : List Json} {tag : String}

/-- Reading a bound succeeds when the field is no text, or one that is a time. -/
theorem bound_eq_ok {field : String}
    (h : ∀ text, text? entry field = some text → ∃ t, Instant.read text = .ok t) :
    bound entry field = .ok (readBound entry field) := by
  simp only [bound, readBound]
  cases htext : text? entry field with
  | none => rfl
  | some text =>
    obtain ⟨t, ht⟩ := h text htext
    simp [ht, Except.toOption]

/-- It fails with the text and what is wrong with it otherwise. -/
theorem exists_bound_eq_error {field text : String} (htext : text? entry field = some text)
    (hread : ∀ t, Instant.read text ≠ .ok t) :
    ∃ e, bound entry field = .error (.badBound field text e) := by
  simp only [bound, htext]
  cases hresult : Instant.read text with
  | ok t => exact absurd hresult (hread t)
  | error e => exact ⟨e, rfl⟩

/-- So an entry is read when it has no tag or its bounds can be read. -/
theorem ofEntry_eq_ok (h : ∀ tag, AsksFor entry tag → Readable entry) :
    ofEntry entry = .ok (demanded? entry) := by
  rw [ofEntry, demanded?]
  cases htag : text? entry "tag" with
  | none => rfl
  | some tag =>
    have hreadable := h tag htag
    simp only [bound_eq_ok (hreadable "minRevisionDatetime" (by simp [boundFields])),
      bound_eq_ok (hreadable "maxRevisionDatetime" (by simp [boundFields]))]
    rfl

/-- Of the two bounds, the first one that cannot be read is what is wrong with an entry. Either way
it is the status of a bad time that the policy gets. -/
theorem exists_ofEntry_eq_error (htag : AsksFor entry tag) (h : ¬Readable entry) :
    ∃ fault, ofEntry entry = .error fault ∧ fault.invalid = .invalidTimestamp := by
  rw [ofEntry, show _ = some tag from htag]
  by_cases hmin : ∀ text, text? entry "minRevisionDatetime" = some text →
      ∃ t, Instant.read text = .ok t
  · by_cases hmax : ∀ text, text? entry "maxRevisionDatetime" = some text →
        ∃ t, Instant.read text = .ok t
    · -- both bounds can be read, so the entry can
      refine absurd (fun field hfield => ?_) h
      simp only [boundFields, List.mem_cons, List.not_mem_nil, or_false] at hfield
      rcases hfield with rfl | rfl
      · exact hmin
      · exact hmax
    · push Not at hmax
      obtain ⟨text, htext, hread⟩ := hmax
      obtain ⟨e, he⟩ := exists_bound_eq_error htext hread
      simp only [bound_eq_ok hmin, he]
      exact ⟨_, rfl, rfl⟩
  · push Not at hmin
    obtain ⟨text, htext, hread⟩ := hmin
    obtain ⟨e, he⟩ := exists_bound_eq_error htext hread
    simp only [he]
    exact ⟨_, rfl, rfl⟩

/-- A list is read when all of its entries are. -/
theorem ofEntries_eq_ok (h : ∀ entry ∈ entries, ∀ tag, AsksFor entry tag → Readable entry) :
    ofEntries entries = .ok (entries.filterMap demanded?) := by
  induction entries with
  | nil => rfl
  | cons entry entries ih =>
    have hentry := ofEntry_eq_ok (h entry (List.mem_cons_self ..))
    have hrest := ih fun e he => h e (List.mem_cons_of_mem _ he)
    simp only [ofEntries, hentry, hrest, List.filterMap_cons]
    cases demanded? entry <;> rfl

/-- And one entry that cannot be read is enough for it to fail. Which of several is told of is not
said: all of them make the same status. -/
theorem exists_ofEntries_eq_error (hentry : entry ∈ entries) (htag : AsksFor entry tag)
    (h : ¬Readable entry) :
    ∃ fault, ofEntries entries = .error fault ∧ fault.invalid = .invalidTimestamp := by
  induction entries with
  | nil => cases hentry
  | cons first entries ih =>
    by_cases hfirst : ∀ tag, AsksFor first tag → Readable first
    · -- then the fault comes later
      have hlater : entry ∈ entries := by
        rcases List.mem_cons.1 hentry with rfl | hlater
        · exact absurd (hfirst tag htag) h
        · exact hlater
      obtain ⟨fault, herror, hinvalid⟩ := ih hlater
      exact ⟨fault, by simp only [ofEntries, ofEntry_eq_ok hfirst, herror]; rfl, hinvalid⟩
    · push Not at hfirst
      obtain ⟨tag', htag', hunreadable⟩ := hfirst
      obtain ⟨fault, herror, hinvalid⟩ := exists_ofEntry_eq_error htag' hunreadable
      exact ⟨fault, by simp only [ofEntries, herror]; rfl, hinvalid⟩

/-- The bounds that were read admit a time exactly when it lies inside those of the entry. -/
theorem admits_iff {t : Instant} :
    Requirement.admits ⟨tag, readBound entry "minRevisionDatetime",
      readBound entry "maxRevisionDatetime"⟩ t = true ↔ Within entry t := by
  simp only [admits, Bool.and_eq_true, Option.all_eq_true, readBound_eq_some_iff]
  constructor
  · rintro ⟨hleast, hgreatest⟩
    exact ⟨fun text least htext hread => hleast least ⟨text, htext, hread⟩,
      fun text greatest htext hread => hgreatest greatest ⟨text, htext, hread⟩⟩
  · rintro ⟨hleast, hgreatest⟩
    exact ⟨fun least ⟨text, htext, hread⟩ => hleast text least htext hread,
      fun greatest ⟨text, htext, hread⟩ => hgreatest text greatest htext hread⟩

/-- A signature without a revision lies inside any bounds. So does one whose revision cannot be
read, though none of these can be used. -/
theorem all_admits_iff {o : ApUserSig} :
    (o.spec.revisionDatetime.bind fun text => (Instant.read text).toOption).all
        (Requirement.admits ⟨tag, readBound entry "minRevisionDatetime",
          readBound entry "maxRevisionDatetime"⟩) = true ↔
      ∀ text t, o.spec.revisionDatetime = some text → Instant.read text = .ok t →
        Within entry t := by
  simp only [Option.all_eq_true, Option.bind_eq_some_iff, admits_iff]
  constructor
  · intro h text t htext hread
    exact h t ⟨text, htext, by rw [hread]; rfl⟩
  · rintro h t ⟨text, htext, hread⟩
    refine h text t htext ?_
    cases hresult : Instant.read text <;> simp_all [Except.toOption]

/-- A well-formed signature meets what an entry asks for. Its revision can be read, so the bounds
are compared with the time that it says. -/
theorem isMetBy_ofObject_iff {o : ApUserSig} (hwell : Signature.WellFormed o) :
    Requirement.isMetBy ⟨tag, readBound entry "minRevisionDatetime",
      readBound entry "maxRevisionDatetime"⟩ (Signature.ofObject o) = true ↔ Meets entry tag o := by
  have htagged : (!(o.spec.tag.getD "").isEmpty && o.spec.tag.getD "" == tag) = true ↔
      Signature.HasTag o tag := by
    rw [Signature.hasTag_iff, Bool.and_eq_true, beq_iff_eq, and_comm]
    exact and_congr_right fun htag => by simp [htag]
  rw [Signature.ofObject_of_wellFormed hwell, isMetBy, Bool.and_eq_true, htagged, all_admits_iff]
  exact ⟨fun ⟨h, h'⟩ => ⟨h, h'⟩, fun h => ⟨h.tagged, h.within⟩⟩

/-- What is asked for by entries is there when each entry with a tag is met. Several entries may be
met by one signature. -/
theorem allMet_iff {usable : List Signature} :
    allMet usable (entries.filterMap demanded?) = true ↔
      ∀ entry ∈ entries, ∀ tag, AsksFor entry tag →
        ∃ s ∈ usable, Requirement.isMetBy ⟨tag, readBound entry "minRevisionDatetime",
          readBound entry "maxRevisionDatetime"⟩ s = true := by
  simp only [allMet, List.all_eq_true, List.any_eq_true]
  constructor
  · intro h entry hentry tag htag
    exact h _ (List.mem_filterMap.2 ⟨entry, hentry, demanded?_of_asksFor htag⟩)
  · intro h r hr
    obtain ⟨entry, hentry, hdemanded⟩ := List.mem_filterMap.1 hr
    obtain ⟨tag, htag⟩ := exists_asksFor_of_demanded? hdemanded
    rw [demanded?_of_asksFor htag, Option.some.injEq] at hdemanded
    exact hdemanded ▸ h entry hentry tag htag

end Reading

end Requirement

/-! ## 3. Policies -/

namespace ApPolicySpec

/-- The field with what the policy asks for. -/
def requirementsField : String := "signature-requirements"

/-- The entries of the list of what the policy asks for. -/
def entries (s : ApPolicySpec) : List Json :=
  ((s.policy.field? requirementsField).bind Json.items?).getD []

/-- The policy has a body, what it asks for is a list if it asks for anything, and the bounds of the
entries with a tag can be read. Entries without a tag may have anything in them. -/
structure WellFormed (s : ApPolicySpec) : Prop where
  body : s.policy.isObject = true
  listed : ∀ asked, s.policy.field? requirementsField = some asked → asked.isArray = true
  readable : ∀ entry ∈ s.entries, ∀ tag, Requirement.AsksFor entry tag → Requirement.Readable entry

/-- What is wrong with the policy. The constructors exclude each other in the order of the check:
there is no body, what is asked for is no list, or an entry with a tag has a bound that is no time.
So a policy has one reason at most to be malformed. -/
inductive Malformed (s : ApPolicySpec) : Invalid → Prop
  | noBody (h : s.policy.isObject = false) : Malformed s .validationFailed
  | unlisted (body : s.policy.isObject = true) (asked : Json)
      (h : s.policy.field? requirementsField = some asked) (hasked : asked.isArray = false) :
      Malformed s .validationFailed
  | unreadable (body : s.policy.isObject = true)
      (listed : ∀ asked, s.policy.field? requirementsField = some asked → asked.isArray = true)
      (entry : Json) (hentry : entry ∈ s.entries) (tag : String)
      (htag : Requirement.AsksFor entry tag) (h : ¬Requirement.Readable entry) :
      Malformed s .invalidTimestamp

/-- Every policy is one or the other. The reasons exclude each other, as each of them says that the
ones before it do not apply. -/
theorem wellFormed_or_malformed (s : ApPolicySpec) : s.WellFormed ∨ ∃ why, s.Malformed why := by
  cases hbody : s.policy.isObject with
  | false => exact .inr ⟨_, .noBody hbody⟩
  | true =>
    -- In the order of the check: the body, the list of what is asked for, then each entry of it.
    by_cases hlisted : ∀ asked, s.policy.field? requirementsField = some asked →
        asked.isArray = true
    · by_cases hreadable : ∀ entry ∈ s.entries, ∀ tag, Requirement.AsksFor entry tag →
          Requirement.Readable entry
      · exact .inl ⟨hbody, hlisted, hreadable⟩
      · push Not at hreadable
        obtain ⟨entry, hentry, tag, htag, h⟩ := hreadable
        exact .inr ⟨_, .unreadable hbody hlisted entry hentry tag htag h⟩
    · push Not at hlisted
      obtain ⟨asked, h, hasked⟩ := hlisted
      exact .inr ⟨_, .unlisted hbody asked h (by simpa using hasked)⟩

/-- The requirements of a policy with a body and a list are those of its entries. -/
theorem requirements_eq_ofEntries {s : ApPolicySpec} (hbody : s.policy.isObject = true)
    (hlisted : ∀ asked, s.policy.field? requirementsField = some asked → asked.isArray = true) :
    s.requirements = Requirement.ofEntries s.entries := by
  simp only [requirements, hbody, entries, ← show requirementsField = "signature-requirements"
    from rfl]
  cases hasked : s.policy.field? requirementsField with
  | none => rfl
  | some asked =>
    have harray := hlisted asked hasked
    cases asked <;> first | rfl | cases harray

/-- What a well-formed policy asks for can be read. -/
theorem requirements_of_wellFormed {s : ApPolicySpec} (h : s.WellFormed) :
    s.requirements = .ok (s.entries.filterMap Requirement.demanded?) := by
  rw [requirements_eq_ofEntries h.body h.listed, Requirement.ofEntries_eq_ok h.readable]

/-- For another one, reading fails and says why. -/
theorem exists_requirements_of_malformed {s : ApPolicySpec} {why : Invalid} (h : s.Malformed why) :
    ∃ fault, s.requirements = .error fault ∧ fault.invalid = why := by
  cases h with
  | noBody h => exact ⟨.noBody, by simp [requirements, h], rfl⟩
  | unlisted body asked h hasked =>
    have hitems : asked.items? = none := by cases asked <;> first | rfl | cases hasked
    rw [requirementsField] at h
    exact ⟨.requirementsNotAList, by simp [requirements, body, h, hitems], rfl⟩
  | unreadable body listed entry hentry tag htag h =>
    rw [requirements_eq_ofEntries body listed]
    exact Requirement.exists_ofEntries_eq_error hentry htag h

/-- The policy is well formed, and each of its entries with a tag is met by a stored signature that
can be used. -/
structure Usable (stored : ApUserSig → Prop) (s : ApPolicySpec) : Prop where
  wellFormed : s.WellFormed
  met : ∀ entry ∈ s.entries, ∀ tag, Requirement.AsksFor entry tag →
    ∃ o, stored o ∧ Signature.Usable stored o ∧ Requirement.Meets entry tag o

/-- Why the policy cannot be used. A well-formed one fails only on an entry that no usable signature
meets; which of several such entries it is makes no difference to what is told. -/
inductive Unusable (stored : ApUserSig → Prop) (s : ApPolicySpec) : Invalid → Prop
  | malformed {why : Invalid} (h : s.Malformed why) : Unusable stored s why
  | unmet (h : s.WellFormed) (entry : Json) (hentry : entry ∈ s.entries) (tag : String)
      (htag : Requirement.AsksFor entry tag)
      (hunmet : ∀ o, stored o → Signature.Usable stored o → ¬Requirement.Meets entry tag o) :
      Unusable stored s .missingUserSig

end ApPolicySpec

namespace StoredPolicy

variable {usable : List Signature} {p : ApPolicy}

/-- A well-formed policy is stored with what it asks for, and with a status if that is not there. -/
theorem ofPolicy_of_wellFormed (h : p.spec.WellFormed) :
    ofPolicy usable p = ⟨p, p.spec.entries.filterMap Requirement.demanded?,
      if Requirement.allMet usable (p.spec.entries.filterMap Requirement.demanded?) then none
      else some .missingUserSig⟩ := by
  have hrequirements := ApPolicySpec.requirements_of_wellFormed h
  simp only [ofPolicy, ApPolicySpec.fault?, hrequirements]
  rw [apply_ite (Option.map PolicyFault.invalid)]
  rfl

/-- Another one is stored with the status of what is wrong, and asks for nothing. -/
theorem ofPolicy_of_malformed {why : Invalid} (h : p.spec.Malformed why) :
    ofPolicy usable p = ⟨p, [], some why⟩ := by
  obtain ⟨fault, hfault, rfl⟩ := ApPolicySpec.exists_requirements_of_malformed h
  simp only [ofPolicy, ApPolicySpec.fault?, hfault]
  rfl

/-- A policy that is looked at again is as if it were stored then. A malformed one stays as it is,
which is how it would be stored again. -/
theorem recheck_ofPolicy (usable usable' : List Signature) (p : ApPolicy) :
    (ofPolicy usable p).recheck usable' = ofPolicy usable' p := by
  rcases p.spec.wellFormed_or_malformed with h | ⟨why, h⟩
  · rw [ofPolicy_of_wellFormed h, ofPolicy_of_wellFormed h, recheck]
    generalize p.spec.entries.filterMap Requirement.demanded? = requirements
    cases Requirement.allMet usable requirements <;>
      cases Requirement.allMet usable' requirements <;> simp
  · have hwhy : why ≠ .missingUserSig := by cases h <;> decide
    rw [ofPolicy_of_malformed h, ofPolicy_of_malformed h, recheck]
    simp [hwhy]

/-- An entry is met by a signature that can be used as it is met by its object. After this, nothing
of what was read of the objects when they were stored has to be spoken of. -/
theorem allMet_settled_iff {objects : Table ApUserSig}
    (hkeys : ∀ key o, objects.get? key = some o → o.metadata.key = key) {entries : List Json} :
    Requirement.allMet ((Signature.settled objects).values.filter (·.isUsable))
        (entries.filterMap Requirement.demanded?) = true ↔
      ∀ entry ∈ entries, ∀ tag, Requirement.AsksFor entry tag → ∃ o ∈ objects.values,
        Signature.Usable (· ∈ objects.values) o ∧ Requirement.Meets entry tag o := by
  rw [Requirement.allMet_iff]
  refine forall₄_congr fun entry _ tag _ => ?_
  constructor
  · rintro ⟨s, hs, hmeets⟩
    obtain ⟨o, ho, husable, rfl⟩ := (Signature.mem_usable_iff hkeys).1 hs
    exact ⟨o, ho, husable, (Requirement.isMetBy_ofObject_iff husable.wellFormed).1 hmeets⟩
  · rintro ⟨o, ho, husable, hmeets⟩
    exact ⟨Signature.ofObject o, (Signature.mem_usable_iff hkeys).2 ⟨o, ho, husable, rfl⟩,
      (Requirement.isMetBy_ofObject_iff husable.wellFormed).2 hmeets⟩

/-- The status of a policy says whether it can be used besides some stored signatures, and why not
if it cannot. Both are said of objects only. -/
theorem judges_ofPolicy {objects : Table ApUserSig}
    (hkeys : ∀ key o, objects.get? key = some o → o.metadata.key = key) (p : ApPolicy) :
    Judges (ofPolicy ((Signature.settled objects).values.filter (·.isUsable)) p).status
      (p.spec.Usable (· ∈ objects.values)) (p.spec.Unusable (· ∈ objects.values)) := by
  refine judges_of (fun h => ?_) (fun why h => ?_) ?_
  · rw [ofPolicy_of_wellFormed h.wellFormed]
    exact if_pos ((allMet_settled_iff hkeys).2 h.met)
  · cases h with
    | malformed h => rw [ofPolicy_of_malformed h]
    | unmet h entry hentry tag htag hunmet =>
      rw [ofPolicy_of_wellFormed h]
      refine if_neg fun hall => ?_
      obtain ⟨o, ho, husable, hmeets⟩ :=
        (allMet_settled_iff hkeys).1 hall entry hentry tag htag
      exact hunmet o ho husable hmeets
  · -- a well-formed policy has all it asks for, or something is missing
    rcases p.spec.wellFormed_or_malformed with h | ⟨why, h⟩
    · by_cases hall : ∀ entry ∈ p.spec.entries, ∀ tag, Requirement.AsksFor entry tag →
          ∃ o ∈ objects.values,
            Signature.Usable (· ∈ objects.values) o ∧ Requirement.Meets entry tag o
      · exact .inl ⟨h, hall⟩
      · push Not at hall
        obtain ⟨entry, hentry, tag, htag, hunmet⟩ := hall
        exact .inr ⟨_, .unmet h entry hentry tag htag hunmet⟩
    · exact .inr ⟨why, .malformed h⟩

end StoredPolicy

end Gatehouse
