import Gatehouse.Proofs.AppProtect.Copy
import Gatehouse.Proofs.Configuration.Lookups
import Gatehouse.Proofs.Configuration.Parts
import Gatehouse.Proofs.Controller.Run
import Gatehouse.Proofs.Dos.Copy

/-!
Who depends on an object of the firewalls is told when a look-up of it finds something else.

A look-up goes forwards: it completes the reference to a key and reads the stores. Who depends on an
object is found backwards: the reference is split, and its parts are compared with the namespace and
the name. Where no namespace has a slash both read a reference alike (`refersTo_iff`), so who refers
to an object is found, wherever it does so (`toldAffected_of_refers`). What remains is that no link
of the chain is missing. When a look-up of a protected resource finds something else, one of the
changes is about the protected resource (`exists_change_of_lookup_ne`), and when a look-up of a
policy does, the message is about the policy, or the policy is in a list of those that signatures
turned (`toldAffected_of_policy_ne`).
-/

set_option autoImplicit false

namespace Gatehouse

/-! ## 1. Objects that can be referred to -/

/-- The object has a name, and its namespace has no slash. So has every object of a cluster; the
reader of an object does not see to it. -/
structure Meta.Addressable (m : Meta) : Prop where
  named : m.name.isSome = true
  space : '/' ∉ m.spaceOrEmpty.toList

/-- An object that has a name is shown under the name of its key. -/
theorem Meta.Addressable.key_eq {m : Meta} (h : m.Addressable) :
    m.key = joinKey m.spaceOrEmpty m.shownName := by
  obtain ⟨name, hname⟩ := Option.isSome_iff_exists.1 h.named
  rw [key, shownName, hname]
  rfl

/-! ## 2. Where references stand -/

/-- A served resource has a reference to an object, in one of its parts that is in the namespace
`home`. App Protect objects are listed in an annotation of an ingress. A protected resource is named
in an annotation of an ingress, in a virtual server or one of its routes, and in a subroute of a
virtual server route. -/
inductive Resource.Refers : Dependency → Resource → String → String → Prop
  | listed (r : IngressResource) {label references reference : String}
      (hlist : r.ingress.metadata.annotation? label = some references)
      (hitem : reference ∈ Text.splitAll ',' references) :
      Refers (.annotated label) (.ingress r) r.ingress.metadata.spaceOrEmpty reference
  | annotation (r : IngressResource) {reference : String}
      (h : r.ingress.metadata.annotation? Annotations.dosResource = some reference) :
      Refers .dosProtected (.ingress r) r.ingress.metadata.spaceOrEmpty reference
  | server (r : VirtualServerResource) :
      Refers .dosProtected (.virtualServer r) r.server.metadata.spaceOrEmpty r.server.spec.dos
  | route (r : VirtualServerResource) {route : Route} (h : route ∈ r.server.spec.routes) :
      Refers .dosProtected (.virtualServer r) r.server.metadata.spaceOrEmpty route.dos
  | subroute (r : VirtualServerResource) {vsr : VirtualServerRoute} {route : Route}
      (hvsr : vsr ∈ r.routes) (h : route ∈ vsr.spec.subroutes) :
      Refers .dosProtected (.virtualServer r) vsr.metadata.spaceOrEmpty route.dos

namespace Resource

variable {d : Dependency} {r : Resource} {home reference : String}

/-- A reference stands in one of the objects that the resource is made of. -/
theorem Refers.exists_part (h : r.Refers d home reference) :
    ∃ o ∈ r.parts, o.metadata.spaceOrEmpty = home := by
  cases h with
  | listed | annotation | server | route => exact ⟨_, List.mem_cons_self, rfl⟩
  | subroute r hvsr => exact ⟨_, List.mem_cons_of_mem _ (List.mem_map_of_mem hvsr), rfl⟩

/-- Wherever a reference stands, it is looked at when the dependents of an object are sought. There
is a constructor of `Refers` for each place, and a test for each constructor. -/
theorem Refers.concerns (h : r.Refers d home reference) {space name : String}
    (hrefers : refersTo reference space name home = true) : d.Concerns space name r := by
  -- A reference of each kind makes the test of that kind true.
  cases h with
  | @listed r label references reference hlist hitem =>
    have hany : (Text.splitAll ',' references).any (refersTo · space name _) = true :=
      List.any_eq_true.2 ⟨reference, hitem, hrefers⟩
    exact .ingress r (by rw [Dependency.usedByIngress, hlist, Option.any_some, hany])
  | annotation r hannotation =>
    exact .ingress r (by rw [Dependency.usedByIngress, hannotation, Option.any_some, hrefers])
  | server r =>
    exact .virtualServer r (List.any_eq_true.2 ⟨_, List.mem_cons_self, hrefers⟩)
  | route r hroute =>
    exact .virtualServer r
      (List.any_eq_true.2 ⟨_, List.mem_cons_of_mem _ (List.mem_map_of_mem hroute), hrefers⟩)
  | subroute r hvsr hroute =>
    exact .route r hvsr (List.any_eq_true.2 ⟨_, hroute, hrefers⟩)

end Resource

/-! ## 3. What is told about dependents -/

/-- One of the notices lists the resource among those that depend on an object of the kind. Of which
object does not matter to a consumer, who renders the resource again. -/
def ToldAffected (notices : List Notice) (kind : Kind) (r : Resource) : Prop :=
  ∃ space name resources, .affected kind space name resources ∈ notices ∧ r.key ∈ resources

theorem ToldAffected.mono {notices more : List Notice} {kind : Kind} {r : Resource}
    (h : ToldAffected notices kind r) (hsub : notices ⊆ more) : ToldAffected more kind r := by
  obtain ⟨space, name, resources, hmem, hkey⟩ := h
  exact ⟨space, name, resources, hsub hmem, hkey⟩

namespace Controller

section Affected

variable {c : Configuration} {d : Dependency} {space name home reference : String} {r : Resource}

/-- A served resource with a reference that is completed to the key of an object is told as one of
its dependents. -/
theorem toldAffected_of_refers (hc : Holding c.holders) (hr : r ∈ c.resources)
    (hrefers : r.Refers d home reference) (hhome : '/' ∉ home.toList) (hspace : '/' ∉ space.toList)
    (hkey : qualify home reference = joinKey space name) (kind : Kind) :
    ToldAffected (affected c d kind space name) kind r := by
  have hmem : r ∈ c.dependents d space name :=
    (Configuration.mem_dependents_iff hc).2
      ⟨hr, hrefers.concerns ((refersTo_iff hspace hhome).2 hkey)⟩
  rw [affected]
  split
  · rename_i hnone
    rw [hnone] at hmem
    cases hmem
  · exact ⟨space, name, _, List.mem_singleton_self _, List.mem_map_of_mem hmem⟩

end Affected

/-! ## 4. Messages -/

/-- Every object has a name and a namespace without a slash, as all objects of a cluster have. A
namespace with a slash could not be told from the name in a key. -/
def Addressable (c : Controller) : Prop :=
  ∀ place o, c.find? place = some o → o.metadata.Addressable

end Controller

/-- So has the object of the message. A deletion only has to name such a namespace. -/
def Message.Addressable : Message → Prop
  | .apply o => o.metadata.Addressable
  | .delete _ space _ => '/' ∉ space.toList

/-- When a look-up of a protected resource finds something else after an event, a change is about
the protected resource, which was stored or is the object of the event. -/
theorem Dos.exists_change_of_lookup_ne {d : Dos} (hkept : d.Kept) {e : Event}
    {home reference : String} (hne : (d.step e).1.lookup home reference ≠ d.lookup home reference) :
    ∃ change ∈ (d.step e).2.changes, ∃ p, change.resource = .protectedResource p ∧
      p.metadata.key = qualify home reference ∧
      (d.find? (.dosProtected, p.metadata.key) = some (.dosProtected p) ∨
        e.object? = some (.dosProtected p)) := by
  cases turn_step hkept e (qualify home reference) with
  | kept _ hsame => exact absurd hsame.lookup_eq hne
  | told change hchange hkey hstored _ =>
    -- the change is about what lies under the key, before the event or after it
    obtain ⟨c, hc, hresource⟩ := exists_of_mem_protectedChanges hchange
    refine ⟨c, hc, change.resource, hresource, hkey, ?_⟩
    have hfind : ∀ d' : Dos, (∃ entry, d'.protectedResources.get? (qualify home reference) =
        some entry ∧ entry.object = change.resource) →
        d'.find? (.dosProtected, change.resource.metadata.key) =
          some (.dosProtected change.resource) := by
      rintro d' ⟨entry, hget, hentry⟩
      rw [← hkey] at hget
      exact hentry ▸ congrArg (Option.map (Object.dosProtected ∘ DosEntry.object)) hget
    obtain ⟨entry, hget | hget, hentry⟩ := hstored
    · exact .inl (hfind d ⟨entry, hget, hentry⟩)
    · have hafter := hfind _ ⟨entry, hget, hentry⟩
      rw [fst_step hkept, find?_after _ _ (by simp [kinds])] at hafter
      split at hafter
      · exact .inr hafter
      · exact .inl hafter

namespace Controller

section Receive

variable {c : Controller} {m : Message} {r : Resource} {home reference : String}

/-- The dependents of all protected resources that changes are about are told. -/
theorem protectedAffected_subset :
    protectedAffected c.configuration (c.dos.step m.event).2.changes ⊆ (c.receive m).2 := by
  rcases m with o | ⟨kind, space, name⟩
  · cases o with
    | dosPolicy | dosLogConf | dosProtected => exact List.subset_append_right ..
    | _ => exact List.nil_subset _
  · cases kind with
    | dosPolicy | dosLogConf | dosProtected => exact List.subset_append_right ..
    | _ => exact List.nil_subset _

/-- Who refers to a protected resource is told when a look-up of it finds something else. The
difference comes with a change of the protected resource, and every change is followed by a
notice. -/
theorem toldAffected_of_lookup_ne (hc : Holding c.configuration.holders) (hkept : c.dos.Kept)
    (hobjects : c.Addressable) (hm : m.Addressable) (hr : r ∈ c.configuration.resources)
    (hrefers : r.Refers .dosProtected home reference) (hhome : '/' ∉ home.toList)
    (hne : (c.receive m).1.dos.lookup home reference ≠ c.dos.lookup home reference) :
    ToldAffected (c.receive m).2 .dosProtected r := by
  rw [dos_receive] at hne
  obtain ⟨change, hchange, p, hresource, hkey, hstored⟩ := Dos.exists_change_of_lookup_ne hkept hne
  have hp : p.metadata.Addressable := by
    rcases hstored with hfind | hobject
    · exact hobjects (.dosProtected, p.metadata.key) (.dosProtected p) hfind
    · cases m with
      | apply o =>
        obtain rfl := Option.some.inj hobject
        exact hm
      | delete => cases hobject
  have htold : ToldAffected (affected c.configuration .dosProtected .dosProtected
      p.metadata.spaceOrEmpty p.metadata.shownName) .dosProtected r :=
    toldAffected_of_refers hc hr hrefers hhome hp.space (hkey.symm.trans hp.key_eq) .dosProtected
  refine htold.mono fun n hn => protectedAffected_subset (List.mem_flatMap.2 ⟨change, hchange, ?_⟩)
  rwa [hresource]

/-- Of every policy that is turned the dependents are listed. -/
theorem apPolicyAffected_subset_policiesTurned {c : Configuration} (op : Change.Op)
    {policies : List ApPolicy} {p : ApPolicy} (hp : p ∈ policies) :
    apPolicyAffected c p.metadata.spaceOrEmpty p.metadata.shownName ⊆
      policiesTurned c op policies :=
  fun _ hn => List.mem_flatMap.2 ⟨p, hp, List.mem_cons_of_mem _ hn⟩

/-- Who lists a policy is told when signatures turn it. The lists of policies that are lost and
gained have every policy whose status differs. -/
theorem toldAffected_of_turn (hc : Holding c.configuration.holders) (hobjects : c.Addressable)
    (hr : r ∈ c.configuration.resources)
    (hrefers : r.Refers (.annotated Annotations.appProtectPolicy) home reference)
    (hhome : '/' ∉ home.toList) {a : AppProtect} (ha : a.policies = c.appProtect.policies)
    {answer : AppProtect × AppProtect.SignatureReport}
    (hturn : AppProtect.Turn a answer (qualify home reference))
    (hne : answer.1.policy (qualify home reference) ≠ a.policy (qualify home reference)) :
    ToldAffected (c.withSignatures answer).2 .apPolicy r := by
  have htold : ∀ p : ApPolicy, p.metadata.key = qualify home reference →
      (∃ entry, a.policies.get? (qualify home reference) = some entry ∧ entry.policy = p) →
      ToldAffected (apPolicyAffected c.configuration p.metadata.spaceOrEmpty p.metadata.shownName)
        .apPolicy r := by
    rintro p hkey ⟨entry, hget, rfl⟩
    have hp : entry.policy.metadata.Addressable := by
      refine hobjects (.apPolicy, qualify home reference) (.apPolicy entry.policy) ?_
      rw [ha] at hget
      simp [find?, Store.find?, AppProtect.find?, hget]
    exact toldAffected_of_refers hc hr hrefers hhome hp.space (hkey.symm.trans hp.key_eq) .apPolicy
  cases hturn with
  | kept _ hsame => exact absurd hsame hne
  | lost p hkey hp hstored _ =>
    refine (htold p hkey hstored).mono fun n hn => ?_
    have hin := apPolicyAffected_subset_policiesTurned .delete hp hn
    simp only [withSignatures, List.mem_append]
    exact .inl (.inl (.inl hin))
  | gained p hkey hp hstored _ =>
    refine (htold p hkey hstored).mono fun n hn => ?_
    have hin := apPolicyAffected_subset_policiesTurned .addOrUpdate hp hn
    simp only [withSignatures, List.mem_append]
    exact .inl (.inl (.inr hin))

/-- Who lists a policy is told when a look-up of it finds something else. The message is about the
policy itself, or about a signature that turns it; no other message changes what the look-up
finds. -/
theorem toldAffected_of_policy_ne (hc : Holding c.configuration.holders)
    (hkept : c.appProtect.PoliciesKept) (hobjects : c.Addressable) (hm : m.Addressable)
    (hr : r ∈ c.configuration.resources)
    (hrefers : r.Refers (.annotated Annotations.appProtectPolicy) home reference)
    (hhome : '/' ∉ home.toList)
    (hne : (c.receive m).1.appProtect.policy (qualify home reference) ≠
      c.appProtect.policy (qualify home reference)) :
    ToldAffected (c.receive m).2 .apPolicy r := by
  rw [appProtect_receive] at hne
  have hown : ∀ space name, '/' ∉ space.toList → joinKey space name = qualify home reference →
      ToldAffected (apPolicyAffected c.configuration space name) .apPolicy r :=
    fun space name hspace hkey =>
      toldAffected_of_refers hc hr hrefers hhome hspace hkey.symm .apPolicy
  -- a policy of another key leaves the look-up as it was; signatures may turn any policy
  rcases m with o | ⟨kind, space, name⟩
  · cases o with
    | apPolicy p =>
      have hkey : p.metadata.key = qualify home reference := by
        by_contra hother
        exact hne ((AppProtect.policy_applyPolicy p _).trans (if_neg hother))
      have hp : p.metadata.Addressable := hm
      exact (hown _ _ hp.space (hp.key_eq.symm.trans hkey)).mono (List.subset_append_right ..)
    | apUserSig o =>
      let next := { c.appProtect with
        userSigs := c.appProtect.userSigs.insert o.metadata.key (.ofObject o) }
      have hturn : AppProtect.Turn next (c.appProtect.applyUserSig o) (qualify home reference) :=
        AppProtect.turn_reconcile (a := next) hkept _
      exact toldAffected_of_turn hc hobjects hr hrefers hhome (a := next) rfl hturn hne
    | apLogConf l =>
      refine absurd ?_ hne
      show (c.appProtect.applyLogConf l).1.policy _ = _
      rw [AppProtect.fst_applyLogConf]
      rfl
    | _ => exact absurd rfl hne
  · cases kind with
    | apPolicy =>
      have hkey : joinKey space name = qualify home reference := by
        by_contra hother
        exact hne ((AppProtect.policy_deletePolicy _ _).trans (if_neg hother))
      exact (hown space name hm hkey).mono (List.subset_append_right ..)
    | apUserSig =>
      let next := { c.appProtect with
        userSigs := c.appProtect.userSigs.erase (joinKey space name) }
      have hturn : AppProtect.Turn next (c.appProtect.deleteUserSig (joinKey space name))
          (qualify home reference) := by
        rw [AppProtect.deleteUserSig]
        split
        · exact AppProtect.turn_reconcile (a := next) hkept _
        · exact .kept (by simp [AppProtect.SignatureReport.empty]) rfl
      exact toldAffected_of_turn hc hobjects hr hrefers hhome (a := next) rfl hturn hne
    | _ => exact absurd rfl hne

end Receive

/-! ## 5. Runs -/

section Run

variable {className : String} {f : Features} {globalKey : Option String} {messages : List Message}

/-- What is known of the stores after some messages. It is what the lemmas above ask for. -/
theorem known_run : let c := (fresh className f globalKey).run messages
    c.configuration.Settled ∧ c.configuration.store.Sound ∧ c.appProtect.PoliciesKept ∧
      c.dos.Kept := by
  obtain ⟨events, -, hevents⟩ := exists_events className f globalKey messages
  rw [hevents]
  exact ⟨Configuration.settled_run, Configuration.sound_run, AppProtect.policiesKept_run,
    Dos.kept_run⟩

/-- A controller that was told of objects with names and namespaces without slashes has such
objects. -/
theorem addressable_run (h : ∀ m ∈ messages, m.Addressable) :
    ((fresh className f globalKey).run messages).Addressable :=
  fun _ o ho => h (.apply o) (apply_mem_of_find? ho)

end Run

/-- No dependent of a protected resource or of an App Protect policy is missed. When all objects
have names and namespaces without slashes, a message that makes a look-up of a reference find
something else is answered with a notice that lists every served resource with the reference,
wherever the reference stands and whatever the message is about: the object itself, a policy or a
log configuration of DoS that it names, or a signature that a policy needs. -/
theorem dependents_told (className : String) (f : Features) (globalKey : Option String)
    (messages : List Message) (m : Message) :
    let c := (fresh className f globalKey).run messages
    let answer := c.receive m
    c.Addressable → m.Addressable → ∀ r ∈ c.configuration.resources, ∀ home reference,
      (r.Refers .dosProtected home reference →
        answer.1.dos.lookup home reference ≠ c.dos.lookup home reference →
        ToldAffected answer.2 .dosProtected r) ∧
      (r.Refers (.annotated Annotations.appProtectPolicy) home reference →
        answer.1.appProtect.lookup Kind.apPolicy.name (qualify home reference) ≠
          c.appProtect.lookup Kind.apPolicy.name (qualify home reference) →
        ToldAffected answer.2 .apPolicy r) := by
  intro c answer hobjects hm r hr home reference
  obtain ⟨hsettled, hsound, hpolicies, hdos⟩ : c.configuration.Settled ∧
      c.configuration.store.Sound ∧ c.appProtect.PoliciesKept ∧ c.dos.Kept := known_run
  have hholding : Holding c.configuration.holders :=
    Configuration.holding_of_settled hsettled hsound
  have hhome : ∀ d, r.Refers d home reference → '/' ∉ home.toList := by
    intro d hrefers
    -- the part with the reference is stored
    obtain ⟨o, ho, rfl⟩ := hrefers.exists_part
    obtain ⟨slot, hslot⟩ := Configuration.exists_holder_of_mem_resources hr
    obtain ⟨place, hplace⟩ := Configuration.find?_of_mem_parts hsettled hslot ho
    refine (hobjects place o ?_).space
    rw [find?, hplace]
    rfl
  constructor
  · intro hrefers hne
    exact toldAffected_of_lookup_ne hholding hdos hobjects hm hr hrefers (hhome _ hrefers) hne
  · intro hrefers hne
    refine toldAffected_of_policy_ne hholding hpolicies hobjects hm hr hrefers (hhome _ hrefers) ?_
    intro hsame
    rw [AppProtect.lookup_apPolicy, AppProtect.lookup_apPolicy, hsame] at hne
    exact hne rfl

/-- A virtual server that names the protected resource `web`. -/
def guardedServer : VirtualServer :=
  let plain := Configuration.plainServer "cafe" "cafe.example.com" 1 10
  { plain with spec := { plain.spec with dos := "web" } }

/-- The policy that a protected resource names comes last, and the virtual server that names the
protected resource is told. -/
theorem dependent_of_policy_told :
    let f := { Features.none with appProtectDosEnabled := true }
    let c := (fresh "nginx" f none).run
      [.apply (.virtualServer guardedServer), .apply (.dosProtected Dos.guarded)]
    let answer := c.receive (.apply (.dosPolicy Dos.limits))
    answer.1.dos.lookup "shop" "web" ≠ c.dos.lookup "shop" "web" ∧
      ToldAffected answer.2 .dosProtected (.virtualServer ⟨guardedServer, [], []⟩) := by
  intro f c answer
  have hfinds : answer.1.dos.lookup "shop" "web" ≠ c.dos.lookup "shop" "web" :=
    fun h => nomatch h
  have hserved : .virtualServer ⟨guardedServer, [], []⟩ ∈ c.configuration.resources := by
    decide +kernel
  have hrefers : Resource.Refers .dosProtected (.virtualServer ⟨guardedServer, [], []⟩) "shop"
      "web" := .server _
  have hserver : guardedServer.metadata.Addressable := ⟨rfl, by decide⟩
  have hprotected : Dos.guarded.metadata.Addressable := ⟨rfl, by decide⟩
  have hpolicy : Dos.limits.metadata.Addressable := ⟨rfl, by decide⟩
  have hobjects : c.Addressable := addressable_run <| by
    simpa [Message.Addressable] using ⟨hserver, hprotected⟩
  exact ⟨hfinds, (dependents_told "nginx" f none _ (.apply (.dosPolicy Dos.limits)) hobjects hpolicy
    _ hserved "shop" "web").1 hrefers hfinds⟩

end Controller

end Gatehouse
