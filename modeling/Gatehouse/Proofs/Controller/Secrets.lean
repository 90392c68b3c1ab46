import Gatehouse.Proofs.Controller.Dependents

/-!
Who depends on a secret is told, and nobody else.

A resource reads a secret in two ways. It names it itself, by TLS or as the key of its tokens
(`Resource.NamesSecret`), or it refers to a policy that names it (`Resource.RefersToPolicy`). The
first is found by one look-up, and the second by a look-up of every policy that names the secret,
one after the other. What the look-ups find together is compared with what is said here about a
resource, the secret and the policies of the store (`Resource.ReadsSecret`), without a look-up.
-/

set_option autoImplicit false

namespace Gatehouse

/-! ## 1. Policies that name a secret -/

/-- The policy names the secret in one of its fields. A field that is empty names none, so nobody
reads the secret with the empty name. -/
structure PolicySpec.NamesSecret (s : PolicySpec) (secret : String) : Prop where
  nonempty : secret ≠ ""
  field : (∃ j, s.jwt = some j ∧ j.secret = secret) ∨
    (∃ m, s.ingressMtls = some m ∧ m.clientCertSecret = secret) ∨
    (∃ m, s.egressMtls = some m ∧ (m.tlsSecret = secret ∨ m.trustedCertSecret = secret)) ∨
    ∃ o, s.oidc = some o ∧ o.clientSecret = secret

/-- The names that are listed for a policy are those in its fields. -/
theorem PolicySpec.mem_secretNames_iff {s : PolicySpec} {secret : String} :
    secret ∈ s.secretNames ↔ s.NamesSecret secret := by
  have hflag : (!secret.isEmpty) = true ↔ secret ≠ "" := by simp
  rw [secretNames, List.mem_filter, hflag]
  simp only [List.mem_append, List.mem_map, List.mem_flatMap, Option.mem_toList, or_assoc,
    List.mem_cons, List.not_mem_nil, or_false, @eq_comm _ secret]
  exact ⟨fun ⟨hfield, hnonempty⟩ => ⟨hnonempty, hfield⟩, fun h => ⟨h.field, h.nonempty⟩⟩

/-- The policies that are found for a secret are those of its namespace that name it. -/
theorem Configuration.mem_policiesForSecret_iff {c : Configuration} {space name : String}
    {p : Policy} : p ∈ c.policiesForSecret space name ↔
      (∃ key, c.store.policies.get? key = some p) ∧ p.metadata.space = some space ∧
        p.spec.NamesSecret name := by
  rw [policiesForSecret, Store.policiesForSecret, List.mem_filter, Table.mem_values_iff,
    ← PolicySpec.mem_secretNames_iff]
  simp

/-! ## 2. References to policies -/

/-- The reference, which stands in an object of the namespace `home`, means the policy. Nothing is
completed or compared as a text here. -/
def PolicyRef.MeansPolicy (ref : PolicyRef) (home : String) (p : Policy) : Prop :=
  p.metadata.name = some ref.name ∧
    p.metadata.space = some (if ref.space = "" then home else ref.space)

/-- The policy has a name and a namespace, as every policy of a cluster has. Look-ups read a part
that is not there as the empty text, and a reference could not tell the two. -/
def Policy.Placed (p : Policy) : Prop := p.metadata.name.isSome ∧ p.metadata.space.isSome

/-- All policies have a name and a namespace. -/
def Store.PoliciesPlaced (s : Store) : Prop :=
  ∀ key p, s.policies.get? key = some p → p.Placed

/-- The comparison agrees with that when the policy has a name and a namespace. A policy without
them would be taken for one with empty ones. -/
theorem PolicyRef.means_iff {ref : PolicyRef} {home : String} {p : Policy} (hp : p.Placed) :
    ref.means home p.metadata.spaceOrEmpty p.metadata.shownName = true ↔
      ref.MeansPolicy home p := by
  obtain ⟨name, hname⟩ := Option.isSome_iff_exists.1 hp.1
  obtain ⟨space, hspace⟩ := Option.isSome_iff_exists.1 hp.2
  simp [means, MeansPolicy, Meta.spaceOrEmpty, Meta.shownName, hname, hspace, @eq_comm _ name,
    @eq_comm _ space]

/-- The resource is a virtual server that refers to the policy: in itself, in one of its routes, or
in a subroute of a virtual server route that it delegates to. A reference without a namespace means
the namespace of the object that it stands in. -/
inductive Resource.RefersToPolicy (p : Policy) : Resource → Prop
  | server (r : VirtualServerResource) {ref : PolicyRef} (href : ref ∈ r.server.spec.policies)
      (h : ref.MeansPolicy r.server.metadata.spaceOrEmpty p) :
      RefersToPolicy p (.virtualServer r)
  | route (r : VirtualServerResource) {route : Route} (hroute : route ∈ r.server.spec.routes)
      {ref : PolicyRef} (href : ref ∈ route.policies)
      (h : ref.MeansPolicy r.server.metadata.spaceOrEmpty p) :
      RefersToPolicy p (.virtualServer r)
  | subroute (r : VirtualServerResource) {vsr : VirtualServerRoute} (hvsr : vsr ∈ r.routes)
      {route : Route} (hroute : route ∈ vsr.spec.subroutes)
      {ref : PolicyRef} (href : ref ∈ route.policies)
      (h : ref.MeansPolicy vsr.metadata.spaceOrEmpty p) :
      RefersToPolicy p (.virtualServer r)

/-- So a resource concerns such a policy when it refers to it. Ingresses and transport servers have
no references to policies. -/
theorem Dependency.concerns_policy_iff {p : Policy} (hp : p.Placed) {r : Resource} :
    Dependency.policy.Concerns p.metadata.spaceOrEmpty p.metadata.shownName r ↔
      r.RefersToPolicy p := by
  -- the same test for the three places where references stand
  have hany : ∀ (refs : List PolicyRef) (home : String),
      refs.any (·.means home p.metadata.spaceOrEmpty p.metadata.shownName) = true ↔
        ∃ ref ∈ refs, ref.MeansPolicy home p := by
    intro refs home
    simp only [List.any_eq_true, PolicyRef.means_iff hp]
  constructor
  · rintro (⟨r, h⟩ | ⟨r, hm, h⟩ | ⟨r, h⟩ | ⟨r, hvsr, h⟩ | ⟨r, h⟩)
    · cases h
    · cases h
    · rcases Bool.or_eq_true_iff.1 h with h | h
      · obtain ⟨ref, href, hmeans⟩ := (hany _ _).1 h
        exact .server r href hmeans
      · obtain ⟨route, hroute, h⟩ := List.any_eq_true.1 h
        obtain ⟨ref, href, hmeans⟩ := (hany _ _).1 h
        exact .route r hroute href hmeans
    · obtain ⟨route, hroute, h⟩ := List.any_eq_true.1 h
      obtain ⟨ref, href, hmeans⟩ := (hany _ _).1 h
      exact .subroute r hvsr hroute href hmeans
    · cases h
  · rintro (⟨r, href, hmeans⟩ | ⟨r, hroute, href, hmeans⟩ | ⟨r, hvsr, hroute, href, hmeans⟩)
    · exact .virtualServer r (Bool.or_eq_true_iff.2 (.inl ((hany _ _).2 ⟨_, href, hmeans⟩)))
    · exact .virtualServer r (Bool.or_eq_true_iff.2
        (.inr (List.any_eq_true.2 ⟨_, hroute, (hany _ _).2 ⟨_, href, hmeans⟩⟩)))
    · exact .route r hvsr (List.any_eq_true.2 ⟨_, hroute, (hany _ _).2 ⟨_, href, hmeans⟩⟩)

/-! ## 3. Resources that read a secret -/

/-- The resource names the secret itself, in an object of the namespace of the secret: an ingress or
a virtual server by TLS, and with NGINX Plus an ingress, or a minion of a master, as the key of its
tokens. -/
inductive Resource.NamesSecret (isPlus : Bool) (space name : String) : Resource → Prop
  | tls (r : IngressResource) (hspace : r.ingress.metadata.space = some space) {t : IngressTls}
      (ht : t ∈ r.ingress.tls) (h : t.secretName = some name) :
      NamesSecret isPlus space name (.ingress r)
  | tokenKey (r : IngressResource) (hplus : isPlus = true)
      (hspace : r.ingress.metadata.space = some space)
      (h : r.ingress.metadata.annotation? Annotations.jwtKey = some name) :
      NamesSecret isPlus space name (.ingress r)
  | minionTokenKey (r : IngressResource) (hmaster : r.isMaster = true) (hplus : isPlus = true)
      {m : Minion} (hm : m ∈ r.minions) (hspace : m.ingress.metadata.space = some space)
      (h : m.ingress.metadata.annotation? Annotations.jwtKey = some name) :
      NamesSecret isPlus space name (.ingress r)
  | serverTls (r : VirtualServerResource) (hspace : r.server.metadata.space = some space)
      {t : ServerTls} (ht : r.server.spec.tls = some t) (h : t.secret = name) :
      NamesSecret isPlus space name (.virtualServer r)

/-- The resource reads the secret: it names it itself, or it refers to a policy of the store that is
in the namespace of the secret and names it. -/
inductive Resource.ReadsSecret (s : Store) (isPlus : Bool) (space name : String) (r : Resource) :
    Prop
  | itself (h : r.NamesSecret isPlus space name)
  | policy {key : String} {p : Policy} (hp : s.policies.get? key = some p)
      (hspace : p.metadata.space = some space) (hnames : p.spec.NamesSecret name)
      (h : r.RefersToPolicy p)

namespace Configuration

variable {c : Configuration}

/-- A key belongs to one served resource. It can be listed by its key for that. -/
theorem eq_of_mem_resources (hc : Holding c.holders) {q r : Resource} (hq : q ∈ c.resources)
    (hr : r ∈ c.resources) (hkey : q.key = r.key) : q = r := by
  obtain ⟨slot, hslot⟩ := (mem_resources_iff hc).1 hq
  obtain ⟨slot', hslot'⟩ := (mem_resources_iff hc).1 hr
  exact hc.unique _ _ _ _ hslot hslot' hkey

/-- What is served is built by the plan, which gives minions to masters only. -/
theorem isMaster_of_mem_minions (hc : c.Settled) {r : IngressResource}
    (hr : .ingress r ∈ c.resources) {m : Minion} (hm : m ∈ r.minions) : r.isMaster = true := by
  obtain ⟨h, hget⟩ := exists_host_of_mem_resources hc hr (by simp)
  obtain ⟨-, i, -, -, -, hisMaster, hminions⟩ := exists_ingress (mem_resources_of_hosts hget)
  rw [hminions] at hm
  exact hisMaster.trans (mem_minions_ingressResource_iff.1 ⟨m, hm, rfl⟩).1

end Configuration

/-- Only masters have minions, so the look-up need not ask for one. With that it finds the resources
that name the secret. -/
theorem Dependency.concerns_secret_iff {isPlus : Bool} {space name : String} {r : Resource}
    (hmaster : ∀ x, r = .ingress x → ∀ m ∈ x.minions, x.isMaster = true) :
    (Dependency.secret isPlus).Concerns space name r ↔ r.NamesSecret isPlus space name := by
  constructor
  · -- Neither a route nor a TransportServer names a secret: their tests are `false`.
    rintro (⟨r, h⟩ | ⟨r, hm, h⟩ | ⟨r, h⟩ | ⟨r, hvsr, h⟩ | ⟨r, h⟩)
    · simp only [usedByIngress, Ingress.readsTokenKey, Bool.and_eq_true, Bool.or_eq_true,
        beq_iff_eq, List.any_eq_true] at h
      obtain ⟨hspace, ⟨t, ht, hname⟩ | ⟨hplus, hkey⟩⟩ := h
      · exact .tls r hspace ht hname
      · exact .tokenKey r hplus hspace hkey
    · simp only [usedByMinion, Ingress.readsTokenKey, Bool.and_eq_true, beq_iff_eq] at h
      obtain ⟨hspace, hplus, hkey⟩ := h
      exact .minionTokenKey r (hmaster r rfl _ hm) hplus hm hspace hkey
    · simp only [usedByVirtualServer, Bool.and_eq_true, beq_iff_eq, Option.any_eq_true] at h
      obtain ⟨hspace, t, ht, hname⟩ := h
      exact .serverTls r hspace ht hname
    · cases h
    · cases h
  · rintro (⟨r, hspace, ht, h⟩ | ⟨r, hplus, hspace, h⟩ | ⟨r, -, hplus, hm, hspace, h⟩ |
      ⟨r, hspace, ht, h⟩)
    · have hany : (r.ingress.tls.any fun t => t.secretName == some name) = true :=
        List.any_eq_true.2 ⟨_, ht, beq_iff_eq.2 h⟩
      exact .ingress r (by simp [usedByIngress, hspace, hany])
    · exact .ingress r (by simp [usedByIngress, Ingress.readsTokenKey, hspace, hplus, h])
    · exact .minion r hm (by simp [usedByMinion, Ingress.readsTokenKey, hspace, hplus, h])
    · exact .virtualServer r (by simp [usedByVirtualServer, hspace, ht, h])

/-! ## 4. What is told -/

/-- The keys of the resources that the notices list as depending on something. -/
def Notice.listed (notices : List Notice) : List String :=
  notices.flatMap fun
    | .affected _ _ _ resources => resources
    | _ => []

@[simp] theorem Notice.listed_append (notices more : List Notice) :
    listed (notices ++ more) = listed notices ++ listed more :=
  List.flatMap_append

theorem Notice.listed_flatMap {α : Type} (xs : List α) (tell : α → List Notice) :
    listed (xs.flatMap tell) = xs.flatMap fun x => listed (tell x) :=
  List.flatMap_assoc

/-- The namespace and the name of the secret that the message is about. -/
def Message.secret? : Message → Option (String × String)
  | .apply (.secret o) => some (o.spaceOrEmpty, o.shownName)
  | .delete .secret space name => some (space, name)
  | _ => none

namespace Controller

@[simp] theorem listed_affected (c : Configuration) (d : Dependency) (kind : Kind)
    (space name : String) :
    Notice.listed (affected c d kind space name) = (c.dependents d space name).map (·.key) := by
  rw [affected]
  split
  · rename_i hnone
    simp [hnone, Notice.listed]
  · simp [Notice.listed]

/-- What came or went is looked for in the configuration as it is. No store keeps secrets, so the
message changes nothing. -/
theorem snd_receive_of_secret {c : Controller} {m : Message} {space name : String}
    (hm : m.secret? = some (space, name)) :
    (c.receive m).2 = secretAffected c.configuration space name := by
  rcases m with o | ⟨kind, space', name'⟩
  · cases o <;> cases hm
    rfl
  · cases kind <;> cases hm
    rfl

section Told

variable {c : Configuration} {space name : String}

/-- The look-ups for a secret find the served resources that read it. The first look-up and the
others stand for the two ways to read one. -/
theorem mem_listed_secretAffected_iff (hc : c.Settled) (hs : c.store.Sound)
    (hplaced : c.store.PoliciesPlaced) {key : String} :
    key ∈ Notice.listed (secretAffected c space name) ↔
      ∃ r ∈ c.resources, r.key = key ∧ r.ReadsSecret c.store c.isPlus space name := by
  have hholding : Holding c.holders := Configuration.holding_of_settled hc hs
  have hmaster : ∀ r ∈ c.resources, ∀ x, r = .ingress x → ∀ m ∈ x.minions, x.isMaster = true := by
    rintro r hr x rfl m hm
    exact Configuration.isMaster_of_mem_minions hc hr hm
  -- A resource is told of the secret itself, or of a policy that names it.
  simp only [secretAffected, policyAffected, Notice.listed_append, Notice.listed_flatMap,
    listed_affected, List.mem_append, List.mem_flatMap, List.mem_map,
    Configuration.mem_dependents_iff hholding, Configuration.mem_policiesForSecret_iff]
  constructor
  · rintro (⟨r, ⟨hr, hconcerns⟩, hkey⟩ |
      ⟨p, ⟨⟨place, hp⟩, hspace, hnames⟩, r, ⟨hr, hconcerns⟩, hkey⟩)
    · exact ⟨r, hr, hkey, .itself ((Dependency.concerns_secret_iff (hmaster r hr)).1 hconcerns)⟩
    · exact ⟨r, hr, hkey,
        .policy hp hspace hnames ((Dependency.concerns_policy_iff (hplaced _ p hp)).1 hconcerns)⟩
  · rintro ⟨r, hr, hkey, h | ⟨hp, hspace, hnames, h⟩⟩
    · exact .inl ⟨r, ⟨hr, (Dependency.concerns_secret_iff (hmaster r hr)).2 h⟩, hkey⟩
    · exact .inr ⟨_, ⟨⟨_, hp⟩, hspace, hnames⟩, r,
        ⟨hr, (Dependency.concerns_policy_iff (hplaced _ _ hp)).2 h⟩, hkey⟩

end Told

/-- A message about a secret is answered with lists of the resources that read it. After any
messages, when all policies of the store have a name and a namespace, a served resource is in one of
the lists exactly when it names the secret itself or refers to a policy that does, and nothing else
is listed. -/
theorem secret_readers_told (className : String) (f : Features) (globalKey : Option String)
    (messages : List Message) {m : Message} {space name : String}
    (hm : m.secret? = some (space, name))
    (hplaced : ((fresh className f globalKey).run messages).configuration.store.PoliciesPlaced) :
    let c := (fresh className f globalKey).run messages
    let told := Notice.listed (c.receive m).2
    (∀ r ∈ c.configuration.resources,
      r.key ∈ told ↔ r.ReadsSecret c.configuration.store f.isPlus space name) ∧
    ∀ key ∈ told, ∃ r ∈ c.configuration.resources, r.key = key := by
  intro c told
  obtain ⟨hsettled, hsound, -, -⟩ : c.configuration.Settled ∧ c.configuration.store.Sound ∧ _ :=
    known_run
  have hplus : c.configuration.isPlus = f.isPlus := by
    -- Only the start says whether the product is NGINX Plus: no message changes it.
    obtain ⟨events, -, hevents⟩ := exists_events className f globalKey messages
    show ((fresh className f globalKey).run messages).configuration.isPlus = _
    rw [hevents]
    exact Configuration.isPlus_run
  have htold : ∀ key, key ∈ told ↔ ∃ r ∈ c.configuration.resources, r.key = key ∧
      r.ReadsSecret c.configuration.store f.isPlus space name := by
    intro key
    rw [← hplus, ← mem_listed_secretAffected_iff hsettled hsound hplaced,
      ← snd_receive_of_secret hm]
  have hholding : Holding c.configuration.holders :=
    Configuration.holding_of_settled hsettled hsound
  refine ⟨fun r hr => ?_, fun key hkey => ?_⟩
  · rw [htold]
    constructor
    · rintro ⟨q, hq, hkey, hreads⟩
      rwa [← Configuration.eq_of_mem_resources hholding hq hr hkey]
    · exact fun hreads => ⟨r, hr, rfl, hreads⟩
  · obtain ⟨r, hr, hkey, -⟩ := (htold key).1 hkey
    exact ⟨r, hr, hkey⟩

/-- A policy that checks tokens, for which it reads the secret `keys`. -/
def tokenPolicy : Policy :=
  ⟨Configuration.plainMeta "tokens" 1 0, ⟨"", none, none, some ⟨"", "keys", ""⟩, none, none, none⟩⟩

/-- A virtual server that refers to the policy `tokens`, without a namespace. -/
def tokenServer : VirtualServer :=
  let plain := Configuration.plainServer "cafe" "cafe.example.com" 1 10
  { plain with spec := { plain.spec with policies := [⟨"tokens", ""⟩] } }

/-- The secret that a policy reads goes, and the virtual server that refers to the policy is
listed. -/
theorem reader_through_policy_told :
    let messages : List Message :=
      [.apply (.policy tokenPolicy), .apply (.virtualServer tokenServer)]
    let c := (fresh "nginx" Features.none none).run messages
    let m := Message.delete .secret "shop" "keys"
    m.secret? = some ("shop", "keys") ∧ c.configuration.store.PoliciesPlaced ∧
      "VirtualServer/shop/cafe" ∈ Notice.listed (c.receive m).2 := by
  intro messages c m
  have hpolicies : c.configuration.store.policies.values = [tokenPolicy] := by decide +kernel
  have hplaced : c.configuration.store.PoliciesPlaced := by
    intro key p hp
    have hmem : p ∈ c.configuration.store.policies.values := Table.mem_values_iff.2 ⟨key, hp⟩
    rw [hpolicies, List.mem_singleton] at hmem
    exact hmem ▸ ⟨rfl, rfl⟩
  have hserved : .virtualServer ⟨tokenServer, [], []⟩ ∈ c.configuration.resources := by
    decide +kernel
  have hstored : c.configuration.store.policies.get? "shop/tokens" = some tokenPolicy := by
    decide +kernel
  have hnames : tokenPolicy.spec.NamesSecret "keys" := ⟨by decide, .inl ⟨_, rfl, rfl⟩⟩
  -- The server names the policy, and the policy the secret; the server names no secret.
  have hrefers : Resource.RefersToPolicy tokenPolicy (.virtualServer ⟨tokenServer, [], []⟩) :=
    .server _ (List.mem_singleton_self _) ⟨rfl, rfl⟩
  have htold := secret_readers_told "nginx" Features.none none messages (m := m) rfl hplaced
  exact ⟨rfl, hplaced, (htold.1 _ hserved).2 (.policy hstored rfl hnames hrefers)⟩

end Controller

end Gatehouse
