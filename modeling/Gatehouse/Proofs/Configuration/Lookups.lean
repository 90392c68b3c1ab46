import Gatehouse.Proofs.Configuration.Copy

/-!
Who depends on an object is found where it is served.

A look-up goes through the hosts, keeps the first resource of every key, and then goes through the
listeners without a look at the keys. That nothing is found twice all the same is an invariant of
what is served (`Holding`): a key belongs to one resource, so that the first of a key stands for all
of them (`mem_firstOfKeys_iff`), no resource has a host and a listener, and none has two listeners.
The last two follow from what a resource says it serves (`Resource.isHost_eq_of_serves`,
`Resource.eq_of_serves`), and that no transport server that passes its checks can say both is part
of `Store.Sound`.
-/

set_option autoImplicit false

namespace Gatehouse

/-! ## 1. Dependents -/

/-- The object is referred to in the main object of the resource, in one of its minions or in one of
its virtual server routes. -/
inductive Dependency.Concerns (d : Dependency) (space name : String) : Resource → Prop
  | ingress (r : IngressResource) (h : d.usedByIngress space name r.ingress = true) :
      Concerns d space name (.ingress r)
  | minion (r : IngressResource) {m : Minion} (hm : m ∈ r.minions)
      (h : d.usedByMinion space name m.ingress = true) : Concerns d space name (.ingress r)
  | virtualServer (r : VirtualServerResource)
      (h : d.usedByVirtualServer space name r.server = true) :
      Concerns d space name (.virtualServer r)
  | route (r : VirtualServerResource) {vsr : VirtualServerRoute} (hvsr : vsr ∈ r.routes)
      (h : d.usedByVirtualServerRoute space name vsr = true) :
      Concerns d space name (.virtualServer r)
  | transportServer (r : TransportServerResource)
      (h : d.usedByTransportServer space name r.server = true) :
      Concerns d space name (.transportServer r)

/-- The look-up asks of a resource exactly this. Its tests on the parts of a resource are turned
into one constructor for each sort of part. -/
theorem Dependency.usedBy_iff {d : Dependency} {space name : String} {r : Resource} :
    d.usedBy space name r = true ↔ d.Concerns space name r := by
  constructor
  · intro h
    -- The main object is asked first, then what is attached to it.
    cases r with
    | ingress r =>
      rcases Bool.or_eq_true_iff.1 h with hmain | hany
      · exact .ingress r hmain
      · obtain ⟨m, hm, hused⟩ := List.any_eq_true.1 hany
        exact .minion r hm hused
    | virtualServer r =>
      rcases Bool.or_eq_true_iff.1 h with hmain | hany
      · exact .virtualServer r hmain
      · obtain ⟨vsr, hvsr, hused⟩ := List.any_eq_true.1 hany
        exact .route r hvsr hused
    | transportServer r => exact .transportServer r h
  · rintro (⟨r, h⟩ | ⟨r, hm, h⟩ | ⟨r, h⟩ | ⟨r, hvsr, h⟩ | ⟨r, h⟩)
    · exact Bool.or_eq_true_iff.2 (.inl h)
    · exact Bool.or_eq_true_iff.2 (.inr (List.any_eq_true.2 ⟨_, hm, h⟩))
    · exact Bool.or_eq_true_iff.2 (.inl h)
    · exact Bool.or_eq_true_iff.2 (.inr (List.any_eq_true.2 ⟨_, hvsr, h⟩))
    · exact h

namespace Configuration

/-! ## 2. The first of every key -/

section FirstOfKeys

variable {rs : List Resource} {r : Resource}

/-- The first of every key is one of the list. -/
theorem mem_of_mem_firstOfKeys (h : r ∈ firstOfKeys rs) : r ∈ rs := by
  induction rs with
  | nil => cases h
  | cons q rs ih =>
    rw [firstOfKeys] at h
    rcases List.mem_cons.1 h with rfl | h
    · exact List.mem_cons_self
    · exact List.mem_cons_of_mem _ (ih (List.mem_filter.1 h).1)

/-- And every key of the list keeps a resource. -/
theorem exists_mem_firstOfKeys (h : r ∈ rs) : ∃ q ∈ firstOfKeys rs, q.key = r.key := by
  induction rs with
  | nil => cases h
  | cons x rs ih =>
    rw [firstOfKeys]
    -- the head drops all others with its key, and stands for them
    by_cases hkey : x.key = r.key
    · exact ⟨x, List.mem_cons_self, hkey⟩
    · have hin : r ∈ rs := by
        rcases List.mem_cons.1 h with rfl | hin
        · exact absurd rfl hkey
        · exact hin
      obtain ⟨q, hq, hqkey⟩ := ih hin
      refine ⟨q, List.mem_cons_of_mem _ (List.mem_filter.2 ⟨hq, ?_⟩), hqkey⟩
      rw [hqkey]
      simpa using Ne.symm hkey

/-- When a key belongs to one resource, nothing gets lost. In general the later ones of a key
would. -/
theorem mem_firstOfKeys_iff (hunique : ∀ q ∈ rs, ∀ x ∈ rs, q.key = x.key → q = x) :
    r ∈ firstOfKeys rs ↔ r ∈ rs := by
  refine ⟨mem_of_mem_firstOfKeys, fun hr => ?_⟩
  obtain ⟨q, hq, hkey⟩ := exists_mem_firstOfKeys hr
  rw [← hunique q (mem_of_mem_firstOfKeys hq) r hr hkey]
  exact hq

/-- No key is kept twice. -/
theorem nodup_keys_firstOfKeys (rs : List Resource) :
    ((firstOfKeys rs).map Resource.key).Nodup := by
  induction rs with
  | nil => exact List.nodup_nil
  | cons x rs ih =>
    rw [firstOfKeys, List.map_cons, List.nodup_cons]
    -- what has the key of the head is filtered out of the rest
    refine ⟨fun hmem => ?_, ih.sublist (List.filter_sublist.map _)⟩
    obtain ⟨q, hq, hkey⟩ := List.mem_map.1 hmem
    simpa [hkey] using (List.mem_filter.1 hq).2

end FirstOfKeys

/-! ## 3. Look-ups -/

section Dependents

variable {c : Configuration} {d : Dependency} {space name : String} {r : Resource}

theorem mem_listening_iff :
    r ∈ (asResources c.listeners).values ↔ ∃ n, c.holders (.listener n) = some r :=
  Table.mem_values_iff

theorem mem_hosting_iff : r ∈ c.hosts.values ↔ ∃ h, c.holders (.host h) = some r :=
  Table.mem_values_iff

/-- What is found is what is served and refers to the object. Leaving out what was seen before loses
nothing, because it is the same resource. -/
theorem mem_dependents_iff (hc : Holding c.holders) :
    r ∈ c.dependents d space name ↔ r ∈ c.resources ∧ d.Concerns space name r := by
  have hunique : ∀ q ∈ c.hosts.values.filter (d.usedBy space name),
      ∀ x ∈ c.hosts.values.filter (d.usedBy space name), q.key = x.key → q = x := by
    intro q hq x hx
    obtain ⟨h, hh⟩ := mem_hosting_iff.1 (List.mem_filter.1 hq).1
    obtain ⟨g, hg⟩ := mem_hosting_iff.1 (List.mem_filter.1 hx).1
    exact hc.unique _ q _ x hh hg
  rw [dependents, List.mem_append, mem_firstOfKeys_iff hunique, List.mem_filter, List.mem_filter,
    ← or_and_right, mem_hosting_iff, mem_listening_iff, mem_resources_iff hc, Slot.exists_iff,
    Dependency.usedBy_iff]

/-- No two slots of a table have transport servers with the same key. A transport server serves one
slot only. -/
theorem nodup_keys_transport (hc : Holding c.holders) {t : Table Resource} (slotOf : String → Slot)
    (hinj : Function.Injective slotOf)
    (hslots : ∀ name r, t.get? name = some r → c.holders (slotOf name) = some r) :
    ((t.values.filter isTransport).map Resource.key).Nodup := by
  have hentries : t.entries.Nodup := List.Nodup.of_map _ t.nodup_keys
  rw [Table.values, List.filter_map, List.map_map]
  refine (hentries.filter _).map_on fun e he e' he' hkey => ?_
  obtain ⟨hmem, htransport⟩ := List.mem_filter.1 he
  have hslot : c.holders (slotOf e.1) = some e.2 := hslots _ _ (Table.mem_entries_iff.1 hmem)
  have hslot' : c.holders (slotOf e'.1) = some e'.2 :=
    hslots _ _ (Table.mem_entries_iff.1 (List.mem_filter.1 he').1)
  have hsame : e.2 = e'.2 := hc.unique _ _ _ _ hslot hslot' hkey
  have hnot : ∀ i, e.2 ≠ .ingress i := by
    intro i hi
    simp [hi, isTransport] at htransport
  -- a transport server serves one slot
  have hname : slotOf e.1 = slotOf e'.1 :=
    Resource.eq_of_serves hnot (hc.serves _ _ hslot) (hsame ▸ hc.serves _ _ hslot')
  exact Prod.ext (hinj hname) hsame

theorem filter_isTransport_listening :
    (asResources c.listeners).values.filter isTransport = (asResources c.listeners).values := by
  refine List.filter_eq_self.2 fun r hr => ?_
  obtain ⟨n, hn⟩ := mem_listening_iff.1 hr
  obtain ⟨t, -, rfl⟩ := holders_listener_iff.1 hn
  rfl

theorem nodup_keys_listening (hc : Holding c.holders) :
    ((asResources c.listeners).values.map Resource.key).Nodup := by
  rw [← filter_isTransport_listening]
  exact nodup_keys_transport hc .listener (fun _ _ => Slot.listener.inj) fun _ _ hget => hget

/-- No resource is found twice: not among the hosts, where keys are looked at, not among the
listeners, and not in both, as no resource has both. -/
theorem nodup_keys_dependents (hc : Holding c.holders) :
    ((c.dependents d space name).map Resource.key).Nodup := by
  rw [dependents, List.map_append]
  refine List.nodup_append.2 ⟨nodup_keys_firstOfKeys _,
    (nodup_keys_listening hc).sublist (List.filter_sublist.map _), ?_⟩
  intro k hk l hl heq
  obtain ⟨q, hq, rfl⟩ := List.mem_map.1 hk
  obtain ⟨x, hx, rfl⟩ := List.mem_map.1 hl
  obtain ⟨h, hh⟩ := mem_hosting_iff.1 (List.mem_filter.1 (mem_of_mem_firstOfKeys hq)).1
  obtain ⟨n, hn⟩ := mem_listening_iff.1 (List.mem_filter.1 hx).1
  -- it would have a host and a listener
  obtain rfl : q = x := hc.unique _ _ _ _ hh hn heq
  cases Resource.isHost_eq_of_serves (hc.serves _ _ hh) (hc.serves _ _ hn)

end Dependents

/-! ## 4. Runs -/

section Run

variable {f : Features} {a : Admission} {events : List Event}

/-- Which references to secrets count is said by a feature, and does not change in a run. -/
theorem isPlus_run : ((fresh f a).run events).isPlus = f.isPlus :=
  congrArg Configuration.isPlus run_eq_settle

end Run

/-- The look-ups agree with what is served. After any events, the resources that are found to depend
on an object are the served resources that refer to it in their main object, in a minion or in a
virtual server route, and none of them is found twice. This is so for services and for their
endpoints (`.service` without and with the cluster addresses skipped), for policies, for the objects
of both firewalls (`.annotated` and `.dosProtected`) and for secrets, which are looked for as the
features say. -/
theorem dependents_agree (className : String) (f : Features) (events : List Event) :
    let c := (fresh f (.checked className f)).run events
    (∀ d space name,
      (∀ r, r ∈ c.dependents d space name ↔ r ∈ c.resources ∧ d.Concerns space name r) ∧
        ((c.dependents d space name).map Resource.key).Nodup) ∧
      ∀ space name, c.secretDependents space name = c.dependents (.secret f.isPlus) space name := by
  intro c
  have hholding : Holding c.holders := holding_run
  refine ⟨fun d space name => ⟨fun r => mem_dependents_iff hholding,
    nodup_keys_dependents hholding⟩, fun space name => ?_⟩
  rw [secretDependents, isPlus_run]

end Configuration

end Gatehouse
