import Gatehouse.Dependency
import Gatehouse.Proofs.Resource
import Gatehouse.Proofs.Validation.VirtualServer

/-!
What the references of an accepted object mean.

A reference may leave its namespace out and then means the namespace of the object that it stands
in. The validation looks at references as they are written, the rest of the program at what they
mean, and there are two places where this makes a difference. A policy that is written with its
namespace and without counts as two policies (`policies_meant_once_iff`). And a route may leave its
path to a virtual server route of the empty namespace, by a reference that begins with the slash
(`route_resolvable_iff`). Everything else that is accepted means each policy once, and virtual
server routes that there can be.
-/

set_option autoImplicit false

namespace Gatehouse

/-! ## 1. What references mean -/

namespace PolicyRef

/-- The namespace and the name of the policy that is meant. -/
def target (home : String) (p : PolicyRef) : String × String :=
  (if p.space = "" then home else p.space, p.name)

theorem means_iff_target {home space name : String} {p : PolicyRef} :
    p.means home space name = true ↔ p.target home = (space, name) := by
  simp [means, target, and_comm]

/-- Different references mean one policy when one of them has the namespace of the object and the
other one leaves it out. There is no other way, because the name is the same in both. -/
theorem target_eq_iff {home : String} {p q : PolicyRef} : p.target home = q.target home ↔
    p = q ∨ p.name = q.name ∧ (p.space = "" ∧ q.space = home ∨ p.space = home ∧ q.space = "") := by
  obtain ⟨name, space⟩ := p
  obtain ⟨name', space'⟩ := q
  simp only [target, Prod.mk.injEq, mk.injEq]
  -- a namespace that is left out takes the place of the one that it means
  split_ifs <;> grind

end PolicyRef

/-- No policy is meant by two of the references. It is a matter of what they mean from `home`, not
of how they are written. -/
def MeantOnce (home : String) (policies : List PolicyRef) : Prop :=
  ∀ space name, policies.countP (·.means home space name) ≤ 1

/-- A policy is referred to with its namespace and without. As the references differ as written, the
check for repetitions lets both pass. -/
def BothWays (home : String) (policies : List PolicyRef) : Prop :=
  ∃ name, ⟨name, ""⟩ ∈ policies ∧ ⟨name, home⟩ ∈ policies

/-- The key that a reference stands for is one that an object can have. A reference without a slash
stands for an object of the namespace of the object that refers. -/
def Resolvable (home reference : String) : Prop :=
  ∃ space name, qualify home reference = joinKey space name ∧
    Format.IsSubdomain space ∧ Format.IsSubdomain name ∧ ('/' ∉ reference.toList → space = home)

/-- The lists of policies of a virtual server: its own, and one for each route. -/
def VirtualServerSpec.policyLists (spec : VirtualServerSpec) : List (List PolicyRef) :=
  spec.policies :: spec.routes.map (·.policies)

/-- The lists of policies of a virtual server route, one for each subroute. -/
def VirtualServerRouteSpec.policyLists (spec : VirtualServerRouteSpec) : List (List PolicyRef) :=
  spec.subroutes.map (·.policies)

namespace Validation

/-! ## 2. Policies -/

section Policies

variable {f : Features} {home : String} {policies : List PolicyRef}

/-- No policy is meant by two references when no two of them have the same target. -/
theorem meantOnce_iff_nodup : MeantOnce home policies ↔ (policies.map (·.target home)).Nodup := by
  have hcount : ∀ space name, (policies.map (·.target home)).count (space, name) =
      policies.countP (·.means home space name) := by
    intro space name
    rw [List.count, List.countP_map]
    refine List.countP_congr fun p _ => ?_
    rw [Function.comp, beq_iff_eq, PolicyRef.means_iff_target]
  rw [List.nodup_iff_count_le_one, MeantOnce]
  simp only [Prod.forall, hcount]

instance : Decidable (MeantOnce home policies) := decidable_of_iff _ meantOnce_iff_nodup.symm

/-- References that are told apart as they are written mean different policies, unless one of them
is written in both ways. The namespace of the object has to be known for that, as without one the
two ways are the same. -/
theorem PoliciesOk.meantOnce_iff (h : PoliciesOk policies) (hhome : home ≠ "") :
    MeantOnce home policies ↔ ¬BothWays home policies := by
  -- The entries differ as written, so what is meant twice is written in two ways: with its
  -- namespace and without.
  rw [meantOnce_iff_nodup, List.nodup_map_iff_inj_on h.distinct]
  constructor
  · rintro hinj ⟨name, hshort, hlong⟩
    have hsame : (⟨name, ""⟩ : PolicyRef) = ⟨name, home⟩ :=
      hinj _ hshort _ hlong (PolicyRef.target_eq_iff.2 (.inr ⟨rfl, .inl ⟨rfl, rfl⟩⟩))
    exact hhome (congrArg PolicyRef.space hsame).symm
  · rintro hboth ⟨name, space⟩ hp ⟨name', space'⟩ hq htarget
    rcases PolicyRef.target_eq_iff.1 htarget with heq | ⟨hname, hspaces⟩
    · exact heq
    · obtain rfl : name = name' := hname
      refine absurd ⟨name, ?_⟩ hboth
      rcases hspaces with ⟨rfl, rfl⟩ | ⟨rfl, rfl⟩
      · exact ⟨hp, hq⟩
      · exact ⟨hq, hp⟩

/-- All lists of policies of a well-formed virtual server are checked alike. -/
theorem ServerWellFormed.policiesOk {spec : VirtualServerSpec} (h : ServerWellFormed f spec)
    (hmem : policies ∈ spec.policyLists) : PoliciesOk policies := by
  rcases List.mem_cons.1 hmem with rfl | hmem
  · exact h.policies
  · obtain ⟨r, hr, rfl⟩ := List.mem_map.1 hmem
    exact (h.routes.each r hr).policies

/-- So are those of a virtual server route. -/
theorem ServerRouteWellFormed.policiesOk {spec : VirtualServerRouteSpec}
    (h : ServerRouteWellFormed f spec) (hmem : policies ∈ spec.policyLists) :
    PoliciesOk policies := by
  obtain ⟨r, hr, rfl⟩ := List.mem_map.1 hmem
  exact (h.subroutes.each r hr).policies

end Policies

/-- In an accepted virtual server or virtual server route no list of policies means a policy twice,
exactly when it has no policy both with its namespace and without. So the check misses this one case
and no other. -/
theorem policies_meant_once_iff (f : Features) :
    (∀ vs, virtualServerErrors f vs = [] → vs.metadata.spaceOrEmpty ≠ "" →
      ∀ policies ∈ vs.spec.policyLists, (MeantOnce vs.metadata.spaceOrEmpty policies ↔
        ¬BothWays vs.metadata.spaceOrEmpty policies)) ∧
      ∀ vsr, virtualServerRouteErrors f vsr = [] → vsr.metadata.spaceOrEmpty ≠ "" →
        ∀ policies ∈ vsr.spec.policyLists, (MeantOnce vsr.metadata.spaceOrEmpty policies ↔
          ¬BothWays vsr.metadata.spaceOrEmpty policies) := by
  constructor
  · intro vs h hhome policies hmem
    have hok : PoliciesOk policies := (virtualServerErrors_eq_nil_iff.1 h).policiesOk hmem
    exact hok.meantOnce_iff hhome
  · intro vsr h hhome policies hmem
    have hok : PoliciesOk policies := (virtualServerRouteErrors_eq_nil_iff.1 h).policiesOk hmem
    exact hok.meantOnce_iff hhome

/-- The metadata of an object of the namespace `shop`. -/
def shopMetadata : Meta := { Meta.blank with space := some "shop", name := some "cafe" }

/-- A virtual server of the namespace `shop` that has policies and leaves one path to a virtual
server route. -/
def referringServer (policies : List PolicyRef) (route : String) : VirtualServer :=
  ⟨shopMetadata, ⟨"", "cafe.example.com", none, policies, [], [⟨"/tea", route, none, [], "", ""⟩],
    "", "", ""⟩⟩

/-- A virtual server route of the namespace `shop` that has policies for its one path. -/
def referringRoute (policies : List PolicyRef) : VirtualServerRoute :=
  ⟨shopMetadata, ⟨"", "cafe.example.com", [],
    [⟨"/tea", "", some ⟨"", some ⟨"https://tea.example.com", none⟩, none, none⟩, policies, "", ""⟩]⟩⟩

/-- Policies of one name and of two namespaces are different policies. -/
theorem policies_of_two_namespaces :
    let policies : List PolicyRef := [⟨"rate", ""⟩, ⟨"rate", "ops"⟩]
    let vs := referringServer policies "tea"
    let vsr := referringRoute policies
    virtualServerErrors .none vs = [] ∧ MeantOnce vs.metadata.spaceOrEmpty policies ∧
      virtualServerRouteErrors .none vsr = [] ∧ MeantOnce vsr.metadata.spaceOrEmpty policies := by
  intro policies vs vsr
  have hserver : virtualServerErrors .none vs = [] := by decide +kernel
  have hroute : virtualServerRouteErrors .none vsr = [] := by decide +kernel
  have hboth : ¬BothWays "shop" policies := by
    rintro ⟨name, -, hlong⟩
    simp [policies] at hlong
  obtain ⟨hservers, hroutes⟩ := policies_meant_once_iff .none
  have honServer := hservers vs hserver (by decide) policies (List.mem_cons_self ..)
  have honRoute := hroutes vsr hroute (by decide) policies (List.mem_singleton_self _)
  exact ⟨hserver, honServer.2 hboth, hroute, honRoute.2 hboth⟩

/-- A policy of the namespace `shop`, once without the namespace and once with it, is accepted and
meant twice. The two entries differ as they are written, and no more than that is compared. -/
theorem policy_meant_twice :
    let policies : List PolicyRef := [⟨"rate", ""⟩, ⟨"rate", "shop"⟩]
    let vs := referringServer policies "tea"
    virtualServerErrors .none vs = [] ∧ vs.metadata.spaceOrEmpty = "shop" ∧
      policies ∈ vs.spec.policyLists ∧ ¬MeantOnce "shop" policies := by
  decide +kernel

/-! ## 3. Virtual server routes -/

/-- With nothing before its slash, a reference means an object without a namespace, and there is
none. -/
theorem not_resolvable_joinKey_empty {home name : String} : ¬Resolvable home (joinKey "" name) := by
  rintro ⟨space', name', hkey, hspace', -⟩
  rw [qualify_joinKey] at hkey
  obtain ⟨rfl, -⟩ := joinKey_inj (by simp) hspace'.slash_notMem hkey
  exact hspace'.ne_empty rfl

/-- What is accepted as a reference to a virtual server route can be resolved, unless it has an
empty namespace before its slash. -/
theorem IsRouteReference.resolvable_iff {home reference : String} (h : IsRouteReference reference)
    (hhome : Format.IsSubdomain home) :
    Resolvable home reference ↔ reference.toList.head? ≠ some '/' := by
  cases h with
  | name hname =>
    have hslash : '/' ∉ reference.toList := hname.slash_notMem
    have hkey : qualify home reference = joinKey home reference := qualify_of_notMem hslash
    constructor
    · exact fun _ hhead => hslash (List.mem_of_mem_head? hhead)
    · exact fun _ => ⟨home, reference, hkey, hhome, hname, fun _ => rfl⟩
  | @placed space name hspace hname =>
    have hslash : '/' ∈ (joinKey space name).toList := by simp [joinKey]
    rcases hspace with rfl | hspace
    · -- A slash in front: the key begins with it too, and no namespace is empty.
      have hhead : (joinKey "" name).toList.head? = some '/' := by simp [joinKey]
      constructor
      · exact fun h => absurd h not_resolvable_joinKey_empty
      · exact fun hne => absurd hhead hne
    · constructor
      · intro _ hhead
        have hne : space.toList ≠ [] := by simpa using hspace.ne_empty
        rw [joinKey, String.append_assoc, String.toList_append,
          List.head?_append_of_ne_nil _ hne] at hhead
        exact hspace.slash_notMem (List.mem_of_mem_head? hhead)
      · intro _
        exact ⟨space, name, qualify_joinKey .., hspace, hname, fun hno => absurd hslash hno⟩

/-- In an accepted virtual server of a proper namespace, the reference of a route can be resolved
exactly when it does not begin with the slash. The part before the slash is looked at only when
there is one, and completing a reference keeps the slash. -/
theorem route_resolvable_iff (f : Features) (vs : VirtualServer)
    (h : virtualServerErrors f vs = [])
    (hhome : Format.IsSubdomain vs.metadata.spaceOrEmpty) :
    ∀ r ∈ vs.spec.routes, r.route ≠ "" →
      (Resolvable vs.metadata.spaceOrEmpty r.route ↔ r.route.toList.head? ≠ some '/') := by
  intro r hr hroute
  have hwell : ServerWellFormed f vs.spec := virtualServerErrors_eq_nil_iff.1 h
  have hreference : IsRouteReference r.route := by
    cases (hwell.routes.each r hr).target with
    | acts hacts => exact absurd hacts hroute
    | delegates _ _ _ hreference => exact hreference
  exact hreference.resolvable_iff hhome

/-- A name alone can be resolved. -/
theorem name_resolvable :
    let vs := referringServer [] "tea"
    virtualServerErrors .none vs = [] ∧ Format.IsSubdomain vs.metadata.spaceOrEmpty ∧
      Resolvable vs.metadata.spaceOrEmpty "tea" := by
  intro vs
  have hvalid : virtualServerErrors .none vs = [] := by decide +kernel
  have hhome : Format.IsSubdomain vs.metadata.spaceOrEmpty := by decide +kernel
  have hiff := route_resolvable_iff .none vs hvalid hhome _ (List.mem_singleton_self _) (by decide)
  exact ⟨hvalid, hhome, hiff.2 (by decide)⟩

/-- A name after a slash is accepted and cannot be resolved. The key that it is looked for under has
an empty namespace, and no namespace has an empty name. -/
theorem slash_not_resolvable :
    let vs := referringServer [] "/tea"
    virtualServerErrors .none vs = [] ∧ Format.IsSubdomain vs.metadata.spaceOrEmpty ∧
      vs.spec.routes.map (·.route) = ["/tea"] ∧ ¬Resolvable vs.metadata.spaceOrEmpty "/tea" := by
  intro vs
  have hkey : "/tea" = joinKey "" "tea" := by decide
  refine ⟨by decide +kernel, by decide +kernel, rfl, ?_⟩
  rw [hkey]
  exact not_resolvable_joinKey_empty

end Validation

end Gatehouse
