import Gatehouse.Proofs.Plan.Core
import Gatehouse.Proofs.Plan.Ownership
import Gatehouse.Proofs.Plan.Problems

/-!
Equivalent resources are rendered alike.

The comparison of resources looks at generations in place of specifications, and of minions at
nothing but which they are, in which generation and with which annotations; it looks neither at the
paths that minions have nor at what their owners are told. That is enough as long as a generation
stands for one specification (`Store.VersionsAgree`). Then the minions of equivalent masters have
the same cores (`Ingress.core_eq_of_version_eq`), and since minions are decided on their cores, they
have the same paths and the same warnings too (`decidedMinions_congr`).
-/

set_option autoImplicit false

universe u v w

namespace Gatehouse

/-! ## 1. What is rendered -/

/-- What the proxy is told of a resource. Of the objects it is the specification and, for an
ingress, the annotations; the identity of the resource is in its key. -/
inductive Rendered
  | ingress (spec : Option IngressSpec) (annotations : Option (Table String)) (isMaster : Bool)
    (validHosts : Table Bool)
    (minions : List (Option IngressSpec × Option (Table String) × Table Bool))
    (childWarnings : Table (List String))
  | virtualServer (spec : VirtualServerSpec) (routes : List VirtualServerRouteSpec)
  | transportServer (spec : TransportServerSpec) (port : Int)
  deriving DecidableEq

/-- What the proxy is told of a minion: what it asks for and which of its paths it has. -/
def Minion.rendered (m : Minion) : Option IngressSpec × Option (Table String) × Table Bool :=
  (m.ingress.spec, m.ingress.metadata.annotations, m.validPaths)

/-- What the proxy is told of the resource. -/
def Resource.rendered : Resource → Rendered
  | .ingress r =>
    .ingress r.ingress.spec r.ingress.metadata.annotations r.isMaster r.validHosts
      (r.minions.map Minion.rendered) r.childWarnings
  | .virtualServer r => .virtualServer r.server.spec (r.routes.map (·.spec))
  | .transportServer r => .transportServer r.server.spec r.port

/-! ## 2. Versions -/

/-- Two objects that are the same version have the same specification, identifier and creation time.
This is what a cluster promises of generations. -/
def SameContent {σ : Type} (m n : Meta) (spec spec' : σ) : Prop :=
  m.version = n.version → spec = spec' ∧ m.uid = n.uid ∧ m.created = n.created

instance {σ : Type} [DecidableEq σ] (m n : Meta) (spec spec' : σ) :
    Decidable (SameContent m n spec spec') :=
  inferInstanceAs (Decidable (m.version = n.version → _))

/-- An object of the one store and an object of the other that are the same version of the same
object, have the same specification, identifier and creation time. The annotations may differ. -/
structure Store.VersionsAgree (s t : Store) : Prop where
  ingress : ∀ i ∈ s.ingresses.values, ∀ j ∈ t.ingresses.values,
    SameContent i.metadata j.metadata i.spec j.spec
  virtualServer : ∀ v ∈ s.virtualServers.values, ∀ w ∈ t.virtualServers.values,
    SameContent v.metadata w.metadata v.spec w.spec
  virtualServerRoute : ∀ v ∈ s.virtualServerRoutes.values, ∀ w ∈ t.virtualServerRoutes.values,
    SameContent v.metadata w.metadata v.spec w.spec
  transportServer : ∀ v ∈ s.transportServers.values, ∀ w ∈ t.transportServers.values,
    SameContent v.metadata w.metadata v.spec w.spec

/-- The core of metadata is the version together with what seniority needs. -/
theorem Meta.core_eq_iff {m n : Meta} :
    m.core = n.core ↔ m.version = n.version ∧ m.uid = n.uid ∧ m.created = n.created := by
  simp only [core, version, Version.mk.injEq, Meta.mk.injEq]
  tauto

/-- The same version of an ingress with the same annotations has the same core. This is where the
promise about versions is used. -/
theorem Ingress.core_eq_of_version_eq {i j : Ingress}
    (h : SameContent i.metadata j.metadata i.spec j.spec)
    (hsame : (i.metadata.version, i.metadata.annotations) =
      (j.metadata.version, j.metadata.annotations)) : i.core = j.core := by
  obtain ⟨hversion, hannotations⟩ := Prod.mk.inj hsame
  obtain ⟨hspec, huid, hcreated⟩ := h hversion
  rw [core, core, Meta.core_eq_iff.2 ⟨hversion, huid, hcreated⟩, hspec, hannotations]

/-- Lists that look alike item by item also do in another way, when for their items the one follows
from the other. -/
theorem map_eq_map_of_imp {α : Type u} {β : Type v} {γ : Type w} {f : α → β} {g : α → γ}
    {xs ys : List α} (h : xs.map f = ys.map f)
    (himp : ∀ x ∈ xs, ∀ y ∈ ys, f x = f y → g x = g y) : xs.map g = ys.map g := by
  induction xs generalizing ys with
  | nil =>
    rw [List.map_eq_nil_iff.1 h.symm]
  | cons x xs ih =>
    cases ys with
    | nil => cases h
    | cons y ys =>
      obtain ⟨hhead, htail⟩ := List.cons.inj h
      have hrest : xs.map g = ys.map g := ih htail fun x' hx' y' hy' =>
        himp x' (List.mem_cons_of_mem _ hx') y' (List.mem_cons_of_mem _ hy')
      rw [List.map_cons, List.map_cons, hrest,
        himp x (List.mem_cons_self ..) y (List.mem_cons_self ..) hhead]

/-! ## 3. Resources of the same versions -/

section Built

variable {a : Admission} {passthrough : Bool} {s : Store}

/-- The minions that a master is merged with are in the store. -/
theorem mem_values_of_mem_mergedWith {i m : Ingress} (h : m ∈ s.mergedWith i) :
    m ∈ s.ingresses.values := by
  rw [Store.mergedWith] at h
  split at h
  · exact (List.mem_filter.1 (List.mem_filter.1 h).1).1
  · cases h

theorem map_decidedMinions {β : Type} (view : Ingress → β) (minions : List Ingress) :
    (decidedMinions minions).map (fun m => view m.ingress) = minions.map view := by
  have hingress : (decidedMinions minions).map (·.ingress) = minions := by
    rw [decidedMinions, List.map_map]
    exact List.zipIdx_map_fst 0 minions
  rw [← hingress, List.map_map, hingress]
  rfl

/-- What the proxy is told of minions can be read off their cores. -/
theorem map_rendered_core (minions : List Minion) :
    (minions.map Minion.core).map Minion.rendered = minions.map Minion.rendered := by
  rw [List.map_map]
  rfl

/-- Minions with the same cores have the same paths, and their owners are told the same. Both sides
are compared with what their common cores come to. -/
theorem decidedMinions_congr {minions others : List Ingress}
    (h : minions.map Ingress.core = others.map Ingress.core) :
    (decidedMinions minions).map Minion.rendered = (decidedMinions others).map Minion.rendered ∧
      minionWarnings (pathContest minions) minions = minionWarnings (pathContest others) others := by
  constructor
  · rw [← map_rendered_core, ← map_rendered_core (decidedMinions others), ← decidedMinions_core,
      ← decidedMinions_core, h]
  · rw [← minionWarnings_core, ← minionWarnings_core others, h]

/-- An ingress of the plan is in the store, and so are the minions that it is merged with. -/
theorem exists_merged {x : IngressResource}
    (hx : Resource.ingress x ∈ (hostPlan a passthrough s).resources) :
    x.ingress ∈ s.ingresses.values ∧ ∃ minions : List Ingress,
      (∀ m ∈ minions, m ∈ s.ingresses.values) ∧ x.minions = decidedMinions minions ∧
        x.childWarnings = minionWarnings (pathContest minions) minions := by
  obtain ⟨key, i, hi, -, heq⟩ := exists_ingressResource hx
  rw [ingressResource_eq] at heq
  rw [heq]
  exact ⟨Table.mem_values_iff.2 ⟨key, hi⟩, s.mergedWith i, fun _ => mem_values_of_mem_mergedWith,
    rfl, rfl⟩

/-- A transport server that is built is in the store, from whichever plan it comes. -/
theorem server_mem_of_built {t : TransportServerResource}
    (ht : Resource.transportServer t ∈ s.built a passthrough) :
    t.server ∈ s.transportServers.values := by
  rcases mem_built_iff.1 ht with hplan | ⟨t', ht', heq⟩
  · obtain ⟨key, hkey, -⟩ := of_transportServer_mem_resources hplan
    exact Table.mem_values_iff.2 ⟨key, hkey⟩
  · obtain rfl := Resource.transportServer.inj heq
    exact Table.mem_values_iff.2 (mem_listeningServers_iff.1 (of_mem_servers ht').1).1

end Built

section Equivalent

variable {a b : Admission} {p q : Bool} {s t : Store} (h : s.VersionsAgree t)

include h

/-- Ingresses that are compared as equal have the same specification, the same marks, and minions
with the same cores. -/
theorem rendered_ingress_eq {x y : IngressResource}
    (hx : Resource.ingress x ∈ s.built a p) (hy : Resource.ingress y ∈ t.built b q)
    (hxy : (Resource.ingress x).rendering = (Resource.ingress y).rendering) :
    (Resource.ingress x).rendered = (Resource.ingress y).rendered := by
  obtain ⟨hxmem, minions, hminions, hxminions, hxwarnings⟩ :=
    exists_merged (ingress_mem_built_iff.1 hx)
  obtain ⟨hymem, others, hothers, hyminions, hywarnings⟩ :=
    exists_merged (ingress_mem_built_iff.1 hy)
  simp only [Resource.rendering, Rendering.ingress.injEq] at hxy
  obtain ⟨hversion, hannotations, hvalid, hmaster, hsame⟩ := hxy
  have hspec : x.ingress.spec = y.ingress.spec := (h.ingress _ hxmem _ hymem hversion).1
  -- the minions are the same versions with the same annotations, so they have the same cores
  have hcores : minions.map Ingress.core = others.map Ingress.core := by
    have hversions : minions.map (fun m => (m.metadata.version, m.metadata.annotations)) =
        others.map fun m => (m.metadata.version, m.metadata.annotations) := by
      rw [← map_decidedMinions, ← map_decidedMinions, ← hxminions, ← hyminions]
      exact hsame
    exact map_eq_map_of_imp hversions fun m hm n hn =>
      Ingress.core_eq_of_version_eq (h.ingress m (hminions m hm) n (hothers n hn))
  obtain ⟨hrendered, hwarnings⟩ := decidedMinions_congr hcores
  rw [← hxminions, ← hyminions] at hrendered
  rw [← hxwarnings, ← hywarnings] at hwarnings
  simp only [Resource.rendered, hspec, hannotations, hvalid, hmaster, hrendered, hwarnings]

/-- For virtual servers the versions of the routes have to be looked at too. The routes are compared
in their order, and a virtual server may list one of them more than once. -/
theorem rendered_virtualServer_eq {x y : VirtualServerResource}
    (hx : Resource.virtualServer x ∈ s.built a p) (hy : Resource.virtualServer y ∈ t.built b q)
    (hxy : (Resource.virtualServer x).rendering = (Resource.virtualServer y).rendering) :
    (Resource.virtualServer x).rendered = (Resource.virtualServer y).rendered := by
  obtain ⟨key, v, hv, hserver, hxroutes⟩ :=
    exists_virtualServer (virtualServer_mem_built_iff.1 hx)
  obtain ⟨key', w, hw, hserver', hyroutes⟩ :=
    exists_virtualServer (virtualServer_mem_built_iff.1 hy)
  simp only [Resource.rendering, Rendering.virtualServer.injEq] at hxy
  obtain ⟨hversion, hroutes⟩ := hxy
  -- Equal versions of the same object are equal specs: this is what is asked of the two stores.
  have hspec : x.server.spec = y.server.spec := by
    rw [hserver, hserver'] at hversion ⊢
    exact (h.virtualServer v (Table.mem_values_iff.2 ⟨key, hv⟩) w
      (Table.mem_values_iff.2 ⟨key', hw⟩) hversion).1
  -- The routes stand in the same order on both sides, so the specs agree one by one.
  have hspecs : x.routes.map (·.spec) = y.routes.map (·.spec) :=
    map_eq_map_of_imp hroutes fun m hm n hn hsame => by
      have hms := (of_mem_routes (hxroutes ▸ hm)).1
      have hnt := (of_mem_routes (hyroutes ▸ hn)).1
      exact (h.virtualServerRoute m (Table.mem_values_iff.2 hms) n (Table.mem_values_iff.2 hnt)
        hsame).1
  simp only [Resource.rendered, hspec, hspecs]

/-- A transport server is compared by its version and its port, which is all that it has. -/
theorem rendered_transportServer_eq {x y : TransportServerResource}
    (hx : Resource.transportServer x ∈ s.built a p) (hy : Resource.transportServer y ∈ t.built b q)
    (hxy : (Resource.transportServer x).rendering = (Resource.transportServer y).rendering) :
    (Resource.transportServer x).rendered = (Resource.transportServer y).rendered := by
  simp only [Resource.rendering, Rendering.transportServer.injEq] at hxy
  obtain ⟨hversion, hport⟩ := hxy
  have hspec : x.server.spec = y.server.spec :=
    (h.transportServer _ (server_mem_of_built hx) _ (server_mem_of_built hy) hversion).1
  simp only [Resource.rendered, hspec, hport]

/-- Resources that are equivalent are rendered alike, when they are built from stores in which a
version of an object stands for one specification, identifier and creation time. The comparison
reads the versions and not the specifications, so something of this kind has to be asked of the
stores. -/
theorem rendered_eq_of_equivalent {x y : Resource} (hx : x ∈ s.built a p) (hy : y ∈ t.built b q)
    (hxy : x.equivalent y = true) : x.rendered = y.rendered := by
  have hrendering := Resource.equivalent_iff.1 hxy
  cases x with
  | ingress x =>
    cases y with
    | ingress y => exact rendered_ingress_eq h hx hy hrendering
    | virtualServer y => cases hrendering
    | transportServer y => cases hrendering
  | virtualServer x =>
    cases y with
    | virtualServer y => exact rendered_virtualServer_eq h hx hy hrendering
    | ingress y => cases hrendering
    | transportServer y => cases hrendering
  | transportServer x =>
    cases y with
    | transportServer y => exact rendered_transportServer_eq h hx hy hrendering
    | ingress y => cases hrendering
    | virtualServer y => cases hrendering

end Equivalent

/-- The metadata of an ingress of the namespace `shop` that plays a part for its host. -/
def shopMeta (name part resourceVersion : String) : Meta :=
  { Meta.blank with
    space := some "shop"
    name := some name
    generation := some 1
    resourceVersion := some resourceVersion
    annotations := some (Table.ofList [(Annotations.mergeableType, part)]) }

/-- A master of the host of the shop. -/
def shopMaster (resourceVersion : String) : Ingress :=
  ⟨shopMeta "web" "master" resourceVersion,
    some ⟨none, none, none, some [⟨some "shop.example.com", none⟩]⟩, none⟩

/-- A minion that lists a path twice. -/
def shopMinion (resourceVersion : String) : Ingress :=
  ⟨shopMeta "tea" "minion" resourceVersion,
    some ⟨none, none, none, some [⟨some "shop.example.com",
      some [⟨some "/tea", "Prefix", default⟩, ⟨some "/tea", "Exact", default⟩]⟩]⟩, none⟩

/-- The master with its minion, as they are in some resource version. -/
def shopStore (resourceVersion : String) : Store :=
  { Store.empty with
    ingresses := Table.ofList [("shop/tea", shopMinion resourceVersion),
      ("shop/web", shopMaster resourceVersion)] }

/-- The resource of the master, which has its host. -/
def shopResource (resourceVersion : String) : Resource :=
  .ingress { ingressResource (shopStore resourceVersion) (shopMaster resourceVersion) with
    validHosts := Table.ofList [("shop.example.com", true)] }

/-- In another resource version, the master and the minion make another resource, which is rendered
like the one before. -/
theorem rendered_eq_of_resourceVersion :
    (shopStore "1").VersionsAgree (shopStore "2") ∧
      shopResource "1" ∈ (shopStore "1").built (.unchecked "nginx") false ∧
      shopResource "2" ∈ (shopStore "2").built (.unchecked "nginx") false ∧
      shopResource "1" ≠ shopResource "2" ∧
      (shopResource "1").equivalent (shopResource "2") = true ∧
      (shopResource "1").rendered = (shopResource "2").rendered := by
  have hversions : (shopStore "1").VersionsAgree (shopStore "2") :=
    ⟨by decide +kernel, by decide +kernel, by decide +kernel, by decide +kernel⟩
  have hfirst : shopResource "1" ∈ (shopStore "1").built (.unchecked "nginx") false := by
    decide +kernel
  have hsecond : shopResource "2" ∈ (shopStore "2").built (.unchecked "nginx") false := by
    decide +kernel
  have hsame : (shopResource "1").equivalent (shopResource "2") = true := by decide +kernel
  exact ⟨hversions, hfirst, hsecond, by decide +kernel, hsame,
    rendered_eq_of_equivalent hversions hfirst hsecond hsame⟩

end Gatehouse
