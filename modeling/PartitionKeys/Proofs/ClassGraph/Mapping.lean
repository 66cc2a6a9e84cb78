import Mathlib.Data.List.Perm.Basic
import PartitionKeys.Proofs.ClassGraph.Subclassing
import PartitionKeys.Proofs.NameOrder

/-!
# Mapping — the two catalogs of classes agree on the mapped classes

A catalog of a registry takes the mapped base of a class as its parent; a catalog of the same
classes looks for the nearest one in the lineage.  Where no class has two mapped bases and none
that is not mapped stands above a mapped one, the mapped base is the nearest mapped class: all
others that a class descends from are further up.

* `ClassGraph.SingleMapping`: graphs whose mapped classes form trees in one registry;
* `ClassCatalog.mappedBase_eq_nearestListed`: the two ways to a parent agree;
* `ClassCatalog.listed_ofRegistry`: a registry lists the mapped classes by name;
* `ClassCatalog.listing_result_withSource`: catalogs of both kinds describe alike;
* `ClassCatalog.registry_agrees_with_classes`: both catalogs refuse alike or list alike.
-/

namespace PartitionKeys

/-! ## Mapped classes -/

namespace ClassGraph

variable {g : ClassGraph} {registry : String} {a b c : ClassId}

def Mapped (g : ClassGraph) (c : ClassId) : Prop :=
  (g.get c).registry.isSome = true

instance (g : ClassGraph) : DecidablePred g.Mapped :=
  fun _ => inferInstanceAs (Decidable (_ = true))

/-- All mapped classes belong to one registry and have names of their own; a class has one mapped
base at most, and what extends a mapped class is mapped. -/
structure SingleMapping (g : ClassGraph) (registry : String) : Prop where
  registry_eq : ∀ c, g.Mapped c → (g.get c).registry = some registry
  name_injective : ∀ a, g.Mapped a → ∀ b, g.Mapped b → g.name a = g.name b → a = b
  base_unique : ∀ c, g.Mapped c → ∀ a ∈ (g.get c).bases, ∀ b ∈ (g.get c).bases,
    g.Mapped a → g.Mapped b → a = b
  mapped_of_base : ∀ c, ∀ b ∈ (g.get c).bases, g.Mapped b → g.Mapped c

theorem Mapped.lt_size (hc : g.Mapped c) : c < g.size := by
  by_contra hle
  have hnone : g.classes[c]? = none := Array.getElem?_eq_none (Nat.le_of_not_lt hle)
  simp [Mapped, get, Array.getD_eq_getD_getElem?, hnone, default,
    instInhabitedRecordClass.default] at hc

theorem SingleMapping.mapped_of_descends (hm : g.SingleMapping registry) (hd : g.Descends c a)
    (ha : g.Mapped a) : g.Mapped c := by
  induction hd using Relation.ReflTransGen.head_induction_on with
  | refl => exact ha
  | head hb _ ih => exact hm.mapped_of_base _ _ hb ih

end ClassGraph

/-- Two types are told of alike, and extend types of one class. -/
structure Hierarchy.Agrees (h : Hierarchy) (t : TypeId) (h' : Hierarchy) (u : TypeId) : Prop where
  name_eq : h.name t = h'.name u
  isAbstract_eq : h.isAbstract t = h'.isAbstract u
  category_eq : h.category t = h'.category u
  source_eq : (h.get t).source = (h'.get u).source
  supertype_source_eq : (h.supertype t).map (fun p => (h.get p).source) =
    (h'.supertype u).map fun p => (h'.get p).source

theorem Hierarchy.Agrees.refl (h : Hierarchy) (t : TypeId) : h.Agrees t h t :=
  ⟨rfl, rfl, rfl, rfl, rfl⟩

namespace ClassCatalog

variable {g : ClassGraph} {l : Lineages} {c : ClassCatalog} {d : Described}
  {listed classes : List ClassId} {registry : String} {policy : Policy} {f : Failure}
  {listing : KeyRing.Listing} {a b k p : ClassId} {t u : TypeId}

/-! ## The mapped base and the nearest mapped class -/

theorem mappedBase_eq_some (hb : mappedBase g k = some b) :
    b ∈ (g.get k).bases ∧ g.Mapped b := by
  have hmapped : (g.get b).registry.isSome = true := by
    simpa using List.find?_some hb
  exact ⟨List.mem_of_find?_eq_some hb, hmapped⟩

theorem mappedBase_eq_none_iff :
    mappedBase g k = none ↔ ∀ b ∈ (g.get k).bases, ¬g.Mapped b :=
  List.find?_eq_none

/-- A mapped class above another one is its mapped base, or above that. -/
theorem exists_mappedBase_of_descends (hm : g.SingleMapping registry) (hne : a ≠ k)
    (hd : g.Descends k a) (ha : g.Mapped a) :
    ∃ b, mappedBase g k = some b ∧ g.Descends b a := by
  rcases (ClassGraph.descends_iff.1 hd).resolve_left hne with ⟨b, hb, hba⟩
  have hmapped : g.Mapped b := hm.mapped_of_descends hba ha
  cases hbase : mappedBase g k with
  | none => exact absurd hmapped (mappedBase_eq_none_iff.1 hbase b hb)
  | some b' =>
      rcases mappedBase_eq_some hbase with ⟨hb', hmapped'⟩
      have hk : g.Mapped k := hm.mapped_of_base k b hb hmapped
      exact ⟨b', rfl, hm.base_unique k hk b hb b' hb' hmapped hmapped' ▸ hba⟩

theorem mappedBase_eq_nearestListed (hg : g.Ordered) (hl : g.linearized = .ok l)
    (hm : g.SingleMapping registry) (hlisted : ∀ a, a ∈ listed ↔ g.Mapped a) :
    mappedBase g k = nearestListed l listed k := by
  cases hp : nearestListed l listed k with
  | none =>
      rw [mappedBase_eq_none_iff]
      intro b hb hmapped
      rcases exists_nearestListed hg hl ((hlisted b).2 hmapped) (Nat.ne_of_lt (hg k b hb))
        (Relation.ReflTransGen.single hb) with ⟨p, hp'⟩
      simp [hp] at hp'
  | some p =>
      rcases descends_of_nearestListed hg hl hp with ⟨hplisted, hpk, hkp⟩
      rcases exists_mappedBase_of_descends hm hpk hkp ((hlisted p).1 hplisted) with ⟨b, hb, hbp⟩
      rcases mappedBase_eq_some hb with ⟨hbase, hmapped⟩
      -- The base is listed too, so the lineage would have shown it first.
      have hpb : g.Descends p b :=
        descends_nearestListed hg hl ((hlisted b).2 hmapped) (Nat.ne_of_lt (hg k b hbase))
          (Relation.ReflTransGen.single hbase) hp (Or.inl hbp)
      rw [hb, Nat.le_antisymm (hpb.le hg) (hbp.le hg)]

/-! ## Listed classes -/

theorem listed_ofRegistry (hgraph : l.graph = g) (hm : g.SingleMapping registry)
    (hclasses : ∀ k, k ∈ classes ↔ g.Mapped k)
    (hsorted : classes.Pairwise fun a b => g.name a ≤ g.name b) :
    (ofRegistry l registry policy).listed = classes.eraseDups := by
  subst hgraph
  let mapped := l.graph.all.filter fun k => (l.graph.get k).registry == some registry
  have hmem : ∀ k, k ∈ mapped ↔ l.graph.Mapped k := by
    intro k
    simp only [mapped, List.mem_filter, ClassGraph.all, List.mem_range, beq_iff_eq]
    constructor
    · rintro ⟨_, hr⟩
      simp [ClassGraph.Mapped, hr]
    · intro hk
      exact ⟨hk.lt_size, hm.registry_eq k hk⟩
  have hnodup : mapped.Nodup := List.nodup_range.filter _
  have hperm : mapped.Perm classes.eraseDups := by
    rw [List.perm_ext_iff_of_nodup hnodup (nodup_eraseDups classes)]
    intro k
    rw [hmem, List.mem_eraseDups, hclasses]
  show mapped.mergeSort _ = _
  -- Both lists are in order of names, and names tell mapped classes apart.
  refine List.Perm.eq_of_pairwise ?_ (pairwise_sortedByName l.graph.name mapped)
    (hsorted.sublist (eraseDups_sublist classes)) ((List.mergeSort_perm _ _).trans hperm)
  intro a b ha hb hab hba
  rw [List.mem_mergeSort, hmem] at ha
  rw [List.mem_eraseDups, hclasses] at hb
  exact hm.name_injective a ha b hb (le_antisymm hab hba)

/-! ## Results of catalogs -/

theorem describe_withSource (source : CatalogSource) :
    ({ c with source } : ClassCatalog).describe k d = c.describe k d := by
  induction k using Nat.strongRecOn generalizing d with
  | ind k ih =>
      rw [describe, describe]
      cases d.find? k with
      | some t => rfl
      | none =>
          cases c.parent k with
          | none => rfl
          | some p =>
              by_cases hlt : p < k
              · simp only [if_pos hlt, ih p hlt]
                rfl
              · simp only [if_neg hlt]
                rfl

theorem describeAll_withSource (source : CatalogSource) (ks : List ClassId) :
    ({ c with source } : ClassCatalog).describeAll ks d = c.describeAll ks d := by
  induction ks generalizing d with
  | nil => rfl
  | cons k ks ih => simp only [describeAll, describe_withSource, ih]

/-- The kind of a catalog shows in its event only. -/
theorem listing_result_withSource (source : CatalogSource) :
    ({ c with source } : ClassCatalog).listing.result = c.listing.result := by
  simp only [listing, describeAll_withSource]
  cases c.describeAll c.listed {} with
  | error f => rfl
  | ok r => rfl

/-! ## Agreement -/

theorem Gives.mem_of_supertype (h : c.Gives d listing)
    (hparent : c.parent = nearestListed c.lineages c.listed) (ht : t ∈ listing.types)
    (hu : listing.hierarchy.supertype t = some u) : u ∈ listing.types := by
  rcases h.mem_types_iff.1 ht with ⟨k, _, hk⟩
  rw [← h.hierarchy_eq] at hu
  rcases (h.sound.supertype_eq_some hk).1 hu with ⟨p, hp, hpu⟩
  rw [hparent] at hp
  exact (h.mem_types_of_find? hpu).2 (List.contains_iff_mem.1 (List.find?_some hp))

/-- The catalog of the registry is that of its classes, but for its kind. -/
theorem ofRegistry_eq (hg : g.Ordered) (hl : g.linearized = .ok l)
    (hm : g.SingleMapping registry) (hclasses : ∀ k, k ∈ classes ↔ g.Mapped k)
    (hsorted : classes.Pairwise fun a b => g.name a ≤ g.name b) :
    ofRegistry l registry policy =
      { ofClasses l classes ClassGraph.triggerMarker ClassGraph.instanceMarker policy g.name with
        source := .registry } := by
  have hgraph : l.graph = g := (Lineages.merged_of_linearized hg hl).1
  have hlisted : (ofRegistry l registry policy).listed = classes.eraseDups :=
    listed_ofRegistry hgraph hm hclasses hsorted
  have hparent : mappedBase l.graph = nearestListed l classes.eraseDups := by
    funext k
    rw [hgraph]
    apply mappedBase_eq_nearestListed hg hl hm
    intro a
    rw [List.mem_eraseDups, hclasses]
  rw [ClassCatalog.mk.injEq]
  exact ⟨rfl, rfl, hlisted, hparent, congrArg ClassGraph.name hgraph, rfl, rfl, rfl⟩

/-- On the mapped classes, listed by name, the catalog of their registry and the catalog of classes
refuse the same class in the same words, or give as many descriptors, which tell the same place by
place; what a descriptor extends is listed in both. -/
theorem registry_agrees_with_classes (hg : g.Ordered) (hl : g.linearized = .ok l)
    (hm : g.SingleMapping registry) (hclasses : ∀ k, k ∈ classes ↔ g.Mapped k)
    (hsorted : classes.Pairwise fun a b => g.name a ≤ g.name b) :
    (∃ f r, (ofRegistry l registry policy).listing.result = .error f ∧
      (ofClasses l classes ClassGraph.triggerMarker ClassGraph.instanceMarker policy
        g.name).listing.result = .error f ∧
      f.report? = some r ∧ r.kind = .classification) ∨
    ∃ mapped any, (ofRegistry l registry policy).listing.result = .ok mapped ∧
      (ofClasses l classes ClassGraph.triggerMarker ClassGraph.instanceMarker policy
        g.name).listing.result = .ok any ∧
      List.Forall₂ (fun t u => mapped.hierarchy.Agrees t any.hierarchy u) mapped.types any.types ∧
      (∀ t ∈ mapped.types, ∀ p, mapped.hierarchy.supertype t = some p → p ∈ mapped.types) ∧
      ∀ t ∈ any.types, ∀ p, any.hierarchy.supertype t = some p → p ∈ any.types := by
  rw [ofRegistry_eq hg hl hm hclasses hsorted, listing_result_withSource]
  let c := ofClasses l classes ClassGraph.triggerMarker ClassGraph.instanceMarker policy g.name
  have hfalls : c.Falls := (rises_of_nearestListed hg hl rfl).falls hg
  cases hresult : c.listing.result with
  | error f =>
      rcases ambiguous_of_listing hresult with ⟨p, rfl⟩
      exact Or.inl ⟨_, _, rfl, rfl, rfl, rfl⟩
  | ok listing =>
      rcases gives_of_listing hfalls hresult with ⟨d, h⟩
      have hmember : ∀ t ∈ listing.types, ∀ p, listing.hierarchy.supertype t = some p →
          p ∈ listing.types :=
        fun t ht p hp => h.mem_of_supertype rfl ht hp
      refine Or.inr ⟨_, _, rfl, rfl, ?_, hmember, hmember⟩
      exact List.forall₂_same.2 fun t _ => Hierarchy.Agrees.refl listing.hierarchy t

/-- Digests and mails are jobs; a mixin that is not mapped stands beside and above them. -/
def jobs : ClassGraph where
  classes :=
    #[ { name := "JobTrigger" }, { name := "JobInstance" }, { name := "Audited" },
       { name := "Job", bases := [2], flag := .bool true, registry := some "main" },
       { name := "Mail", bases := [0, 3], registry := some "main" },
       { name := "Digest", bases := [4, 2], registry := some "main" } ]

theorem jobs_ordered : jobs.Ordered := by
  decide

def jobLineages : Lineages where
  graph := jobs
  rows := #[[0], [1], [2], [3, 2], [4, 0, 3, 2], [5, 4, 0, 3, 2]]

theorem jobs_linearized : jobs.linearized = .ok jobLineages := by
  have hall : jobs.all = [0, 1, 2, 3, 4, 5] := by
    cbv
  rw [ClassGraph.linearized, hall]
  refine Lineages.extendAll_cons_of_merge [] (by cbv) (by cbv) (by cbv) ?_
  refine Lineages.extendAll_cons_of_merge [] (by cbv) (by cbv) (by cbv) ?_
  refine Lineages.extendAll_cons_of_merge [] (by cbv) (by cbv) (by cbv) ?_
  refine Lineages.extendAll_cons_of_merge [2] (by cbv) (by cbv) (by cbv) ?_
  refine Lineages.extendAll_cons_of_merge [0, 3, 2] (by cbv) (by cbv) (by cbv) ?_
  refine Lineages.extendAll_cons_of_merge [4, 0, 3, 2] (by cbv) (by cbv) (by cbv) ?_
  rfl

theorem mem_jobs_iff : k ∈ [5, 3, 4] ↔ jobs.Mapped k := by
  have hlisted : ∀ k ∈ [5, 3, 4], jobs.Mapped k := by
    decide
  have hmapped : ∀ k < jobs.size, jobs.Mapped k → k ∈ [5, 3, 4] := by
    decide
  exact ⟨hlisted k, fun hk => hmapped k hk.lt_size hk⟩

theorem jobs_singleMapping : jobs.SingleMapping "main" := by
  constructor
  · simp only [← mem_jobs_iff]
    decide
  · simp only [← mem_jobs_iff]
    decide
  · simp only [← mem_jobs_iff]
    decide
  · intro c b hb
    have hall : ∀ c < jobs.size, ∀ b ∈ (jobs.get c).bases, jobs.Mapped b → jobs.Mapped c := by
      decide
    exact hall c (ClassGraph.lt_size_of_mem_bases hb) b hb

/-- A digest comes first by name, but what it extends is described before it. -/
def jobListing : KeyRing.Listing where
  hierarchy.descriptors :=
    #[ { name := "Job", isAbstract := true, source := some 3 },
       { name := "Mail", supertype := some 0, category := .jobTrigger, source := some 4 },
       { name := "Digest", supertype := some 1, category := .jobTrigger, source := some 5 } ]
  types := [2, 0, 1]

/-- Digests, jobs and mails are described alike, though a marker stands between a mail and a job. -/
theorem registry_agrees_with_classes_jobs :
    jobs.Ordered ∧ jobs.linearized = .ok jobLineages ∧ jobs.SingleMapping "main" ∧
      (∀ k, k ∈ [5, 3, 4] ↔ jobs.Mapped k) ∧
      ([5, 3, 4].Pairwise fun a b => jobs.name a ≤ jobs.name b) ∧
      ∃ mapped any, (ofRegistry jobLineages "main" .reject).listing.result = .ok mapped ∧
        (ofClasses jobLineages [5, 3, 4] ClassGraph.triggerMarker ClassGraph.instanceMarker
          .reject jobs.name).listing.result = .ok any ∧
        List.Forall₂ (fun t u => mapped.hierarchy.Agrees t any.hierarchy u) mapped.types
          any.types := by
  have hsorted : [5, 3, 4].Pairwise fun a b => jobs.name a ≤ jobs.name b := by
    decide
  have hlisted : (ofClasses jobLineages [5, 3, 4] ClassGraph.triggerMarker
      ClassGraph.instanceMarker .reject jobs.name).listing.result = .ok jobListing := by
    cbv
  refine ⟨jobs_ordered, jobs_linearized, jobs_singleMapping, fun _ => mem_jobs_iff, hsorted, ?_⟩
  rcases registry_agrees_with_classes jobs_ordered jobs_linearized jobs_singleMapping
    (fun _ => mem_jobs_iff) hsorted with ⟨f, _, _, hrefused, _⟩ | ⟨mapped, any, hm, ha, hall, _⟩
  · rw [hlisted] at hrefused
    cases hrefused
  · exact ⟨mapped, any, hm, ha, hall⟩

end ClassCatalog
end PartitionKeys
