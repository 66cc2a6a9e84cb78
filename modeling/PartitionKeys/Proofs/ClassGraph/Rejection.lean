import Mathlib.Data.List.Chain
import PartitionKeys.Proofs.ClassGraph.Subclassing
import PartitionKeys.Proofs.Hierarchy.Fault

/-!
# Rejection — catalogs that refuse ambiguous classes have a coverage

A class has every marker of its superclasses.  Where classes with both markers are refused, no
class below a trigger can be an instance, so that no walk upward meets an offender.  And no walk
comes back: each step leads to a strict superclass, which stands before its subclasses.

* `ClassCatalog.Rises.ascent_nodup`: no walk comes back;
* `ClassCatalog.category_of_rejecting`: without ambiguity a category is a marker;
* `ClassCatalog.category_eq_of_descends`: it is inherited then;
* `ClassCatalog.not_faulty_of_rejecting`: no listed class is faulty;
* `ClassCatalog.exists_coverage_of_rejecting`: catalogs of classes and of registries.
-/

namespace PartitionKeys
namespace ClassCatalog

variable {g : ClassGraph} {l : Lineages} {c : ClassCatalog} {d : Described}
  {path : List TypeId} {listing : KeyRing.Listing} {a k p : ClassId} {t u : TypeId}

/-! ## Rising catalogs -/

theorem rises_of_mem_bases (hg : g.Ordered)
    (hbase : ∀ k p, c.parent k = some p → p ∈ (g.get k).bases) : c.Rises g := by
  intro k p hp
  have hb : p ∈ (g.get k).bases := hbase k p hp
  exact ⟨Nat.ne_of_lt (hg k p hb), Relation.ReflTransGen.single hb⟩

/-- Classes fall along a walk upward, so no descriptor stands on it twice. -/
theorem Rises.ascent_nodup (hc : c.Rises g) (hg : g.Ordered) (h : c.Gives d listing)
    (hpath : listing.hierarchy.Ascent listing.types t path) : (t :: path).Nodup := by
  let place (t : TypeId) : ClassId := ((listing.hierarchy.get t).source).getD 0
  have hplace : ∀ {k t}, d.find? k = some t → place t = k := by
    intro k t hk
    simp only [place, ← h.hierarchy_eq, h.sound.source_eq hk, Option.getD_some]
  have hfalls : (t :: path).IsChain fun t u => place u < place t := by
    refine List.IsChain.imp ?_ hpath
    intro t u hs
    rcases h.extends_iff.1 hs with ⟨k, p, hk, hp, _, hpu⟩
    rw [hplace hk, hplace hpu]
    exact hc.falls hg k p hp
  have : IsTrans TypeId fun t u => place u < place t :=
    ⟨fun _ _ _ htu huv => Nat.lt_trans huv htu⟩
  refine (List.isChain_iff_pairwise.1 hfalls).imp ?_
  rintro t _ hlt rfl
  exact Nat.lt_irrefl _ hlt

/-! ## Categories without ambiguity -/

theorem category_of_rejecting (hg : g.Ordered) (hl : g.linearized = .ok c.lineages)
    (hpolicy : c.policy = .reject) (hd : d.Sound c) (hk : d.find? k = some t) :
    (d.hierarchy.category t = .jobTrigger ↔ g.Descends k c.triggerMarker) ∧
      (d.hierarchy.category t = .jobInstance ↔ g.Descends k c.instanceMarker) := by
  rw [← Lineages.isSubclass_iff hg hl, ← Lineages.isSubclass_iff hg hl]
  exact classify_rejecting hpolicy (hd.classify_eq hk)

/-- What a class descends from gives it its category. -/
theorem category_eq_of_descends (hg : g.Ordered) (hl : g.linearized = .ok c.lineages)
    (hpolicy : c.policy = .reject) (hd : d.Sound c) (hk : d.find? k = some t)
    (ha : d.find? a = some u) (hka : g.Descends k a) (hpart : d.hierarchy.category u ≠ .neither) :
    d.hierarchy.category u = d.hierarchy.category t := by
  have hown := category_of_rejecting hg hl hpolicy hd hk
  have habove := category_of_rejecting hg hl hpolicy hd ha
  cases hcat : d.hierarchy.category u with
  | jobTrigger => exact (hown.1.2 (hka.trans (habove.1.1 hcat))).symm
  | jobInstance => exact (hown.2.2 (hka.trans (habove.2.1 hcat))).symm
  | neither => exact absurd hcat hpart

/-! ## Coverage -/

theorem not_faulty_of_rejecting (hg : g.Ordered) (hl : g.linearized = .ok c.lineages)
    (hpolicy : c.policy = .reject) (hc : c.Rises g) (h : c.Gives d listing)
    (ht : t ∈ listing.types) : ¬listing.hierarchy.Faulty listing.types t := by
  rintro (⟨u, hr, hoff⟩ | ⟨path, hpath, hrepeat⟩)
  · rcases h.mem_types_iff.1 ht with ⟨k, _, hk⟩
    rcases hc.descends_of_under h hk hr.under with ⟨a, ha, hka⟩
    rw [← h.hierarchy_eq] at hoff
    exact hoff.2.2 (category_eq_of_descends hg hl hpolicy h.sound hk ha hka hoff.2.1)
  · exact hrepeat (hc.ascent_nodup hg h hpath)

theorem exists_coverage_of_rises (hg : g.Ordered) (hl : g.linearized = .ok c.lineages)
    (hpolicy : c.policy = .reject) (hc : c.Rises g) (hlist : c.listing.result = .ok listing)
    (hnames : listing.hierarchy.DistinctNames listing.types) :
    ∃ coverage, (Coverage.ofCatalog listing.hierarchy listing.types).result = .ok coverage := by
  rcases gives_of_listing (hc.falls hg) hlist with ⟨d, h⟩
  refine Coverage.exists_ofCatalog_iff.2 ⟨hnames, ?_⟩
  intro t ht _
  exact not_faulty_of_rejecting hg hl hpolicy hc h ht

/-- Where ambiguous classes are refused, a catalog that gives descriptors with names of their own
has a coverage: for any classes and any two markers, and for the classes of a registry, whichever
of its bases is the parent of a class, listed or mapped elsewhere. -/
theorem exists_coverage_of_rejecting (hg : g.Ordered) (hl : g.linearized = .ok l) :
    (∀ classes triggerMarker instanceMarker nameOf listing,
      (ofClasses l classes triggerMarker instanceMarker .reject nameOf).listing.result =
          .ok listing →
        listing.hierarchy.DistinctNames listing.types →
        ∃ coverage,
          (Coverage.ofCatalog listing.hierarchy listing.types).result = .ok coverage) ∧
    ∀ registry inherits listing, (∀ k p, inherits k = some p → p ∈ (g.get k).bases) →
      ({ ofRegistry l registry .reject with parent := inherits } : ClassCatalog).listing.result =
          .ok listing →
        listing.hierarchy.DistinctNames listing.types →
        ∃ coverage,
          (Coverage.ofCatalog listing.hierarchy listing.types).result = .ok coverage := by
  refine ⟨?_, ?_⟩
  · intro classes triggerMarker instanceMarker nameOf listing hlist hnames
    have hc : (ofClasses l classes triggerMarker instanceMarker .reject nameOf).Rises g :=
      rises_of_nearestListed hg hl rfl
    exact exists_coverage_of_rises hg hl rfl hc hlist hnames
  · intro registry inherits listing hbases hlist hnames
    exact exists_coverage_of_rises hg hl rfl (rises_of_mem_bases hg hbases) hlist hnames

/-- Mails and digests extend a task that another registry maps. -/
def mailings : ClassGraph where
  classes :=
    #[ { name := "JobTrigger" }, { name := "JobInstance" },
       { name := "Task", bases := [0], registry := some "tasks" },
       { name := "Mail", bases := [2], registry := some "main" },
       { name := "Digest", bases := [3], registry := some "main" },
       { name := "Run", bases := [1], registry := some "main" } ]

theorem mailings_ordered : mailings.Ordered := by
  decide

def mailingLineages : Lineages where
  graph := mailings
  rows := #[[0], [1], [2, 0], [3, 2, 0], [4, 3, 2, 0], [5, 1]]

theorem mailings_linearized : mailings.linearized = .ok mailingLineages := by
  have hall : mailings.all = [0, 1, 2, 3, 4, 5] := by
    cbv
  rw [ClassGraph.linearized, hall]
  refine Lineages.extendAll_cons_of_merge [] (by cbv) (by cbv) (by cbv) ?_
  refine Lineages.extendAll_cons_of_merge [] (by cbv) (by cbv) (by cbv) ?_
  refine Lineages.extendAll_cons_of_merge [0] (by cbv) (by cbv) (by cbv) ?_
  refine Lineages.extendAll_cons_of_merge [2, 0] (by cbv) (by cbv) (by cbv) ?_
  refine Lineages.extendAll_cons_of_merge [3, 2, 0] (by cbv) (by cbv) (by cbv) ?_
  refine Lineages.extendAll_cons_of_merge [1] (by cbv) (by cbv) (by cbv) ?_
  rfl

def mailingCatalog : ClassCatalog :=
  ofClasses mailingLineages [4, 2, 5, 4] 0 1 .reject mailings.name

def mailingRegistry : ClassCatalog :=
  ofRegistry mailingLineages "main" .reject

/-- The digest extends the task, which is described first. -/
def mailingListing : KeyRing.Listing where
  hierarchy.descriptors :=
    #[ { name := "Task", category := .jobTrigger, source := some 2 },
       { name := "Digest", supertype := some 0, category := .jobTrigger, source := some 4 },
       { name := "Run", category := .jobInstance, source := some 5 } ]
  types := [1, 0, 2]

/-- The task is described for the sake of the mail, but not listed. -/
def mailingRegistryListing : KeyRing.Listing where
  hierarchy.descriptors :=
    #[ { name := "Task", category := .jobTrigger, source := some 2 },
       { name := "Mail", supertype := some 0, category := .jobTrigger, source := some 3 },
       { name := "Digest", supertype := some 1, category := .jobTrigger, source := some 4 },
       { name := "Run", category := .jobInstance, source := some 5 } ]
  types := [2, 1, 3]

/-- The registry lists digests, mails and runs; its walks end below the task. -/
theorem exists_coverage_of_rejecting_mailings :
    mailings.Ordered ∧ mailings.linearized = .ok mailingLineages ∧
      mailingCatalog.listing.result = .ok mailingListing ∧
      mailingListing.hierarchy.DistinctNames mailingListing.types ∧
      (∃ coverage, (Coverage.ofCatalog mailingListing.hierarchy mailingListing.types).result =
        .ok coverage) ∧
      (∀ k p, mappedBase mailings k = some p → p ∈ (mailings.get k).bases) ∧
      mailingRegistry.listing.result = .ok mailingRegistryListing ∧
      mailingRegistryListing.hierarchy.DistinctNames mailingRegistryListing.types ∧
      ∃ coverage, (Coverage.ofCatalog mailingRegistryListing.hierarchy
        mailingRegistryListing.types).result = .ok coverage := by
  have hlist : mailingCatalog.listing.result = .ok mailingListing := by
    cbv
  have hnames : mailingListing.hierarchy.DistinctNames mailingListing.types := by
    unfold Hierarchy.DistinctNames
    decide
  have hbases : ∀ k p, mappedBase mailings k = some p → p ∈ (mailings.get k).bases := by
    intro k p hp
    exact List.mem_of_find?_eq_some hp
  have hlist' : mailingRegistry.listing.result = .ok mailingRegistryListing := by
    cbv
  have hnames' : mailingRegistryListing.hierarchy.DistinctNames mailingRegistryListing.types := by
    unfold Hierarchy.DistinctNames
    decide
  have hcovered := exists_coverage_of_rejecting mailings_ordered mailings_linearized
  exact ⟨mailings_ordered, mailings_linearized, hlist, hnames,
    hcovered.1 _ _ _ _ _ hlist hnames, hbases, hlist', hnames',
    hcovered.2 "main" _ _ hbases hlist' hnames'⟩

end ClassCatalog
end PartitionKeys
