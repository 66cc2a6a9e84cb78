import PartitionKeys.Proofs.ClassGraph.Description
import PartitionKeys.Proofs.ClassGraph.Lineage
import PartitionKeys.Proofs.Hierarchy.Coverage

/-!
# Subclassing — coverage of a catalog of classes follows descent

The supertype of a class is the nearest listed class of its lineage, so a climb hops over the
classes that are not listed.  A hop never leaves the superclasses.  It may miss some of them where
a class has listed superclasses that do not descend from each other.

* `ClassGraph.Chained`: the listed superclasses of each listed class descend from each other;
* `ClassCatalog.Rises`: parents are strict superclasses, so that climbs lead to superclasses only;
* `ClassCatalog.descends_of_nearestListed`: a hop leads to a listed superclass;
* `ClassCatalog.descends_nearestListed`: where they form a chain, the others are above it;
* `ClassCatalog.under_of_descends`: so that climbs reach all of them;
* `ClassCatalog.coverage_follows_descent`: what a class covers descends from it, and on chains
  every participant that descends from it is covered.
-/

namespace PartitionKeys

/-- Of two listed classes above a listed class, one descends from the other. -/
def ClassGraph.Chained (g : ClassGraph) (listed : List ClassId) : Prop :=
  ∀ c ∈ listed, ∀ a ∈ listed, ∀ b ∈ listed, a ≠ c → b ≠ c →
    g.Descends c a → g.Descends c b → g.Descends a b ∨ g.Descends b a

namespace ClassCatalog

variable {g : ClassGraph} {l : Lineages} {c : ClassCatalog} {d : Described}
  {classes listed : List ClassId} {triggerMarker instanceMarker : ClassId} {policy : Policy}
  {nameOf : ClassId → String} {listing : KeyRing.Listing} {coverage : Coverage}
  {a k p : ClassId} {t u : TypeId}

/-! ## Rising catalogs -/

/-- Every parent is a superclass other than the class itself. -/
def Rises (c : ClassCatalog) (g : ClassGraph) : Prop :=
  ∀ k p, c.parent k = some p → p ≠ k ∧ g.Descends k p

theorem Rises.falls (hc : c.Rises g) (hg : g.Ordered) : c.Falls := by
  intro k p hp
  rcases hc k p hp with ⟨hne, hd⟩
  exact Nat.lt_of_le_of_ne (hd.le hg) hne

/-- A climb leads to the descriptors of superclasses. -/
theorem Rises.descends_of_under (hc : c.Rises g) (h : c.Gives d listing)
    (hk : d.find? k = some t) (hu : listing.hierarchy.Under listing.types t u) :
    ∃ a, d.find? a = some u ∧ g.Descends k a := by
  rw [Hierarchy.under_iff_reflTransGen] at hu
  induction hu with
  | refl => exact ⟨k, hk, ClassGraph.Descends.refl g k⟩
  | tail _ hs ih =>
      rcases ih with ⟨a, ha, hka⟩
      rcases h.extends_iff.1 hs with ⟨a', p, ha', hp, _, hpu⟩
      cases h.sound.find?_inj ha ha'
      exact ⟨p, hpu, hka.trans (hc a p hp).2⟩

/-! ## The nearest listed class -/

/-- What stands before the first class found was passed over. -/
theorem not_of_pair_sublist {q : ClassId → Bool} {line : List ClassId}
    (hfind : line.find? q = some p) (hnodup : line.Nodup) (hpair : [a, p].Sublist line) :
    q a = false := by
  induction line with
  | nil =>
      cases hfind
  | cons x rest ih =>
      rw [List.nodup_cons] at hnodup
      cases hx : q x with
      | true =>
          -- The first class found heads the line, so nothing stands before it.
          have hxp : x = p := by
            simpa [hx] using hfind
          have hp : p ∈ rest := by
            cases hpair with
            | cons _ hrest => exact hrest.subset (by simp)
            | cons_cons _ hrest => exact List.singleton_sublist.1 hrest
          exact absurd hp (hxp ▸ hnodup.1)
      | false =>
          have hfind' : rest.find? q = some p := by
            simpa [hx] using hfind
          cases hpair with
          | cons _ hrest => exact ih hfind' hnodup.2 hrest
          | cons_cons => exact hx

theorem descends_of_nearestListed (hg : g.Ordered) (hl : g.linearized = .ok l)
    (hp : nearestListed l listed k = some p) : p ∈ listed ∧ p ≠ k ∧ g.Descends k p := by
  have hlisted : listed.contains p = true := List.find?_some hp
  have hstrict := (Lineages.mem_tail_lineage_iff hg hl).1 (List.mem_of_find?_eq_some hp)
  exact ⟨List.contains_iff_mem.1 hlisted, hstrict⟩

theorem exists_nearestListed (hg : g.Ordered) (hl : g.linearized = .ok l) (ha : a ∈ listed)
    (hne : a ≠ k) (hka : g.Descends k a) : ∃ p, nearestListed l listed k = some p := by
  rw [← Option.isSome_iff_exists, nearestListed, List.find?_isSome]
  exact ⟨a, (Lineages.mem_tail_lineage_iff hg hl).2 ⟨hne, hka⟩, List.contains_iff_mem.2 ha⟩

/-- No listed class stands between a class and the nearest one. -/
theorem descends_nearestListed (hg : g.Ordered) (hl : g.linearized = .ok l) (ha : a ∈ listed)
    (hne : a ≠ k) (hka : g.Descends k a) (hp : nearestListed l listed k = some p)
    (hchain : g.Descends a p ∨ g.Descends p a) : g.Descends p a := by
  rcases hchain with hap | hpa
  · by_cases heq : a = p
    · exact heq ▸ ClassGraph.Descends.refl g p
    · -- Were `a` below `p`, it would stand before `p` in the lineage and be found instead.
      have hpair : [a, p].Sublist (l.lineage k).tail :=
        Lineages.pair_sublist_tail_lineage hg hl hne hka hap heq
      have hnodup : (l.lineage k).tail.Nodup := (Lineages.lineage_nodup hg hl).tail
      have hpassed : listed.contains a = false := not_of_pair_sublist hp hnodup hpair
      exact absurd ha (by simpa using hpassed)
  · exact hpa

/-! ## Climbing by nearest listed classes -/

theorem rises_of_nearestListed (hg : g.Ordered) (hl : g.linearized = .ok c.lineages)
    (hparent : c.parent = nearestListed c.lineages c.listed) : c.Rises g := by
  intro k p hp
  rw [hparent] at hp
  exact (descends_of_nearestListed hg hl hp).2

theorem under_of_descends (hg : g.Ordered) (hl : g.linearized = .ok c.lineages)
    (hparent : c.parent = nearestListed c.lineages c.listed) (h : c.Gives d listing)
    (hchain : g.Chained c.listed) (hk : k ∈ c.listed) (ha : a ∈ c.listed)
    (hkt : d.find? k = some t) (hau : d.find? a = some u) (hd : g.Descends k a) :
    listing.hierarchy.Under listing.types t u := by
  -- By induction on the position of `k`: the nearest listed class stands before it.
  induction k using Nat.strongRecOn generalizing t with
  | ind k ih =>
      by_cases hak : a = k
      · subst hak
        cases hkt.symm.trans hau
        exact Hierarchy.Under.refl _
      · rcases exists_nearestListed hg hl ha hak hd with ⟨p, hp⟩
        rcases descends_of_nearestListed hg hl hp with ⟨hplisted, hpk, hkp⟩
        have hpa : g.Descends p a := by
          apply descends_nearestListed hg hl ha hak hd hp
          exact hchain k hk a ha p hplisted hak hpk hd hkp
        rcases h.exists_type hplisted with ⟨v, _, hpv⟩
        have hstep : listing.hierarchy.Extends listing.types t v :=
          h.extends_iff.2 ⟨k, p, hkt, by rw [hparent, hp], hplisted, hpv⟩
        have hlt : p < k := Nat.lt_of_le_of_ne (hkp.le hg) hpk
        exact (hstep.reaches (ih p hlt hplisted hpv hpa)).under

/-! ## Coverage -/

theorem isConcreteParticipant_iff_descends (hg : g.Ordered) (hl : g.linearized = .ok c.lineages)
    (h : c.Gives d listing) (hk : d.find? k = some t) :
    listing.hierarchy.isConcreteParticipant t = true ↔
      c.lineages.isAbstract k = false ∧
        (g.Descends k c.triggerMarker ∨ g.Descends k c.instanceMarker) := by
  rw [← h.hierarchy_eq, h.sound.isConcreteParticipant_iff hk, Lineages.isSubclass_iff hg hl,
    Lineages.isSubclass_iff hg hl]

/-- What a class covers descends from it.  Where the listed superclasses of each class form a
chain, a class covers all the concrete participants that descend from it, however many classes
between them are not listed. -/
theorem coverage_follows_descent (hg : g.Ordered) (hl : g.linearized = .ok l)
    (hlist : (ofClasses l classes triggerMarker instanceMarker policy nameOf).listing.result =
      .ok listing)
    (hcov : (Coverage.ofCatalog listing.hierarchy listing.types).result = .ok coverage) :
    (∀ e ∈ coverage.entries, ∀ t ∈ e.covered, ∃ k a,
      (listing.hierarchy.get t).source = some k ∧
        (listing.hierarchy.get e.representative).source = some a ∧ g.Descends k a) ∧
      (g.Chained classes → ∀ a ∈ classes, l.isAbstract a = false → ∀ k,
        (∃ e ∈ coverage.entries, (listing.hierarchy.get e.representative).source = some a ∧
            ∃ t ∈ e.covered, (listing.hierarchy.get t).source = some k) ↔
          k ∈ classes ∧ l.isAbstract k = false ∧
            (g.Descends k triggerMarker ∨ g.Descends k instanceMarker) ∧ g.Descends k a) := by
  let c := ofClasses l classes triggerMarker instanceMarker policy nameOf
  have hmem : ∀ {k}, k ∈ c.listed ↔ k ∈ classes := List.mem_eraseDups
  have hrises : c.Rises g := rises_of_nearestListed hg hl rfl
  rcases gives_of_listing (hrises.falls hg) hlist with ⟨d, h⟩
  have hcovers : ∀ {r t}, (∃ e ∈ coverage.entries, e.representative = r ∧ t ∈ e.covered) ↔ _ :=
    Coverage.covers_iff hcov
  refine ⟨?_, ?_⟩
  · intro e he t ht
    rcases hcovers.1 ⟨e, he, rfl, ht⟩ with ⟨hr, _, ht, _, hu⟩
    rcases h.mem_types_iff.1 ht with ⟨k, _, hk⟩
    rcases hrises.descends_of_under h hk hu with ⟨a, ha, hd⟩
    exact ⟨k, a, (h.source_eq_some_iff ht).2 hk, (h.source_eq_some_iff hr).2 ha, hd⟩
  · intro hchain a ha habs k
    have hchain' : g.Chained c.listed := by
      intro k hk a ha b hb
      exact hchain k (hmem.1 hk) a (hmem.1 ha) b (hmem.1 hb)
    constructor
    · rintro ⟨e, he, hra, t, ht, htk⟩
      rcases hcovers.1 ⟨e, he, rfl, ht⟩ with ⟨hr, _, ht, hp, hu⟩
      have hkt : d.find? k = some t := (h.source_eq_some_iff ht).1 htk
      have har : d.find? a = some e.representative := (h.source_eq_some_iff hr).1 hra
      rcases hrises.descends_of_under h hkt hu with ⟨a', ha', hd⟩
      cases h.sound.find?_inj har ha'
      rcases (isConcreteParticipant_iff_descends hg hl h hkt).1 hp with ⟨hconcrete, hmarked⟩
      exact ⟨hmem.1 ((h.mem_types_of_find? hkt).1 ht), hconcrete, hmarked, hd⟩
    · rintro ⟨hk, hconcrete, hmarked, hd⟩
      rcases h.exists_type (hmem.2 ha) with ⟨r, hr, har⟩
      rcases h.exists_type (hmem.2 hk) with ⟨t, ht, hkt⟩
      have hp : listing.hierarchy.isConcreteParticipant t = true :=
        (isConcreteParticipant_iff_descends hg hl h hkt).2 ⟨hconcrete, hmarked⟩
      have habs' : listing.hierarchy.isAbstract r = false := by
        rw [← h.hierarchy_eq, h.sound.isAbstract_eq har]
        exact habs
      have hu : listing.hierarchy.Under listing.types t r :=
        under_of_descends hg hl rfl h hchain' (hmem.2 hk) (hmem.2 ha) hkt har hd
      rcases hcovers.2 ⟨hr, habs', ht, hp, hu⟩ with ⟨e, he, rfl, hte⟩
      exact ⟨e, he, (h.source_eq_some_iff hr).2 har, t, hte, (h.source_eq_some_iff ht).2 hkt⟩

/-- A digest is mail through a letter, which has the other marker as well. -/
def digestRecords : List Value :=
  [ .record [("id", .text "Mail"), ("bases", .list [.text "JobTrigger"])],
    .record [("id", .text "Letter"), ("bases", .list [.text "JobInstance", .text "Mail"]),
      ("abstract_methods", .list [.text "sign"])],
    .record [("id", .text "Digest"), ("bases", .list [.text "Letter"]),
      ("methods", .list [.text "sign"])] ]

def digests : ClassGraph where
  classes :=
    #[ { name := "JobTrigger" }, { name := "JobInstance" },
       { name := "Mail", bases := [0], flag := .bool false, registry := some "main" },
       { name := "Letter", bases := [1, 2], abstractMethods := ["sign"], flag := .bool false,
         registry := some "main" },
       { name := "Digest", bases := [3], methods := ["sign"], flag := .bool false,
         registry := some "main" } ]

theorem digests_declared : (Declared.ofValues digestRecords).graph = digests := by
  cbv

theorem digests_ordered : digests.Ordered := by
  rw [← digests_declared]
  exact Declared.ofValues_ordered digestRecords

def digestLineages : Lineages where
  graph := digests
  rows := #[[0], [1], [2, 0], [3, 1, 2, 0], [4, 3, 1, 2, 0]]

theorem digests_linearized : digests.linearized = .ok digestLineages := by
  have hall : digests.all = [0, 1, 2, 3, 4] := by
    cbv
  rw [ClassGraph.linearized, hall]
  refine Lineages.extendAll_cons_of_merge [] (by cbv) (by cbv) (by cbv) ?_
  refine Lineages.extendAll_cons_of_merge [] (by cbv) (by cbv) (by cbv) ?_
  refine Lineages.extendAll_cons_of_merge [0] (by cbv) (by cbv) (by cbv) ?_
  refine Lineages.extendAll_cons_of_merge [1, 2, 0] (by cbv) (by cbv) (by cbv) ?_
  refine Lineages.extendAll_cons_of_merge [3, 1, 2, 0] (by cbv) (by cbv) (by cbv) ?_
  rfl

theorem digests_chained : digests.Chained [4, 2, 0, 4] := by
  simp only [ClassGraph.Chained, ← Lineages.isSubclass_iff digests_ordered digests_linearized]
  decide

def digestCatalog : ClassCatalog :=
  ofClasses digestLineages [4, 2, 0, 4] 0 1 .preferTrigger digests.name

/-- Mail is described before the digest that extends it, the marker before both. -/
def digestListing : KeyRing.Listing where
  hierarchy.descriptors :=
    #[ { name := "JobTrigger", category := .jobTrigger, source := some 0 },
       { name := "Mail", supertype := some 0, category := .jobTrigger, source := some 2 },
       { name := "Digest", supertype := some 1, category := .jobTrigger, source := some 4 } ]
  types := [2, 1, 0]

def digestCoverage : Coverage where
  entries := [⟨2, [2]⟩, ⟨1, [1, 2]⟩, ⟨0, [0, 2, 1]⟩]

/-- Mail covers itself and the digest, though the letter between them is not listed. -/
theorem coverage_follows_descent_digests :
    digests.Ordered ∧ digests.linearized = .ok digestLineages ∧
      digestCatalog.listing.result = .ok digestListing ∧
      (Coverage.ofCatalog digestListing.hierarchy digestListing.types).result =
        .ok digestCoverage ∧
      digests.Chained [4, 2, 0, 4] ∧ digestLineages.isAbstract 2 = false ∧
      (∀ t ∈ [1, 2], ∃ k a, (digestListing.hierarchy.get t).source = some k ∧
        (digestListing.hierarchy.get 1).source = some a ∧ digests.Descends k a) ∧
      ∀ k, (∃ e ∈ digestCoverage.entries,
          (digestListing.hierarchy.get e.representative).source = some 2 ∧
            ∃ t ∈ e.covered, (digestListing.hierarchy.get t).source = some k) ↔
        k ∈ [4, 2, 0, 4] ∧ digestLineages.isAbstract k = false ∧
          (digests.Descends k 0 ∨ digests.Descends k 1) ∧ digests.Descends k 2 := by
  have hlist : digestCatalog.listing.result = .ok digestListing := by
    cbv
  have hcov : (Coverage.ofCatalog digestListing.hierarchy digestListing.types).result =
      .ok digestCoverage := by
    cbv
  have hconcrete : digestLineages.isAbstract 2 = false := by
    cbv
  have hfollows := coverage_follows_descent digests_ordered digests_linearized hlist hcov
  have hmail : (⟨1, [1, 2]⟩ : Coverage.Entry) ∈ digestCoverage.entries := by
    simp [digestCoverage]
  exact ⟨digests_ordered, digests_linearized, hlist, hcov, digests_chained, hconcrete,
    hfollows.1 _ hmail, hfollows.2 digests_chained 2 (by simp) hconcrete⟩

end ClassCatalog
end PartitionKeys
