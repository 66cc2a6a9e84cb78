import PartitionKeys.Proofs.ClassGraph.Mapping
import PartitionKeys.Proofs.ClassGraph.Rejection
import PartitionKeys.Proofs.Hierarchy.Circle

/-!
# Listing — the descriptors that a catalog of classes gives

A class is described after its supertype, that one after its own, and each class once.  So a class
that cannot be classified is met from the top of the first chain that holds one, and descriptors
share their supertypes.

* `Lineages.Nearest`: the first listed class behind a class in its lineage;
* `ClassCatalog.nearestListed_eq_some`, `ClassCatalog.nearestListed_eq_none`: what a class extends;
* `ClassCatalog.topmost_ofClasses`: a chain is refused for its topmost ambiguous class;
* `ClassCatalog.descriptors_or_topmost`: the descriptors of a catalog, or the class it refuses.
-/

namespace PartitionKeys

/-! ## Nearest listed classes -/

/-- The first listed class behind `k` in its lineage is `p`. -/
def Lineages.Nearest (l : Lineages) (listed : List ClassId) (k p : ClassId) : Prop :=
  ∃ front back, (l.lineage k).tail = front ++ p :: back ∧ p ∈ listed ∧ ∀ a ∈ front, a ∉ listed

/-- A class with both markers. -/
def ClassGraph.Ambiguous (g : ClassGraph) (triggerMarker instanceMarker k : ClassId) : Prop :=
  g.Descends k triggerMarker ∧ g.Descends k instanceMarker

namespace ClassCatalog

variable {g : ClassGraph} {l : Lineages} {classes listed listed' : List ClassId}
  {triggerMarker instanceMarker : ClassId} {policy : Policy} {nameOf : ClassId → String}
  {f : Failure} {listing : KeyRing.Listing} {a k p : ClassId}

theorem nearestListed_congr (hm : ∀ a, a ∈ listed ↔ a ∈ listed') :
    nearestListed l listed = nearestListed l listed' := by
  have hsame : listed.contains = listed'.contains := by
    funext a
    rw [Bool.eq_iff_iff, List.contains_iff_mem, List.contains_iff_mem, hm]
  funext k
  rw [nearestListed, nearestListed, hsame]

theorem nearestListed_eq_some : nearestListed l listed k = some p ↔ l.Nearest listed k p := by
  rw [nearestListed, List.find?_eq_some_iff_append, Lineages.Nearest]
  constructor
  · rintro ⟨hp, front, back, hsplit, hfront⟩
    refine ⟨front, back, hsplit, List.contains_iff_mem.1 hp, ?_⟩
    intro a ha
    simpa using hfront a ha
  · rintro ⟨front, back, hsplit, hp, hfront⟩
    refine ⟨List.contains_iff_mem.2 hp, front, back, hsplit, ?_⟩
    intro a ha
    simpa using hfront a ha

theorem nearestListed_eq_none (hg : g.Ordered) (hl : g.linearized = .ok l) :
    nearestListed l listed k = none ↔ ∀ a ∈ listed, a ∈ l.lineage k → a = k := by
  rw [nearestListed, List.find?_eq_none]
  constructor
  · intro hnone a ha hline
    by_contra hne
    have htail : a ∈ (l.lineage k).tail :=
      (Lineages.mem_tail_lineage_iff hg hl).2 ⟨hne, (Lineages.mem_lineage_iff hg hl).1 hline⟩
    exact hnone a htail (List.contains_iff_mem.2 ha)
  · intro hself a htail ha
    rcases (Lineages.mem_tail_lineage_iff hg hl).1 htail with ⟨hne, hd⟩
    exact hne (hself a (List.contains_iff_mem.1 ha) ((Lineages.mem_lineage_iff hg hl).2 hd))

/-! ## Catalogs of any classes -/

theorem parent_ofClasses_eq_some :
    (ofClasses l classes triggerMarker instanceMarker policy nameOf).parent k = some p ↔
      l.Nearest classes k p := by
  show nearestListed l classes.eraseDups k = some p ↔ _
  rw [nearestListed_congr fun a => List.mem_eraseDups, nearestListed_eq_some]

/-- A chain goes from each class to the nearest listed one behind it. -/
theorem chain_ofClasses :
    (ofClasses l classes triggerMarker instanceMarker policy nameOf).Chain =
      Relation.ReflTransGen (l.Nearest classes) := by
  unfold Chain
  congr 1
  funext k p
  exact propext parent_ofClasses_eq_some

theorem classify_ofClasses_eq_error (hg : g.Ordered) (hl : g.linearized = .ok l) :
    (ofClasses l classes triggerMarker instanceMarker policy nameOf).classify k = .error f ↔
      policy = .reject ∧ g.Ambiguous triggerMarker instanceMarker k ∧
        f = .ambiguousType (.text (nameOf k)) := by
  rw [classify_eq_error, ClassGraph.Ambiguous, ← Lineages.isSubclass_iff hg hl,
    ← Lineages.isSubclass_iff hg hl]
  simp only [ofClasses]
  tauto

theorem exists_classify_ofClasses_eq_error (hg : g.Ordered) (hl : g.linearized = .ok l) :
    (∃ f, (ofClasses l classes triggerMarker instanceMarker policy nameOf).classify k =
      .error f) ↔ policy = .reject ∧ g.Ambiguous triggerMarker instanceMarker k := by
  simp only [classify_ofClasses_eq_error hg hl, exists_and_left, exists_eq, and_true]

theorem topmost_ofClasses (hg : g.Ordered) (hl : g.linearized = .ok l)
    (h : (ofClasses l classes triggerMarker instanceMarker policy nameOf).Topmost k p f) :
    policy = .reject ∧ Relation.ReflTransGen (l.Nearest classes) k p ∧
      g.Ambiguous triggerMarker instanceMarker p ∧
      (∀ q, Relation.ReflTransGen (l.Nearest classes) p q →
        g.Ambiguous triggerMarker instanceMarker q → q = p) ∧
      f = .ambiguousType (.text (nameOf p)) := by
  rcases h with ⟨hkp, hrefused, htop⟩
  rw [chain_ofClasses] at hkp
  rcases (classify_ofClasses_eq_error hg hl).1 hrefused with ⟨hpolicy, hp, hf⟩
  refine ⟨hpolicy, hkp, hp, ?_, hf⟩
  intro q hpq hq
  refine htop q (by rwa [chain_ofClasses]) ?_
  exact (exists_classify_ofClasses_eq_error hg hl).2 ⟨hpolicy, hq⟩

theorem not_ambiguous_of_classified (hg : g.Ordered) (hl : g.linearized = .ok l)
    (h : (ofClasses l classes triggerMarker instanceMarker .reject nameOf).Classified a) :
    ∀ q, Relation.ReflTransGen (l.Nearest classes) a q →
      ¬g.Ambiguous triggerMarker instanceMarker q := by
  intro q haq hq
  rcases h q (by rwa [chain_ofClasses]) with ⟨category, hcat⟩
  have hrefused : (ofClasses l classes triggerMarker instanceMarker .reject nameOf).classify q =
      .error (.ambiguousType (.text (nameOf q))) :=
    (classify_ofClasses_eq_error hg hl).2 ⟨rfl, hq, rfl⟩
  rw [hcat] at hrefused
  cases hrefused

/-- What a catalog of classes is refused for. -/
theorem topmost_of_listing_ofClasses (hg : g.Ordered) (hl : g.linearized = .ok l)
    (h : (ofClasses l classes triggerMarker instanceMarker policy nameOf).listing.result =
      .error f) :
    policy = .reject ∧ ∃ front k back p, classes.eraseDups = front ++ k :: back ∧
      (∀ a ∈ front, ∀ q, Relation.ReflTransGen (l.Nearest classes) a q →
        ¬g.Ambiguous triggerMarker instanceMarker q) ∧
      Relation.ReflTransGen (l.Nearest classes) k p ∧
      g.Ambiguous triggerMarker instanceMarker p ∧
      (∀ q, Relation.ReflTransGen (l.Nearest classes) p q →
        g.Ambiguous triggerMarker instanceMarker q → q = p) ∧
      f = .ambiguousType (.text (nameOf p)) := by
  have hfalls : (ofClasses l classes triggerMarker instanceMarker policy nameOf).Falls :=
    (rises_of_nearestListed hg hl rfl).falls hg
  rcases topmost_of_listing hfalls h with ⟨front, k, back, p, hsplit, hfront, htop⟩
  rcases topmost_ofClasses hg hl htop with ⟨rfl, hrest⟩
  exact ⟨rfl, front, k, back, p, hsplit,
    fun a ha => not_ambiguous_of_classified hg hl (hfront a ha), hrest⟩

/-- An ambiguous class is refused wherever it is listed. -/
theorem exists_listing_ofClasses_eq_error (hg : g.Ordered) (hl : g.linearized = .ok l) :
    (∃ f, (ofClasses l classes triggerMarker instanceMarker policy nameOf).listing.result =
      .error f) ↔
      policy = .reject ∧ ∃ k ∈ classes, g.Ambiguous triggerMarker instanceMarker k := by
  constructor
  · rintro ⟨f, hf⟩
    rcases topmost_of_listing_ofClasses hg hl hf with
      ⟨hpolicy, front, k, back, p, hsplit, _, hkp, hp, _⟩
    have hk : k ∈ classes := by
      rw [← List.mem_eraseDups, hsplit]
      simp
    refine ⟨hpolicy, p, ?_, hp⟩
    -- A chain starts at a listed class and leads to listed classes only.
    rcases hkp.cases_tail with rfl | ⟨_, _, hnearest⟩
    · exact hk
    · rcases hnearest with ⟨_, _, _, hlisted, _⟩
      exact hlisted
  · rintro ⟨rfl, k, hk, hambiguous⟩
    let c := ofClasses l classes triggerMarker instanceMarker .reject nameOf
    have hfalls : c.Falls := (rises_of_nearestListed hg hl rfl).falls hg
    cases hresult : c.listing.result with
    | error f =>
        exact ⟨f, rfl⟩
    | ok listing =>
        -- A listing has a descriptor for every listed class, and with it a category.
        rcases gives_of_listing hfalls hresult with ⟨d, h⟩
        rcases h.exists_type (List.mem_eraseDups.2 hk) with ⟨t, _, ht⟩
        have hclassified := not_ambiguous_of_classified hg hl (classified_of_find? h.sound ht)
        exact absurd hambiguous (hclassified k Relation.ReflTransGen.refl)

/-- The supertype of a descriptor is the one that is given for the nearest listed class. -/
theorem supertype_of_listing {t : TypeId} (hg : g.Ordered) (hl : g.linearized = .ok l)
    (hlist : (ofClasses l classes triggerMarker instanceMarker policy nameOf).listing.result =
      .ok listing)
    (ht : t ∈ listing.types) (hk : (listing.hierarchy.get t).source = some k) :
    (listing.hierarchy.supertype t = none ↔ ∀ a ∈ classes, a ∈ l.lineage k → a = k) ∧
      ∀ u, listing.hierarchy.supertype t = some u ↔
        u ∈ listing.types ∧
          ∃ p, l.Nearest classes k p ∧ (listing.hierarchy.get u).source = some p := by
  let c := ofClasses l classes triggerMarker instanceMarker policy nameOf
  have hfalls : c.Falls := (rises_of_nearestListed hg hl rfl).falls hg
  rcases gives_of_listing hfalls hlist with ⟨d, h⟩
  have hkt : d.find? k = some t := (h.source_eq_some_iff ht).1 hk
  have hparent : c.parent k = nearestListed l classes k :=
    congrFun (nearestListed_congr fun a => List.mem_eraseDups) k
  constructor
  · rw [← h.hierarchy_eq, h.sound.supertype_eq_none hkt, hparent, nearestListed_eq_none hg hl]
  · intro u
    constructor
    · intro hu
      have hlisted : u ∈ listing.types := h.mem_of_supertype rfl ht hu
      rw [← h.hierarchy_eq] at hu
      rcases (h.sound.supertype_eq_some hkt).1 hu with ⟨p, hp, hpu⟩
      exact ⟨hlisted, p, parent_ofClasses_eq_some.1 hp, (h.source_eq_some_iff hlisted).2 hpu⟩
    · rintro ⟨hlisted, p, hp, hpu⟩
      rw [← h.hierarchy_eq]
      exact (h.sound.supertype_eq_some hkt).2
        ⟨p, parent_ofClasses_eq_some.2 hp, (h.source_eq_some_iff hlisted).1 hpu⟩

/-- A catalog of classes gives one descriptor for each listed class, by first occurrence.  A class
without another listed class in its lineage extends nothing, any other extends the descriptor that
is given for the nearest one, so no chain of supertypes leaves the catalog or comes back.  A catalog
is refused exactly when it lists a class with both markers and no policy prefers one; the failure
names the topmost ambiguous class on the chain of the first class with one on its chain. -/
theorem descriptors_or_topmost (hg : g.Ordered) (hl : g.linearized = .ok l) :
    (∀ listing, (ofClasses l classes triggerMarker instanceMarker policy nameOf).listing.result =
        .ok listing →
      listing.types.Nodup ∧
      listing.types.map (fun t => (listing.hierarchy.get t).source) =
        classes.eraseDups.map some ∧
      (∀ t ∈ listing.types, ∀ k, (listing.hierarchy.get t).source = some k →
        (listing.hierarchy.supertype t = none ↔ ∀ a ∈ classes, a ∈ l.lineage k → a = k) ∧
        ∀ u, listing.hierarchy.supertype t = some u ↔
          u ∈ listing.types ∧
            ∃ p, l.Nearest classes k p ∧ (listing.hierarchy.get u).source = some p) ∧
      ∀ t ∈ listing.types, listing.hierarchy.Acyclic listing.types t) ∧
    ((∃ f, (ofClasses l classes triggerMarker instanceMarker policy nameOf).listing.result =
        .error f) ↔
      (∃ k ∈ classes, g.Ambiguous triggerMarker instanceMarker k) ∧
        policy ≠ .preferTrigger ∧ policy ≠ .preferInstance) ∧
    ∀ f, (ofClasses l classes triggerMarker instanceMarker policy nameOf).listing.result =
        .error f →
      ∃ front k back p, classes.eraseDups = front ++ k :: back ∧
        (∀ a ∈ front, ∀ q, Relation.ReflTransGen (l.Nearest classes) a q →
          ¬g.Ambiguous triggerMarker instanceMarker q) ∧
        Relation.ReflTransGen (l.Nearest classes) k p ∧
        g.Ambiguous triggerMarker instanceMarker p ∧
        (∀ q, Relation.ReflTransGen (l.Nearest classes) p q →
          g.Ambiguous triggerMarker instanceMarker q → q = p) ∧
        ∃ r, f.report? = some r ∧ r.kind = .classification ∧
          r.context.typeName = .text (nameOf p) := by
  have hpolicy : policy = .reject ↔ policy ≠ .preferTrigger ∧ policy ≠ .preferInstance := by
    cases policy <;> simp
  refine ⟨?_, ?_, ?_⟩
  · intro listing hlist
    have hrises : (ofClasses l classes triggerMarker instanceMarker policy nameOf).Rises g :=
      rises_of_nearestListed hg hl rfl
    rcases gives_of_listing (hrises.falls hg) hlist with ⟨d, h⟩
    refine ⟨?_, h.sources_eq, ?_, ?_⟩
    · -- No class is listed twice, and each has a descriptor of its own.
      have hclasses : (classes.eraseDups.map some).Nodup :=
        (nodup_eraseDups classes).map (Option.some_injective _)
      exact List.Nodup.of_map _ (h.sources_eq ▸ hclasses)
    · intro t ht k hk
      exact supertype_of_listing hg hl hlist ht hk
    · intro t _ path hpath
      exact hrises.ascent_nodup hg h hpath
  · rw [exists_listing_ofClasses_eq_error hg hl, hpolicy, and_comm]
  · intro f hf
    rcases topmost_of_listing_ofClasses hg hl hf with
      ⟨_, front, k, back, p, hsplit, hfront, hkp, hp, htop, rfl⟩
    exact ⟨front, k, back, p, hsplit, hfront, hkp, hp, htop, _, rfl, rfl, rfl⟩

/-- Digests, mails and letters, where the policy decides about a letter with both markers. -/
def letterCatalog (policy : Policy) : ClassCatalog :=
  ofClasses digestLineages [4, 2, 3, 0, 4] 0 1 policy digests.name

/-- The digest comes first, but the mail, the marker and the letter above it are made before. -/
def letterListing : KeyRing.Listing where
  hierarchy.descriptors :=
    #[ { name := "JobTrigger", category := .jobTrigger, source := some 0 },
       { name := "Mail", supertype := some 0, category := .jobTrigger, source := some 2 },
       { name := "Letter", isAbstract := true, supertype := some 1, category := .jobTrigger,
         source := some 3 },
       { name := "Digest", supertype := some 2, category := .jobTrigger, source := some 4 } ]
  types := [3, 1, 2, 0]

/-- The digest comes first and is ambiguous, but the letter that it extends is what is named.  Where
triggers are preferred, the digest extends the letter and the marker extends nothing. -/
theorem descriptors_or_topmost_letters :
    digests.Ordered ∧ digests.linearized = .ok digestLineages ∧
      (letterCatalog .reject).listing.result = .error (.ambiguousType (.text "Letter")) ∧
      (∃ k p, Relation.ReflTransGen (digestLineages.Nearest [4, 2, 3, 0, 4]) k p ∧
        digests.Ambiguous 0 1 p ∧ digests.name p = "Letter") ∧
      (letterCatalog .preferTrigger).listing.result = .ok letterListing ∧
      letterListing.types.map (fun t => (letterListing.hierarchy.get t).source) =
        [some 4, some 2, some 3, some 0] ∧
      letterListing.hierarchy.supertype 3 = some 2 ∧
      ∃ p, digestLineages.Nearest [4, 2, 3, 0, 4] 4 p ∧
        (letterListing.hierarchy.get 2).source = some p := by
  have hrefused : (letterCatalog .reject).listing.result =
      .error (.ambiguousType (.text "Letter")) := by
    cbv
  have hlist : (letterCatalog .preferTrigger).listing.result = .ok letterListing := by
    cbv
  refine ⟨digests_ordered, digests_linearized, hrefused, ?_, hlist, ?_⟩
  · rcases (descriptors_or_topmost digests_ordered digests_linearized).2.2 _ hrefused with
      ⟨_, k, _, p, _, _, hkp, hp, _, r, hr, _, hname⟩
    refine ⟨k, p, hkp, hp, ?_⟩
    cases hr
    exact (Value.text.inj hname).symm
  · rcases (descriptors_or_topmost digests_ordered digests_linearized).1 _ hlist with
      ⟨_, hsources, hextends, _⟩
    have hall := hextends 3 (by simp [letterListing]) 4 rfl
    exact ⟨hsources, rfl, ((hall.2 2).1 rfl).2⟩

end ClassCatalog
end PartitionKeys
