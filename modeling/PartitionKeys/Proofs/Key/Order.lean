import Mathlib
import PartitionKeys.Proofs.Hierarchy.Fault
import PartitionKeys.Proofs.Key.KeyRing

/-!
# Order — keys do not depend on how a catalog is listed

Two catalogs that list the same types, in any order and with any repeats, give the same keys.  Only
the order in which a key names its covered types can tell them apart, and not in the first name.

* `Hierarchy.below_perm`: the same types stand below a representative;
* `Hierarchy.concreteByName_congr`: the concrete types of a category, in order of their names;
* `PartitionKey.SameUpToOrder`: equal but for the order of the covered names after the first;
* `KeyRing.keys_independent_of_order`: one catalog has keys when the other has, and the same.
-/

namespace PartitionKeys

/-! ## Representatives and what is below them -/

namespace Hierarchy

variable {h : Hierarchy} {catalog catalog' : List TypeId} {c : Category} {r : TypeId}

/-- Types are listed once in order of first occurrence, so only the order can differ. -/
theorem perm_of_mem_iff {p p' : TypeId → Bool} (hd : catalog.eraseDups.Nodup)
    (hd' : catalog'.eraseDups.Nodup)
    (hm : ∀ t, t ∈ catalog ∧ p t = true ↔ t ∈ catalog' ∧ p' t = true) :
    (catalog.eraseDups.filter p).Perm (catalog'.eraseDups.filter p') := by
  rw [List.perm_ext_iff_of_nodup (hd.filter p) (hd'.filter p')]
  intro t
  simpa using hm t

theorem below_perm (hd : catalog.eraseDups.Nodup) (hd' : catalog'.eraseDups.Nodup)
    (hm : ∀ t, t ∈ catalog ↔ t ∈ catalog') :
    (h.below catalog r).Perm (h.below catalog' r) := by
  apply perm_of_mem_iff hd hd'
  intro t
  simp only [hm, decide_eq_true_iff, reaches_congr hm]

theorem concrete_perm (hd : catalog.eraseDups.Nodup) (hd' : catalog'.eraseDups.Nodup)
    (hm : ∀ t, t ∈ catalog ↔ t ∈ catalog') :
    (h.concrete catalog c).Perm (h.concrete catalog' c) := by
  apply perm_of_mem_iff hd hd'
  intro t
  rw [hm]

/-- The concrete types of a category, in order of their names. -/
def concreteByName (h : Hierarchy) (catalog : List TypeId) (c : Category) : List TypeId :=
  (h.concrete catalog c).mergeSort fun t u => decide (h.name t ≤ h.name u)

theorem mem_concreteByName : r ∈ h.concreteByName catalog c ↔ r ∈ h.concrete catalog c := by
  rw [concreteByName, List.mem_mergeSort]

/-- Distinct names leave one order. -/
theorem concreteByName_congr (hnames : h.DistinctNames catalog)
    (hd : catalog.eraseDups.Nodup) (hd' : catalog'.eraseDups.Nodup)
    (hm : ∀ t, t ∈ catalog ↔ t ∈ catalog') :
    h.concreteByName catalog c = h.concreteByName catalog' c := by
  apply sortedByName_congr (concrete_perm hd hd' hm)
  intro t ht u hu
  exact hnames t (mem_concrete.1 ht).1 u (mem_concrete.1 hu).1

end Hierarchy

/-! ## Keys -/

namespace PartitionKey

/-- Equal in all but the covered names, which may stand in another order after the first. -/
def SameUpToOrder (k k' : PartitionKey) : Prop :=
  { k with covered := k'.covered } = k' ∧
    ∃ first rest rest', k.covered = first :: rest ∧ k'.covered = first :: rest' ∧ rest.Perm rest'

end PartitionKey

theorem Hierarchy.keyFor_sameUpToOrder {h : Hierarchy} {catalog catalog' : List TypeId}
    {b : AttributeBindings} {template : String} {r : TypeId}
    (hp : h.isConcreteParticipant r = true)
    (hperm : (h.below catalog r).Perm (h.below catalog' r)) :
    (h.keyFor catalog b template r).SameUpToOrder (h.keyFor catalog' b template r) := by
  have hpred : (h.keyFor catalog b template r).predicate =
      (h.keyFor catalog' b template r).predicate := by
    have hnil : h.below catalog r = [] ↔ h.below catalog' r = [] := by
      rw [← List.length_eq_zero_iff, hperm.length_eq, List.length_eq_zero_iff]
    simp only [Hierarchy.keyFor_predicate hp, hnil]
  refine ⟨?_, h.name r, _, _, Hierarchy.keyFor_covered hp, Hierarchy.keyFor_covered hp,
    hperm.map h.name⟩
  rw [PartitionKey.mk.injEq]
  exact ⟨rfl, rfl, rfl, hpred, rfl, rfl⟩

/-! ## Key rings -/

namespace KeyRing

variable {h : Hierarchy} {catalog catalog' : List TypeId} {c c' : Coverage} {category : Category}
  {b : AttributeBindings} {template : String}

/-- Sorting the keys by name is sorting their types by name. -/
theorem collection_eq_map (hc : (Coverage.ofCatalog h catalog).result = .ok c)
    (hcat : category ≠ .neither) :
    (ofEntries h b template c.entries).collection category =
      (h.concreteByName catalog category).map (h.keyFor catalog b template) := by
  rw [collection_ofEntries hc hcat, Hierarchy.concreteByName, List.map_mergeSort]
  intro t _ u _
  rfl

theorem collection_forall₂ (hc : (Coverage.ofCatalog h catalog).result = .ok c)
    (hc' : (Coverage.ofCatalog h catalog').result = .ok c')
    (hm : ∀ t, t ∈ catalog ↔ t ∈ catalog') (hcat : category ≠ .neither) :
    List.Forall₂ PartitionKey.SameUpToOrder
      ((ofEntries h b template c.entries).collection category)
      ((ofEntries h b template c'.entries).collection category) := by
  have hd : catalog.eraseDups.Nodup := Coverage.nodup_of_ofCatalog hc
  have hd' : catalog'.eraseDups.Nodup := Coverage.nodup_of_ofCatalog hc'
  have hnames : h.DistinctNames catalog := (Coverage.exists_ofCatalog_iff.1 ⟨c, hc⟩).1
  rw [collection_eq_map hc hcat, collection_eq_map hc' hcat,
    Hierarchy.concreteByName_congr hnames hd hd' hm, List.forall₂_map_left_iff,
    List.forall₂_map_right_iff, List.forall₂_same]
  intro r hr
  have hp : h.isConcreteParticipant r = true :=
    Hierarchy.isConcreteParticipant_of_mem_concrete hcat (Hierarchy.mem_concreteByName.1 hr)
  exact Hierarchy.keyFor_sameUpToOrder hp (Hierarchy.below_perm hd hd' hm)

theorem exists_ofCatalog_congr (hm : ∀ t, t ∈ catalog ↔ t ∈ catalog') :
    (∃ c, (Coverage.ofCatalog h catalog).result = .ok c) ↔
      ∃ c, (Coverage.ofCatalog h catalog').result = .ok c := by
  simp only [Coverage.exists_ofCatalog_iff, Hierarchy.DistinctNames, hm, Hierarchy.faulty_congr hm]

/-- Of two catalogs that list the same types, one has keys exactly when the other has, and then the
keys of each category agree place by place, up to the order of covered names after the first. -/
theorem keys_independent_of_order {listing listing' : Traced Listing}
    (hl : listing.result = .ok ⟨h, catalog⟩) (hl' : listing'.result = .ok ⟨h, catalog'⟩)
    (hm : ∀ t, t ∈ catalog ↔ t ∈ catalog') :
    ((∃ ring, (ofCatalog (some listing) b template).result = .ok ring) ↔
      ∃ ring, (ofCatalog (some listing') b template).result = .ok ring) ∧
    ∀ ring ring', (ofCatalog (some listing) b template).result = .ok ring →
      (ofCatalog (some listing') b template).result = .ok ring' →
        List.Forall₂ PartitionKey.SameUpToOrder ring.triggers ring'.triggers ∧
        List.Forall₂ PartitionKey.SameUpToOrder ring.instances ring'.instances := by
  constructor
  · have hsucceeds : ∀ {listing : Traced Listing} {catalog : List TypeId},
        listing.result = .ok ⟨h, catalog⟩ →
        ((∃ ring, (ofCatalog (some listing) b template).result = .ok ring) ↔
          (∃ c, (Coverage.ofCatalog h catalog).result = .ok c) ∧
            Template.check template = .ok ()) := by
      intro listing catalog hlisting
      simp only [ofCatalog_eq_ok hlisting]
      constructor
      · rintro ⟨ring, c, hc, ht, _⟩
        exact ⟨⟨c, hc⟩, ht⟩
      · rintro ⟨⟨c, hc⟩, ht⟩
        exact ⟨_, c, hc, ht, rfl⟩
    rw [hsucceeds hl, hsucceeds hl', exists_ofCatalog_congr hm]
  · intro ring ring' hring hring'
    rcases (ofCatalog_eq_ok hl).1 hring with ⟨c, hc, _, rfl⟩
    rcases (ofCatalog_eq_ok hl').1 hring' with ⟨c', hc', _, rfl⟩
    have htrigger : Category.jobTrigger ≠ .neither := by decide
    have hinstance : Category.jobInstance ≠ .neither := by decide
    exact ⟨collection_forall₂ hc hc' hm htrigger, collection_forall₂ hc hc' hm hinstance⟩

/-- The notices listed backwards have the same keys. -/
theorem keys_independent_of_order_notices :
    (∀ t, t ∈ Coverage.noticesListed ↔ t ∈ Coverage.noticesListed.reverse) ∧
    ∃ ring, (ofCatalog (some (Traced.done
        ⟨Coverage.notices, Coverage.noticesListed.reverse⟩)) {} Template.default).result =
          .ok ring ∧
      List.Forall₂ PartitionKey.SameUpToOrder noticesRing.triggers ring.triggers ∧
      List.Forall₂ PartitionKey.SameUpToOrder noticesRing.instances ring.instances := by
  have hm : ∀ t, t ∈ Coverage.noticesListed ↔ t ∈ Coverage.noticesListed.reverse :=
    fun t => List.mem_reverse.symm
  have hl : (Traced.done (⟨Coverage.notices, Coverage.noticesListed⟩ : Listing)).result =
      .ok ⟨Coverage.notices, Coverage.noticesListed⟩ := rfl
  have hl' : (Traced.done (⟨Coverage.notices, Coverage.noticesListed.reverse⟩ : Listing)).result =
      .ok ⟨Coverage.notices, Coverage.noticesListed.reverse⟩ := rfl
  rcases (keys_independent_of_order hl hl' hm).1.1 ⟨_, ofCatalog_notices⟩ with ⟨ring, hring⟩
  exact ⟨hm, ring, hring, (keys_independent_of_order hl hl' hm).2 _ _ ofCatalog_notices hring⟩

end KeyRing
end PartitionKeys
