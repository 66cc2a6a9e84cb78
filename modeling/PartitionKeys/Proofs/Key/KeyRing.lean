import Mathlib
import PartitionKeys.Key.KeyRing
import PartitionKeys.Proofs.Key.Basic
import PartitionKeys.Proofs.NameOrder

/-!
# KeyRing — one key for each concrete participant

The keys of a category are made from its concrete types, one from each, and put in order by name.

* `KeyRing.ofCatalog_eq_ok`: what a successful derivation went through;
* `KeyRing.collection_ofEntries`: the keys of a category are those of its concrete types;
* `KeyRing.partition_by_category`: both collections are in order, complete and apart;
* `KeyRing.predicate_iff_shared`: a key has a predicate exactly when others reach its type.
-/

namespace PartitionKeys
namespace KeyRing

variable {h : Hierarchy} {catalog : List TypeId} {c : Coverage} {category : Category}
  {b : AttributeBindings} {template : String} {ring : KeyRing}

def collection (ring : KeyRing) : Category → List PartitionKey
  | .jobTrigger => ring.triggers
  | .jobInstance => ring.instances
  | .neither => []

/-! ## Results of a derivation -/

theorem ofCoverage_eq_ok {bindings : Option AttributeBindings} :
    (ofCoverage h bindings template c).result = .ok ring ↔
      ∃ b, bindings = some b ∧ Template.check template = .ok () ∧
        ofEntries h b template c.entries = ring := by
  unfold ofCoverage
  cases bindings with
  | none => simp [Traced.fail]
  | some b =>
      cases Template.check template with
      | error f => simp [Traced.fail]
      | ok u => simp

theorem derive_eq_ok {l : Listing} :
    (derive l b template).result = .ok ring ↔
      ∃ c, (Coverage.ofCatalog l.hierarchy l.types).result = .ok c ∧
        (ofCoverage l.hierarchy (some b) template c).result = .ok ring := by
  unfold derive
  rw [Traced.result_bind_eq_ok]
  refine exists_congr fun c => and_congr_right fun _ => ?_
  rw [Traced.result_bind_eq_ok]
  constructor
  · rintro ⟨ring', hring, hlast⟩
    rcases Traced.result_bind_eq_ok.1 hlast with ⟨_, _, hpure⟩
    cases hpure
    exact hring
  · intro hring
    exact ⟨ring, hring, Traced.result_bind_eq_ok.2 ⟨(), rfl, rfl⟩⟩

theorem ofCatalog_eq_ok {listing : Traced Listing} {l : Listing} (hl : listing.result = .ok l) :
    (ofCatalog (some listing) b template).result = .ok ring ↔
      ∃ c, (Coverage.ofCatalog l.hierarchy l.types).result = .ok c ∧
        Template.check template = .ok () ∧ ofEntries l.hierarchy b template c.entries = ring := by
  unfold ofCatalog
  simp only [Traced.result_bind_eq_ok, hl, Except.ok.injEq, exists_eq_left', derive_eq_ok,
    ofCoverage_eq_ok, Option.some.injEq]

/-- Keys come from a catalog that could be listed and covered. -/
theorem exists_listing_of_ofCatalog {catalog : Option (Traced Listing)}
    (hring : (ofCatalog catalog b template).result = .ok ring) :
    ∃ listing l c, catalog = some listing ∧ listing.result = .ok l ∧
      (Coverage.ofCatalog l.hierarchy l.types).result = .ok c ∧
      ofEntries l.hierarchy b template c.entries = ring := by
  cases catalog with
  | none =>
      cases hring
  | some listing =>
      rcases Traced.result_bind_eq_ok.1 hring with ⟨l, hl, _⟩
      rcases (ofCatalog_eq_ok hl).1 hring with ⟨c, hc, _, hentries⟩
      exact ⟨listing, l, c, rfl, hl, hc, hentries⟩

/-- With an accepted template nothing but the coverage can fail. -/
theorem ofCatalog_eq_error {listing : Traced Listing} {l : Listing} {f : Failure}
    (hl : listing.result = .ok l) (ht : Template.check template = .ok ()) :
    (ofCatalog (some listing) b template).result = .error f ↔
      (Coverage.ofCatalog l.hierarchy l.types).result = .error f := by
  cases hc : (Coverage.ofCatalog l.hierarchy l.types).result with
  | error g =>
      have hring : (ofCatalog (some listing) b template).result = .error g := by
        unfold ofCatalog derive
        rw [Traced.result_bind_ok _ hl]
        exact Traced.result_bind_error _ hc
      simp only [hring, Except.error.injEq]
  | ok c =>
      rw [(ofCatalog_eq_ok hl).2 ⟨c, hc, ht, rfl⟩]
      simp

/-! ## Keys of a category -/

theorem collection_eq_keysOf (h : Hierarchy) (b : AttributeBindings) (template : String)
    (entries : List Coverage.Entry) (hcat : category ≠ .neither) :
    (ofEntries h b template entries).collection category =
      keysOf h (b.ofCategory category) template category entries := by
  cases category with
  | jobTrigger => rfl
  | jobInstance => rfl
  | neither => exact absurd rfl hcat

/-- Each concrete type of a participating category represents itself at least. -/
theorem filter_representatives (hcat : category ≠ .neither) :
    (h.representatives catalog).filter (fun r => h.category r == category) =
      h.concrete catalog category := by
  rw [Hierarchy.representatives, Hierarchy.concrete, List.filter_filter]
  apply List.filter_congr
  intro r hr
  rw [List.mem_eraseDups] at hr
  rw [Bool.eq_iff_iff]
  simp only [Bool.and_eq_true, beq_iff_eq, decide_eq_true_iff, Bool.not_eq_true']
  constructor
  · rintro ⟨hc, ha, _⟩
    exact ⟨ha, hc⟩
  · rintro ⟨ha, hc⟩
    have hp : h.isConcreteParticipant r = true :=
      Hierarchy.isConcreteParticipant_iff.2 ⟨ha, hc ▸ hcat⟩
    exact ⟨hc, ha, r, hr, hp, Hierarchy.Under.refl r⟩

theorem keysOf_eq (hc : (Coverage.ofCatalog h catalog).result = .ok c)
    (hcat : category ≠ .neither) :
    keysOf h (b.ofCategory category) template category c.entries =
      ((h.concrete catalog category).map (h.keyFor catalog b template)).mergeSort byName := by
  unfold keysOf
  rw [Coverage.entries_of_ofCatalog hc, List.filter_map, List.map_map]
  -- Sorting plays no part: the two lists are equal before it.
  congr 1
  have hfilter : (h.representatives catalog).filter (fun r => h.category r == category) =
      h.concrete catalog category := filter_representatives hcat
  change List.map _ ((h.representatives catalog).filter fun r => h.category r == category) = _
  rw [hfilter]
  apply List.map_congr_left
  intro r hr
  show PartitionKey.ofEntry _ _ _ _ = PartitionKey.ofEntry _ _ _ _
  rw [(Hierarchy.mem_concrete.1 hr).2.2]

theorem collection_ofEntries (hc : (Coverage.ofCatalog h catalog).result = .ok c)
    (hcat : category ≠ .neither) :
    (ofEntries h b template c.entries).collection category =
      ((h.concrete catalog category).map (h.keyFor catalog b template)).mergeSort byName := by
  rw [collection_eq_keysOf h b template c.entries hcat, keysOf_eq hc hcat]

theorem mem_collection_iff (hc : (Coverage.ofCatalog h catalog).result = .ok c)
    (hcat : category ≠ .neither) {k : PartitionKey} :
    k ∈ (ofEntries h b template c.entries).collection category ↔
      ∃ r ∈ h.concrete catalog category, h.keyFor catalog b template r = k := by
  rw [collection_ofEntries hc hcat, List.mem_mergeSort, List.mem_map]

theorem mem_keys_iff_collection {k : PartitionKey} :
    k ∈ ring.keys ↔ ∃ category, category ≠ .neither ∧ k ∈ ring.collection category := by
  rw [keys, List.mem_append]
  constructor
  · rintro (hk | hk)
    · exact ⟨.jobTrigger, by decide, hk⟩
    · exact ⟨.jobInstance, by decide, hk⟩
  · rintro ⟨category, hcat, hk⟩
    cases category with
    | jobTrigger => exact Or.inl hk
    | jobInstance => exact Or.inr hk
    | neither => exact absurd rfl hcat

theorem mem_keys_iff (hc : (Coverage.ofCatalog h catalog).result = .ok c) {k : PartitionKey} :
    k ∈ (ofEntries h b template c.entries).keys ↔
      ∃ r ∈ catalog, h.isConcreteParticipant r = true ∧ h.keyFor catalog b template r = k := by
  rw [mem_keys_iff_collection]
  constructor
  · rintro ⟨category, hcat, hk⟩
    rcases (mem_collection_iff hc hcat).1 hk with ⟨r, hr, rfl⟩
    exact ⟨r, (Hierarchy.mem_concrete.1 hr).1,
      Hierarchy.isConcreteParticipant_of_mem_concrete hcat hr, rfl⟩
  · rintro ⟨r, hr, hp, rfl⟩
    rcases Hierarchy.isConcreteParticipant_iff.1 hp with ⟨ha, hcat⟩
    exact ⟨h.category r, hcat,
      (mem_collection_iff hc hcat).2 ⟨r, Hierarchy.mem_concrete.2 ⟨hr, ha, rfl⟩, rfl⟩⟩

/-! ## Names in order -/

theorem names_perm (hc : (Coverage.ofCatalog h catalog).result = .ok c)
    (hcat : category ≠ .neither) :
    (((ofEntries h b template c.entries).collection category).map (·.name)).Perm
      ((h.concrete catalog category).map h.name) := by
  rw [collection_ofEntries hc hcat]
  refine ((List.mergeSort_perm _ _).map _).trans ?_
  rw [List.map_map]
  exact List.Perm.refl _

theorem names_nodup (hc : (Coverage.ofCatalog h catalog).result = .ok c)
    (hcat : category ≠ .neither) :
    (((ofEntries h b template c.entries).collection category).map (·.name)).Nodup := by
  rw [(names_perm hc hcat).nodup_iff]
  exact (Coverage.distinct_of_ofCatalog hc).sublist (List.filter_sublist.map h.name)

theorem pairwise_byName (ks : List PartitionKey) :
    ((ks.mergeSort byName).map (·.name)).Pairwise (· ≤ ·) := by
  rw [List.pairwise_map]
  exact pairwise_sortedByName (·.name) ks

theorem names_pairwise_lt (hc : (Coverage.ofCatalog h catalog).result = .ok c)
    (hcat : category ≠ .neither) :
    (((ofEntries h b template c.entries).collection category).map (·.name)).Pairwise (· < ·) := by
  have hle : (((ofEntries h b template c.entries).collection category).map
      (·.name)).Pairwise (· ≤ ·) := by
    rw [collection_ofEntries hc hcat]
    exact pairwise_byName _
  exact hle.imp₂ (fun _ _ => lt_of_le_of_ne) (names_nodup hc hcat)

/-- No name is the name of concrete types of two categories. -/
theorem category_unique (hc : (Coverage.ofCatalog h catalog).result = .ok c) {n : String}
    {category' : Category} (ht : ∃ t ∈ h.concrete catalog category, h.name t = n)
    (ht' : ∃ t ∈ h.concrete catalog category', h.name t = n) : category = category' := by
  rcases ht with ⟨t, ht, hn⟩
  rcases ht' with ⟨t', ht', hn'⟩
  rcases Hierarchy.mem_concrete.1 ht with ⟨hlisted, _, hcat⟩
  rcases Hierarchy.mem_concrete.1 ht' with ⟨hlisted', _, hcat'⟩
  have hsame : t = t' := Coverage.name_injective hc hlisted hlisted' (hn.trans hn'.symm)
  rw [← hcat, ← hcat', hsame]

/-- All keys have names of their own, within a category and across. -/
theorem keys_names_nodup (hc : (Coverage.ofCatalog h catalog).result = .ok c) :
    ((ofEntries h b template c.entries).keys.map (·.name)).Nodup := by
  rw [keys, List.map_append, List.nodup_append]
  have htrigger : Category.jobTrigger ≠ .neither := by decide
  have hinstance : Category.jobInstance ≠ .neither := by decide
  refine ⟨names_nodup hc htrigger, names_nodup hc hinstance, ?_⟩
  rintro n hn _ hn' rfl
  have hboth : Category.jobTrigger = .jobInstance :=
    category_unique hc (List.mem_map.1 ((names_perm hc htrigger).mem_iff.1 hn))
      (List.mem_map.1 ((names_perm hc hinstance).mem_iff.1 hn'))
  cases hboth

/-! ## Covered names -/

/-- Together the keys of a category cover its concrete types and no others. -/
theorem exists_covered_iff (hc : (Coverage.ofCatalog h catalog).result = .ok c)
    (hcat : category ≠ .neither) {n : String} :
    (∃ k ∈ (ofEntries h b template c.entries).collection category, n ∈ k.covered) ↔
      ∃ t ∈ h.concrete catalog category, h.name t = n := by
  constructor
  · rintro ⟨k, hk, hn⟩
    rcases (mem_collection_iff hc hcat).1 hk with ⟨r, hr, rfl⟩
    rcases Hierarchy.mem_concrete.1 hr with ⟨hlisted, ha, hcr⟩
    rcases (Hierarchy.mem_keyFor_covered hlisted).1 hn with ⟨t, ht, hp, hu, hnt⟩
    -- `n` cannot name a type of the other category: that would have been a clash.
    have hsame : h.category r = h.category t :=
      Coverage.category_eq_of_under hc ht hp hu ha (hcr ▸ hcat)
    have hat : h.isAbstract t = false := (Hierarchy.isConcreteParticipant_iff.1 hp).1
    exact ⟨t, Hierarchy.mem_concrete.2 ⟨ht, hat, hsame ▸ hcr⟩, hnt⟩
  · -- Each concrete type is covered by its own key at least.
    rintro ⟨t, ht, hnt⟩
    have hlisted : t ∈ catalog := (Hierarchy.mem_concrete.1 ht).1
    have hp : h.isConcreteParticipant t = true :=
      Hierarchy.isConcreteParticipant_of_mem_concrete hcat ht
    exact ⟨h.keyFor catalog b template t, (mem_collection_iff hc hcat).2 ⟨t, ht, rfl⟩,
      (Hierarchy.mem_keyFor_covered hlisted).2 ⟨t, hlisted, hp, Hierarchy.Under.refl t, hnt⟩⟩

/-- The keys of each category stand in strict order of names (by code points), one for each
concrete type of the category; together they cover these types, and no name is covered in both. -/
theorem partition_by_category {listing : Traced Listing} {l : Listing}
    (hl : listing.result = .ok l)
    (hring : (ofCatalog (some listing) b template).result = .ok ring) :
    (∀ category, category ≠ .neither →
      ((ring.collection category).map (·.name)).Pairwise (· < ·) ∧
      ((ring.collection category).map (·.name)).Perm
        ((l.hierarchy.concrete l.types category).map l.hierarchy.name) ∧
      ∀ n, (∃ k ∈ ring.collection category, n ∈ k.covered) ↔
        ∃ t ∈ l.hierarchy.concrete l.types category, l.hierarchy.name t = n) ∧
    ∀ k ∈ ring.triggers, ∀ k' ∈ ring.instances, ∀ n ∈ k.covered, n ∉ k'.covered := by
  rcases (ofCatalog_eq_ok hl).1 hring with ⟨c, hc, _, rfl⟩
  refine ⟨fun category hcat => ⟨names_pairwise_lt hc hcat, names_perm hc hcat, fun n =>
    exists_covered_iff hc hcat⟩, ?_⟩
  intro k hk k' hk' n hn hn'
  have htrigger : ∃ t ∈ l.hierarchy.concrete l.types .jobTrigger, l.hierarchy.name t = n :=
    (exists_covered_iff hc (by decide)).1 ⟨k, hk, hn⟩
  have hinstance : ∃ t ∈ l.hierarchy.concrete l.types .jobInstance, l.hierarchy.name t = n :=
    (exists_covered_iff hc (by decide)).1 ⟨k', hk', hn'⟩
  cases category_unique hc htrigger hinstance

theorem check_default : Template.check Template.default = .ok () := by
  cbv

/-- The keys of the notices, in the order of their names. -/
def noticesRing : KeyRing :=
  ofEntries Coverage.notices {} Template.default Coverage.noticesCoverage.entries

theorem ofCatalog_notices :
    (ofCatalog (some (Traced.done ⟨Coverage.notices, Coverage.noticesListed⟩)) {}
      Template.default).result = .ok noticesRing :=
  (ofCatalog_eq_ok rfl).2
    ⟨_, Coverage.ofCatalog_notices, check_default, rfl⟩

/-- The trigger keys of the notices cover exactly the triggers, in order of their names. -/
theorem partition_by_category_notices :
    (ofCatalog (some (Traced.done ⟨Coverage.notices, Coverage.noticesListed⟩)) {}
      Template.default).result = .ok noticesRing ∧
    (noticesRing.triggers.map (·.name)).Pairwise (· < ·) ∧
    ∀ n, (∃ k ∈ noticesRing.triggers, n ∈ k.covered) ↔
      ∃ t ∈ Coverage.notices.concrete Coverage.noticesListed .jobTrigger,
        Coverage.notices.name t = n := by
  have hall := (partition_by_category rfl ofCatalog_notices).1 .jobTrigger (by decide)
  exact ⟨ofCatalog_notices, hall.1, hall.2.2⟩

/-! ## Predicates -/

/-- A key of a coverage covers its own name first and no name twice.  It has a predicate exactly
when it covers more than one name, which is when another participant reaches its representative. -/
theorem predicate_iff_shared (hc : (Coverage.ofCatalog h catalog).result = .ok c)
    (ht : Template.check template = .ok ()) :
    ∃ ring, (ofCoverage h (some b) template c).result = .ok ring ∧
      ∀ k ∈ ring.keys,
        k.covered.head? = some k.name ∧ k.covered.Nodup ∧
        (∀ p, k.predicate = some p → p = ⟨k.name, template⟩) ∧
        ∃ r, (∀ u, u ∈ catalog ∧ h.name u = k.name ↔ u = r) ∧
          (k.predicate ≠ none ↔ 1 < k.covered.length) ∧
          (1 < k.covered.length ↔
            ∃ t ∈ catalog, h.isConcreteParticipant t = true ∧ t ≠ r ∧ h.Reaches catalog t r) := by
  refine ⟨_, ofCoverage_eq_ok.2 ⟨b, rfl, ht, rfl⟩, ?_⟩
  intro k hk
  rcases (mem_keys_iff hc).1 hk with ⟨r, hr, hp, rfl⟩
  refine ⟨?_, ?_, ?_, r, ?_, ?_, ?_⟩
  · rw [Hierarchy.keyFor_covered hp]
    rfl
  · -- Covered types are distinct, and distinct listed types have distinct names.
    apply List.Nodup.map_on _ (Coverage.nodup_covered hc)
    intro t ht u hu
    rw [Hierarchy.mem_covered hr] at ht hu
    exact Coverage.name_injective hc ht.1 hu.1
  · intro p hpred
    rw [Hierarchy.keyFor_predicate hp] at hpred
    split at hpred
    · cases hpred
    · cases hpred
      rfl
  · intro u
    constructor
    · rintro ⟨hu, hn⟩
      exact Coverage.name_injective hc hu hr hn
    · rintro rfl
      exact ⟨hr, rfl⟩
  · rw [Hierarchy.keyFor_predicate_ne_none_iff hp, Hierarchy.one_lt_length_keyFor_covered_iff hp]
  · rw [Hierarchy.one_lt_length_keyFor_covered_iff hp, Hierarchy.below_ne_nil_iff]

/-- Of the notices, the keys with a predicate are those that cover more than one name. -/
theorem predicate_iff_shared_notices :
    (Coverage.ofCatalog Coverage.notices Coverage.noticesListed).result =
        .ok Coverage.noticesCoverage ∧
      Template.check Template.default = .ok () ∧
      ∃ ring, (ofCoverage Coverage.notices (some {}) Template.default
          Coverage.noticesCoverage).result = .ok ring ∧
        ∀ k ∈ ring.keys, k.predicate ≠ none ↔ 1 < k.covered.length := by
  rcases predicate_iff_shared Coverage.ofCatalog_notices check_default with
    ⟨ring, hring, hkeys⟩
  refine ⟨Coverage.ofCatalog_notices, check_default, ring, hring, ?_⟩
  intro k hk
  rcases hkeys k hk with ⟨_, _, _, r, _, hiff, _⟩
  exact hiff

end KeyRing
end PartitionKeys
