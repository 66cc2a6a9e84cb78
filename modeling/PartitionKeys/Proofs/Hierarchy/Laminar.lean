import PartitionKeys.Proofs.Hierarchy.Coverage

/-!
# Laminar — coverages are nested or apart

A type has one supertype at most, so of two types above it one is above the other.  What a
representative covers is what is under it; hence a type that two representatives cover puts one of
them under the other, and with it all that it covers.

* `Hierarchy.Under.comparable`: the types above a type are above each other;
* `Coverage.covered_subset_of_under`: what a representative covers, those above it cover too;
* `Coverage.laminar`: coverages that meet are nested, and participants that share one are alike.
-/

namespace PartitionKeys

/-! ## Types above a type -/

namespace Hierarchy

variable {h : Hierarchy} {listed : List TypeId} {t u v : TypeId}

theorem extends_rightUnique (h : Hierarchy) (listed : List TypeId) :
    Relator.RightUnique (h.Extends listed) := by
  intro t u v hu hv
  exact Option.some.inj (hu.1.symm.trans hv.1)

theorem Under.trans (htu : h.Under listed t u) (huv : h.Under listed u v) :
    h.Under listed t v := by
  rw [under_iff_reflTransGen] at htu huv ⊢
  exact Relation.ReflTransGen.trans htu huv

theorem Under.comparable (hu : h.Under listed t u) (hv : h.Under listed t v) :
    h.Under listed u v ∨ h.Under listed v u := by
  rw [under_iff_reflTransGen] at hu hv
  simp only [under_iff_reflTransGen]
  exact Relation.ReflTransGen.total_of_right_unique (extends_rightUnique h listed) hu hv

end Hierarchy

/-! ## Coverages -/

namespace Coverage

variable {h : Hierarchy} {catalog : List TypeId} {c : Coverage} {e₁ e₂ : Entry} {t : TypeId}

/-- What an entry covers is what is under its representative. -/
theorem mem_covered_of_mem_entries (hc : (Coverage.ofCatalog h catalog).result = .ok c)
    (he : e₁ ∈ c.entries) :
    t ∈ e₁.covered ↔
      t ∈ catalog ∧ h.isConcreteParticipant t = true ∧ h.Under catalog t e₁.representative := by
  rcases (mem_entries_of_ofCatalog hc).1 he with ⟨hr, hcov⟩
  rw [hcov]
  exact Hierarchy.mem_covered (Hierarchy.mem_representatives.1 hr).1

theorem covered_subset_of_under (hc : (Coverage.ofCatalog h catalog).result = .ok c)
    (he₁ : e₁ ∈ c.entries) (he₂ : e₂ ∈ c.entries)
    (hu : h.Under catalog e₂.representative e₁.representative) : e₂.covered ⊆ e₁.covered := by
  intro t ht
  rcases (mem_covered_of_mem_entries hc he₂).1 ht with ⟨hlisted, hp, hbelow⟩
  exact (mem_covered_of_mem_entries hc he₁).2 ⟨hlisted, hp, hbelow.trans hu⟩

/-- A type that two representatives cover has the category of either, if both take part. -/
theorem category_eq_of_mem_both (hc : (Coverage.ofCatalog h catalog).result = .ok c)
    (he₁ : e₁ ∈ c.entries) (he₂ : e₂ ∈ c.entries) (ht₁ : t ∈ e₁.covered) (ht₂ : t ∈ e₂.covered)
    (hp₁ : h.category e₁.representative ≠ .neither)
    (hp₂ : h.category e₂.representative ≠ .neither) :
    h.category e₁.representative = h.category e₂.representative := by
  have hown : ∀ {e : Entry}, e ∈ c.entries → t ∈ e.covered →
      h.category e.representative ≠ .neither →
        h.category e.representative = h.category t := by
    intro e he ht hpart
    rcases (mem_covered_of_mem_entries hc he).1 ht with ⟨hlisted, hp, hu⟩
    rcases (mem_entries_of_ofCatalog hc).1 he with ⟨hr, _⟩
    exact category_eq_of_under hc hlisted hp hu (Hierarchy.mem_representatives.1 hr).2.1 hpart
  rw [hown he₁ ht₁ hp₁, hown he₂ ht₂ hp₂]

/-- Two representatives cover nothing in common, or one covers all that the other covers; a
representative covers what is covered further down; and representatives that take part and cover
something in common have one category. -/
theorem laminar (hc : (Coverage.ofCatalog h catalog).result = .ok c) :
    ∀ e₁ ∈ c.entries, ∀ e₂ ∈ c.entries,
      (e₁.covered.Disjoint e₂.covered ∨ e₁.covered ⊆ e₂.covered ∨ e₂.covered ⊆ e₁.covered) ∧
      (h.Reaches catalog e₂.representative e₁.representative → e₂.covered ⊆ e₁.covered) ∧
      (h.category e₁.representative ≠ .neither → h.category e₂.representative ≠ .neither →
        ¬e₁.covered.Disjoint e₂.covered →
          h.category e₁.representative = h.category e₂.representative) := by
  intro e₁ he₁ e₂ he₂
  have hmeet : ¬e₁.covered.Disjoint e₂.covered → ∃ t, t ∈ e₁.covered ∧ t ∈ e₂.covered := by
    intro hd
    simpa [List.Disjoint] using hd
  refine ⟨?_, ?_, ?_⟩
  · by_cases hd : e₁.covered.Disjoint e₂.covered
    · exact Or.inl hd
    · right
      -- Both representatives are above a type in common, so one is above the other.
      rcases hmeet hd with ⟨t, ht₁, ht₂⟩
      have hu₁ := ((mem_covered_of_mem_entries hc he₁).1 ht₁).2.2
      have hu₂ := ((mem_covered_of_mem_entries hc he₂).1 ht₂).2.2
      rcases hu₁.comparable hu₂ with hu | hu
      · exact Or.inl (covered_subset_of_under hc he₂ he₁ hu)
      · exact Or.inr (covered_subset_of_under hc he₁ he₂ hu)
  · intro hr
    exact covered_subset_of_under hc he₁ he₂ hr.under
  · intro hp₁ hp₂ hd
    rcases hmeet hd with ⟨t, ht₁, ht₂⟩
    exact category_eq_of_mem_both hc he₁ he₂ ht₁ ht₂ hp₁ hp₂

/-- Mails are jobs through an abstract type, so what mails cover jobs cover; and mails and digests,
which cover the digest in common, are both triggers. -/
theorem laminar_notices :
    (Coverage.ofCatalog notices noticesListed).result = .ok noticesCoverage ∧
      notices.Reaches noticesListed 2 1 ∧ [2, 3] ⊆ [3, 2, 4] ∧
      notices.category 3 = notices.category 2 := by
  have hdigest : (⟨3, [3]⟩ : Entry) ∈ noticesCoverage.entries := by
    simp [noticesCoverage]
  have hmail : (⟨2, [2, 3]⟩ : Entry) ∈ noticesCoverage.entries := by
    simp [noticesCoverage]
  have hjob : (⟨1, [3, 2, 4]⟩ : Entry) ∈ noticesCoverage.entries := by
    simp [noticesCoverage]
  have hnotice : notices.Extends noticesListed 2 6 := ⟨rfl, by decide⟩
  have hbase : notices.Extends noticesListed 6 1 := ⟨rfl, by decide⟩
  have hreach : notices.Reaches noticesListed 2 1 :=
    hnotice.reaches (hbase.reaches (Hierarchy.Under.refl 1)).under
  have hlaminar := laminar ofCatalog_notices
  refine ⟨ofCatalog_notices, hreach, (hlaminar _ hjob _ hmail).2.1 hreach, ?_⟩
  exact (hlaminar _ hdigest _ hmail).2.2 (by decide) (by decide) (by simp [List.Disjoint])

end Coverage
end PartitionKeys
