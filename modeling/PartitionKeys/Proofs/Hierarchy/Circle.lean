import Mathlib
import PartitionKeys.Proofs.Hierarchy.Fault

/-!
# Circle — where an accepted catalog can hold a circle of supertypes

Circles are looked for on the walks of participants only.  So whatever a participant is under lies
on no way into a circle, while types that no participant is under may stand in one unnoticed.

* `Hierarchy.Acyclic`: the walk upward from a type never comes back to where it was;
* `Hierarchy.Acyclic.of_under`: what is acyclic has only acyclic types above it;
* `Coverage.exists_ofCatalog_iff_acyclic`: which catalogs are accepted, in these terms;
* `Coverage.acyclic_iff_unclimbed`: an accepted catalog is acyclic if its unclimbed types are.
-/

namespace PartitionKeys
namespace Hierarchy

variable {h : Hierarchy} {listed : List TypeId} {t u : TypeId}

/-! ## Walks without a repeat -/

def Acyclic (h : Hierarchy) (listed : List TypeId) (t : TypeId) : Prop :=
  ∀ path, h.Ascent listed t path → (t :: path).Nodup

theorem Acyclic.of_extends (ht : h.Acyclic listed t) (hs : h.Extends listed t u) :
    h.Acyclic listed u := by
  intro path hpath
  have hlonger : (t :: u :: path).Nodup := ht (u :: path) (ascent_cons.2 ⟨hs, hpath⟩)
  exact (List.nodup_cons.1 hlonger).2

theorem Acyclic.of_under (ht : h.Acyclic listed t) (hu : h.Under listed t u) :
    h.Acyclic listed u := by
  rw [under_iff_reflTransGen] at hu
  induction hu with
  | refl => exact ht
  | tail _ hs ih => exact ih.of_extends hs

/-- A walk leads to each type that is reached. -/
theorem Reaches.exists_ascent (hr : h.Reaches listed t u) :
    ∃ path, h.Ascent listed t (path ++ [u]) := by
  induction hr using Relation.TransGen.head_induction_on with
  | single hs =>
      exact ⟨[], ascent_cons.2 ⟨hs, ascent_nil u⟩⟩
  | @head _ v hs _ ih =>
      rcases ih with ⟨path, hpath⟩
      exact ⟨v :: path, ascent_cons.2 ⟨hs, hpath⟩⟩

theorem Acyclic.not_reaches_self (ht : h.Acyclic listed t) : ¬h.Reaches listed t t := by
  intro hself
  rcases hself.exists_ascent with ⟨path, hpath⟩
  exact not_nodup_of_mem List.mem_cons_self (ht _ hpath)

theorem not_faulty_iff :
    ¬h.Faulty listed t ↔ h.Acyclic listed t ∧ ∀ a, h.Reaches listed t a → ¬h.Offends t a := by
  simp only [Faulty, Acyclic, not_or, not_exists, not_and, not_not]
  exact and_comm

end Hierarchy

/-! ## Circles in an accepted catalog -/

namespace Coverage

variable {h : Hierarchy} {catalog : List TypeId} {c : Coverage}

theorem exists_ofCatalog_iff_acyclic :
    (∃ c, (Coverage.ofCatalog h catalog).result = .ok c) ↔
      h.DistinctNames catalog ∧
        ∀ p ∈ h.participants catalog,
          h.Acyclic catalog p ∧ ∀ a, h.Reaches catalog p a → ¬h.Offends p a := by
  simp only [exists_ofCatalog_iff, Hierarchy.mem_participants, Hierarchy.not_faulty_iff, and_imp]

/-- Nothing that a participant is under leads into a circle.  Hence an accepted catalog is acyclic
exactly when those of its types are that no participant is under: they are not looked at. -/
theorem acyclic_iff_unclimbed (hc : (Coverage.ofCatalog h catalog).result = .ok c) :
    (∀ p ∈ h.participants catalog, ∀ t, h.Under catalog p t → h.Acyclic catalog t) ∧
      ((∀ t ∈ catalog, h.Acyclic catalog t) ↔
        ∀ t ∈ catalog, (∀ p ∈ h.participants catalog, ¬h.Under catalog p t) →
          h.Acyclic catalog t) := by
  have hclimbed : ∀ p ∈ h.participants catalog, ∀ t, h.Under catalog p t →
      h.Acyclic catalog t := by
    intro p hp t hu
    exact ((exists_ofCatalog_iff_acyclic.1 ⟨c, hc⟩).2 p hp).1.of_under hu
  refine ⟨hclimbed, ?_⟩
  constructor
  · intro hall t ht _
    exact hall t ht
  · intro hrest t ht
    by_cases hex : ∃ p ∈ h.participants catalog, h.Under catalog p t
    · rcases hex with ⟨p, hp, hu⟩
      exact hclimbed p hp t hu
    · apply hrest t ht
      intro p hp hu
      exact hex ⟨p, hp, hu⟩

/-- The notices are accepted although one of them is its own supertype: no participant is under
it.  What the digest is under is acyclic. -/
theorem acyclic_iff_unclimbed_notices :
    (Coverage.ofCatalog notices noticesListed).result = .ok noticesCoverage ∧
      notices.Acyclic noticesListed 1 ∧ ¬notices.Acyclic noticesListed 7 := by
  have hdigest : 3 ∈ notices.participants noticesListed :=
    Hierarchy.mem_participants.2 (by decide)
  have hmail : notices.Extends noticesListed 3 2 := ⟨rfl, by decide⟩
  have hnotice : notices.Extends noticesListed 2 6 := ⟨rfl, by decide⟩
  have hbase : notices.Extends noticesListed 6 1 := ⟨rfl, by decide⟩
  have hjob : notices.Under noticesListed 3 1 :=
    (hmail.reaches (hnotice.reaches (hbase.reaches (Hierarchy.Under.refl 1)).under).under).under
  have hloop : notices.Extends noticesListed 7 7 := ⟨rfl, by decide⟩
  refine ⟨ofCatalog_notices, (acyclic_iff_unclimbed ofCatalog_notices).1 3 hdigest 1 hjob, ?_⟩
  intro hacyclic
  exact hacyclic.not_reaches_self (hloop.reaches (Hierarchy.Under.refl 7))

/-- Two types that are each other's supertype, neither of which takes part. -/
theorem accepted_circle :
    ∃ (h : Hierarchy) (catalog : List TypeId),
      (∃ c, (Coverage.ofCatalog h catalog).result = .ok c) ∧
        ¬∀ t ∈ catalog, h.Acyclic catalog t := by
  let h : Hierarchy :=
    ⟨#[{ name := "A", supertype := some 1 }, { name := "B", supertype := some 0 }]⟩
  refine ⟨h, [0, 1], ⟨⟨[]⟩, by cbv⟩, ?_⟩
  intro hall
  have hup : h.Extends [0, 1] 0 1 := ⟨rfl, by simp⟩
  have hdown : h.Extends [0, 1] 1 0 := ⟨rfl, by simp⟩
  have hself : h.Reaches [0, 1] 0 0 := hup.reaches (hdown.reaches (Hierarchy.Under.refl 0)).under
  exact (hall 0 (by simp)).not_reaches_self hself

end Coverage
end PartitionKeys
