import PartitionKeys.Hierarchy.Climb
import PartitionKeys.Proofs.Hierarchy.Index
import PartitionKeys.Proofs.Hierarchy.Reach

/-!
# Climb — the types a climb passes are the types it can reach

A climb may be cut short by a circle.  It misses nothing by that: the types met so far are closed
under supertype steps, so whatever lies beyond the circle was met before.

* `Index.climbFrom_sound`: a type passed is reached, and its name was not met;
* `Index.climbFrom_closed`: a step from a type passed lands on a type passed or met;
* `Index.mem_climb_iff`: a climb from a listed type passes exactly the other types that it reaches.
-/

namespace PartitionKeys
namespace Index

variable {h : Hierarchy} {i : Index h} {t u a b : TypeId}

/-! ## Soundness -/

theorem climbFrom_sound {met : List String} {current : Option TypeId}
    (hu : u ∈ (i.climbFrom met current).passed) :
    h.name u ∉ met ∧ ∃ c, current = some c ∧ c ∈ i.members ∧ h.Under i.members c u := by
  induction met, current using climb_induction i with
  | ended met =>
      simp at hu
  | outside met t ht =>
      simp [climbFrom_of_not_mem met ht] at hu
  | back met t ht hm =>
      simp [climbFrom_of_met ht hm] at hu
  | onward met t ht hm ih =>
      rw [climbFrom_of_unmet ht hm, List.mem_cons] at hu
      rcases hu with rfl | hu
      · exact ⟨hm, u, rfl, ht, Hierarchy.Under.refl u⟩
      · -- The rest of the climb starts at the supertype of `t`, one step further.
        rcases ih hu with ⟨hn, c, hc, hcm, hcu⟩
        have hr : h.Reaches i.members t u := Hierarchy.Extends.reaches ⟨hc, hcm⟩ hcu
        exact ⟨fun hmet => hn (List.mem_cons_of_mem _ hmet), t, rfl, ht, hr.under⟩

/-! ## Closure -/

theorem mem_climbFrom_self {met : List String} (ht : t ∈ i.members) (hm : h.name t ∉ met) :
    t ∈ (i.climbFrom met (some t)).passed := by
  rw [climbFrom_of_unmet ht hm]
  exact List.mem_cons_self

theorem climbFrom_closed {met : List String} {current : Option TypeId}
    (ha : a ∈ (i.climbFrom met current).passed) (hab : h.Extends i.members a b)
    (hb : h.name b ∉ met) : b ∈ (i.climbFrom met current).passed := by
  induction met, current using climb_induction i with
  | ended met =>
      simp at ha
  | outside met t ht =>
      simp [climbFrom_of_not_mem met ht] at ha
  | back met t ht hm =>
      simp [climbFrom_of_met ht hm] at ha
  | onward met t ht hm ih =>
      rw [climbFrom_of_unmet ht hm, List.mem_cons] at ha ⊢
      by_cases hbt : h.name b = h.name t
      · -- The step closes a circle at `t`, which has just been passed.
        exact Or.inl (name_injective hab.2 ht hbt)
      · have hnew : h.name b ∉ h.name t :: met := by
          simp [hbt, hb]
        right
        rcases ha with rfl | ha
        · rw [hab.1]
          exact mem_climbFrom_self hab.2 hnew
        · exact ih ha hnew

/-! ## Climbs from a listed type -/

theorem mem_climb_of_extends (ht : t ∈ i.members) (hta : t = a ∨ a ∈ (i.climb t).passed)
    (hab : h.Extends i.members a b) : t = b ∨ b ∈ (i.climb t).passed := by
  -- The start counts as met, so a step back to it is the one step that adds nothing.
  by_cases hbt : h.name b = h.name t
  · exact Or.inl (name_injective ht hab.2 hbt.symm)
  · have hnew : h.name b ∉ [h.name t] := by
      simpa using hbt
    right
    rcases hta with rfl | ha
    · rw [climb, hab.1]
      exact mem_climbFrom_self hab.2 hnew
    · exact climbFrom_closed ha hab hnew

theorem mem_climb_iff (ht : t ∈ i.members) :
    u ∈ (i.climb t).passed ↔ t ≠ u ∧ h.Reaches i.members t u := by
  constructor
  · intro hu
    rcases climbFrom_sound hu with ⟨hn, c, hc, hcm, hcu⟩
    refine ⟨?_, Hierarchy.Extends.reaches ⟨hc, hcm⟩ hcu⟩
    rintro rfl
    exact hn (List.mem_singleton.2 rfl)
  · rintro ⟨hne, hr⟩
    -- The types met are closed under steps, so a path from `t` never leaves them.
    have hmet : t = u ∨ u ∈ (i.climb t).passed := by
      clear hne
      induction hr with
      | single hs => exact mem_climb_of_extends ht (Or.inl rfl) hs
      | tail _ hs ih => exact mem_climb_of_extends ht ih hs
    exact hmet.resolve_left hne

end Index
end PartitionKeys
