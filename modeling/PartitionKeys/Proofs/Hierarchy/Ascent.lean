import Mathlib.Data.List.Chain
import PartitionKeys.Proofs.Hierarchy.Climb

/-!
# Ascent — the walk from a type along its supertype links

A type has one supertype at most, so there is one walk upward from it: of two ascents from a type
one begins with the other.  A climb is the longest ascent without a repeat, and how it stops tells
whether the walk goes on.

* `Hierarchy.Ascent`: types that follow each other by steps onto listed types;
* `Hierarchy.Ascent.prefix_or_prefix`: ascents from one type differ in length only;
* `Hierarchy.Ascent.end_unique`: two that do not run past each other's ends have one end;
* `Index.stop_eq_ended_iff`: a climb ends when no ascent repeats a type;
* `Index.stop_eq_revisits_iff`: else it stops at the first type that the walk repeats.
-/

namespace PartitionKeys

/-! ## Ascents -/

namespace Hierarchy

variable {h : Hierarchy} {listed listed' : List TypeId} {t u v : TypeId} {path path' : List TypeId}

/-- The types of a path follow each other upward, from a type below the path. -/
def Ascent (h : Hierarchy) (listed : List TypeId) (t : TypeId) (path : List TypeId) : Prop :=
  (t :: path).IsChain (h.Extends listed)

theorem ascent_congr (hm : ∀ a, a ∈ listed ↔ a ∈ listed') :
    h.Ascent listed = h.Ascent listed' := by
  funext t path
  simp only [Ascent, extends_congr hm]

theorem ascent_nil (t : TypeId) : h.Ascent listed t [] :=
  List.isChain_singleton t

theorem ascent_cons :
    h.Ascent listed t (u :: path) ↔ h.Extends listed t u ∧ h.Ascent listed u path :=
  List.isChain_cons_cons

theorem Ascent.of_prefix (ha : h.Ascent listed t path') (hp : path <+: path') :
    h.Ascent listed t path :=
  List.IsChain.prefix ha (List.cons_prefix_cons.2 ⟨rfl, hp⟩)

theorem Ascent.reaches (ha : h.Ascent listed t path) (hu : u ∈ path) : h.Reaches listed t u := by
  induction path generalizing t with
  | nil =>
      cases hu
  | cons v path ih =>
      rcases ascent_cons.1 ha with ⟨hs, hrest⟩
      rcases List.mem_cons.1 hu with rfl | hu
      · exact hs.reaches (Under.refl u)
      · exact hs.reaches (ih hrest hu).under

/-- Each step upward is determined by where it starts. -/
theorem Ascent.prefix_or_prefix (ha : h.Ascent listed t path) (ha' : h.Ascent listed t path') :
    path <+: path' ∨ path' <+: path := by
  induction path generalizing t path' with
  | nil =>
      exact Or.inl List.nil_prefix
  | cons u path ih =>
      cases path' with
      | nil =>
          exact Or.inr List.nil_prefix
      | cons v path' =>
          rcases ascent_cons.1 ha with ⟨hu, hrest⟩
          rcases ascent_cons.1 ha' with ⟨hv, hrest'⟩
          have huv : u = v := Option.some.inj (hu.1.symm.trans hv.1)
          subst huv
          simpa using ih hrest hrest'

/-- Walks that do not run past each other's ends have one end. -/
theorem Ascent.end_unique (ha : h.Ascent listed t (path ++ [u]))
    (hb : h.Ascent listed t (path' ++ [v])) (hshort : ¬path ++ [u] <+: path')
    (hshort' : ¬path' ++ [v] <+: path) : u = v := by
  rcases ha.prefix_or_prefix hb with hpre | hpre
  · rcases List.prefix_concat_iff.1 hpre with heq | hin
    · exact List.singleton_inj.1 (List.append_inj' heq rfl).2
    · exact absurd hin hshort
  · rcases List.prefix_concat_iff.1 hpre with heq | hin
    · exact (List.singleton_inj.1 (List.append_inj' heq rfl).2).symm
    · exact absurd hin hshort'

/-! ## The first repeat -/

/-- A type at which the walk upward from `t` is for the first time where it was before. -/
def FirstRevisited (h : Hierarchy) (listed : List TypeId) (t u : TypeId) : Prop :=
  ∃ path, h.Ascent listed t (path ++ [u]) ∧ (t :: path).Nodup ∧ u ∈ t :: path

theorem firstRevisited_congr (hm : ∀ a, a ∈ listed ↔ a ∈ listed') :
    h.FirstRevisited listed = h.FirstRevisited listed' := by
  funext t u
  simp only [FirstRevisited, ascent_congr hm]

theorem not_nodup_of_mem (hu : u ∈ t :: path) : ¬(t :: (path ++ [u])).Nodup := by
  intro hd
  have hlast : (t :: path ++ [u]).Nodup := hd
  rw [List.nodup_append] at hlast
  exact hlast.2.2 u hu u (List.mem_singleton_self u) rfl

theorem FirstRevisited.unique (hu : h.FirstRevisited listed t u)
    (hv : h.FirstRevisited listed t v) : u = v := by
  rcases hu with ⟨path, hpath, hnodup, hmem⟩
  rcases hv with ⟨path', hpath', hnodup', hmem'⟩
  -- A walk without a repeat does not run past the end of one with a repeat.
  have hshort : ∀ {p q : List TypeId} {x : TypeId}, x ∈ t :: p → (t :: q).Nodup →
      ¬p ++ [x] <+: q := by
    intro p q x hx hq hpre
    exact not_nodup_of_mem hx (hq.sublist (hpre.sublist.cons_cons t))
  exact hpath.end_unique hpath' (hshort hmem hnodup') (hshort hmem' hnodup)

end Hierarchy

/-! ## Climbs -/

namespace Index

variable {h : Hierarchy} {i : Index h} {s t u : TypeId} {path : List TypeId}

theorem climbFrom_ascent {met : List String} {current : Option TypeId}
    (hs : h.supertype s = current) :
    h.Ascent i.members s (i.climbFrom met current).passed := by
  induction met, current using climb_induction i generalizing s with
  | ended met =>
      simpa using Hierarchy.ascent_nil s
  | outside met t ht =>
      simpa [climbFrom_of_not_mem met ht] using Hierarchy.ascent_nil s
  | back met t ht hm =>
      simpa [climbFrom_of_met ht hm] using Hierarchy.ascent_nil s
  | onward met t ht hm ih =>
      rw [climbFrom_of_unmet ht hm]
      exact Hierarchy.ascent_cons.2 ⟨⟨hs, ht⟩, ih rfl⟩

theorem climbFrom_nodup {met : List String} {current : Option TypeId} :
    (i.climbFrom met current).passed.Nodup := by
  induction met, current using climb_induction i with
  | ended met =>
      simp
  | outside met t ht =>
      simp [climbFrom_of_not_mem met ht]
  | back met t ht hm =>
      simp [climbFrom_of_met ht hm]
  | onward met t ht hm ih =>
      rw [climbFrom_of_unmet ht hm, List.nodup_cons]
      refine ⟨?_, ih⟩
      intro hagain
      exact (climbFrom_sound hagain).1 List.mem_cons_self

/-- After its last type an ended climb finds no step onto a listed type. -/
theorem climbFrom_ended {met : List String} {current : Option TypeId}
    (hs : h.supertype s = current) (hstop : (i.climbFrom met current).stop = .ended) :
    ¬h.Ascent i.members s ((i.climbFrom met current).passed ++ [u]) := by
  induction met, current using climb_induction i generalizing s with
  | ended met =>
      simp [Hierarchy.ascent_cons, Hierarchy.Extends, hs]
  | outside met t ht =>
      rw [climbFrom_of_not_mem met ht, List.nil_append, Hierarchy.ascent_cons]
      rintro ⟨⟨hu, hlisted⟩, _⟩
      rw [hs, Option.some.injEq] at hu
      exact ht (hu ▸ hlisted)
  | back met t ht hm =>
      simp [climbFrom_of_met ht hm] at hstop
  | onward met t ht hm ih =>
      rw [climbFrom_of_unmet ht hm] at hstop ⊢
      intro hgoes
      exact ih rfl hstop (Hierarchy.ascent_cons.1 hgoes).2

theorem climbFrom_revisits {met : List String} {current : Option TypeId}
    (hs : h.supertype s = current) (hstop : (i.climbFrom met current).stop = .revisits u) :
    h.Ascent i.members s ((i.climbFrom met current).passed ++ [u]) ∧ u ∈ i.members ∧
      (h.name u ∈ met ∨ u ∈ (i.climbFrom met current).passed) := by
  induction met, current using climb_induction i generalizing s with
  | ended met =>
      simp at hstop
  | outside met t ht =>
      simp [climbFrom_of_not_mem met ht] at hstop
  | back met t ht hm =>
      rw [climbFrom_of_met ht hm] at hstop ⊢
      cases hstop
      exact ⟨Hierarchy.ascent_cons.2 ⟨⟨hs, ht⟩, Hierarchy.ascent_nil u⟩, ht, Or.inl hm⟩
  | onward met t ht hm ih =>
      rw [climbFrom_of_unmet ht hm] at hstop ⊢
      rcases ih rfl hstop with ⟨hrest, hu, hmet⟩
      refine ⟨Hierarchy.ascent_cons.2 ⟨⟨hs, ht⟩, hrest⟩, hu, ?_⟩
      rcases hmet with hmet | hpassed
      · rcases List.mem_cons.1 hmet with hname | hmet
        · -- The climb is back at the type it has just passed.
          exact Or.inr (List.mem_cons.2 (Or.inl (name_injective hu ht hname)))
        · exact Or.inl hmet
      · exact Or.inr (List.mem_cons_of_mem t hpassed)

theorem climb_ascent (i : Index h) (t : TypeId) : h.Ascent i.members t (i.climb t).passed :=
  climbFrom_ascent rfl

theorem climb_nodup (ht : t ∈ i.members) : (t :: (i.climb t).passed).Nodup := by
  refine List.nodup_cons.2 ⟨?_, climbFrom_nodup⟩
  intro hself
  exact ((mem_climb_iff ht).1 hself).1 rfl

theorem climb_revisits (ht : t ∈ i.members) (hstop : (i.climb t).stop = .revisits u) :
    h.FirstRevisited i.members t u := by
  rcases climbFrom_revisits rfl hstop with ⟨hwalk, hu, hmet⟩
  refine ⟨(i.climb t).passed, hwalk, climb_nodup ht, List.mem_cons.2 ?_⟩
  rcases hmet with hmet | hpassed
  · exact Or.inl (name_injective hu ht (List.mem_singleton.1 hmet))
  · exact Or.inr hpassed

/-! ## How a climb stops -/

theorem prefix_climb_of_ended (hstop : (i.climb t).stop = .ended)
    (hpath : h.Ascent i.members t path) : path <+: (i.climb t).passed := by
  rcases hpath.prefix_or_prefix (climb_ascent i t) with hpre | ⟨rest, rfl⟩
  · exact hpre
  · cases rest with
    | nil =>
        simp
    | cons u rest =>
        have hnext : (i.climb t).passed ++ [u] <+: (i.climb t).passed ++ u :: rest :=
          ⟨rest, by simp⟩
        exact absurd (hpath.of_prefix hnext) (climbFrom_ended rfl hstop)

theorem stop_eq_ended_iff (ht : t ∈ i.members) :
    (i.climb t).stop = .ended ↔ ∀ path, h.Ascent i.members t path → (t :: path).Nodup := by
  constructor
  · intro hstop path hpath
    exact (climb_nodup ht).sublist
      ((prefix_climb_of_ended hstop hpath).sublist.cons_cons t)
  · intro hnodup
    cases hstop : (i.climb t).stop with
    | ended =>
        rfl
    | revisits u =>
        rcases climb_revisits ht hstop with ⟨path, hpath, _, hu⟩
        exact absurd (hnodup _ hpath) (Hierarchy.not_nodup_of_mem hu)

theorem stop_eq_revisits_iff (ht : t ∈ i.members) :
    (i.climb t).stop = .revisits u ↔ h.FirstRevisited i.members t u := by
  refine ⟨climb_revisits ht, ?_⟩
  intro hu
  cases hstop : (i.climb t).stop with
  | ended =>
      rcases hu with ⟨path, hpath, _, hmem⟩
      exact absurd ((stop_eq_ended_iff ht).1 hstop _ hpath) (Hierarchy.not_nodup_of_mem hmem)
  | revisits v =>
      rw [(climb_revisits ht hstop).unique hu]

end Index
end PartitionKeys
