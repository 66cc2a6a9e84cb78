import Mathlib.Data.List.Perm.Subperm
import PartitionKeys.Hierarchy.Coverage
import PartitionKeys.Proofs.Hierarchy.Ascent

/-!
# Extent — how far a climb goes and what it stops at

The types that a climb passes are listed, distinct and not where it began.  So there are fewer of
them than listed types, and every climb stops, whatever circles the links form: either the way up
is over or leads out of the catalog, or it is back at a type met before.  A climb knows the types
it has met by name, which is as good as knowing them themselves, since every type it meets is the
listed one of its name.

* `Index.climbKnowing`: the climb that remembers the types met, not their names;
* `Index.climbFrom_names`: both climbs are the same;
* `Index.stop_eq_ended_iff_exists_top`: a climb ends below a step that lands on no listed type;
* `Index.climb_stops`: what a climb passes, how many types at most, and what it stops at.
-/

namespace PartitionKeys

/-! ## Both ends of an ascent -/

namespace Hierarchy

variable {h : Hierarchy} {listed : List TypeId} {t u w : TypeId} {path : List TypeId}

/-- Below the end of an ascent every type has a step onto a listed type. -/
theorem Ascent.exists_extends_of_mem (ha : h.Ascent listed t (path ++ [w])) (hu : u ∈ t :: path) :
    ∃ v, h.Extends listed u v := by
  induction path generalizing t with
  | nil =>
      have hut : u = t := List.mem_singleton.1 hu
      subst hut
      exact ⟨w, (ascent_cons.1 ha).1⟩
  | cons v path ih =>
      rcases ascent_cons.1 ha with ⟨hs, hrest⟩
      rcases List.mem_cons.1 hu with rfl | hu
      · exact ⟨v, hs⟩
      · exact ih hrest hu

/-- An ascent has a last type, and whatever step that has makes the ascent longer. -/
theorem Ascent.exists_last (ha : h.Ascent listed t path) :
    ∃ u, h.Under listed t u ∧ ∀ v, h.Extends listed u v → h.Ascent listed t (path ++ [v]) := by
  induction path generalizing t with
  | nil =>
      refine ⟨t, Under.refl t, ?_⟩
      intro v hv
      exact ascent_cons.2 ⟨hv, ascent_nil v⟩
  | cons w path ih =>
      rcases ascent_cons.1 ha with ⟨hs, hrest⟩
      rcases ih hrest with ⟨u, hu, hlonger⟩
      refine ⟨u, (hs.reaches hu).under, ?_⟩
      intro v hv
      exact ascent_cons.2 ⟨hs, hlonger v hv⟩

end Hierarchy

namespace Index

variable {h : Hierarchy} {i : Index h} {t u : TypeId}

/-! ## Knowing the types met -/

/-- The members that have not been met themselves. -/
def unknown (i : Index h) (met : List TypeId) : List TypeId :=
  i.members.filter fun t => !met.contains t

theorem unknown_cons_length_lt {met : List TypeId} (ht : t ∈ i.members) (hm : t ∉ met) :
    (i.unknown (t :: met)).length < (i.unknown met).length := by
  have hsub : i.unknown (t :: met) = (i.unknown met).filter fun u => u != t := by
    simp only [unknown, List.filter_filter]
    congr 1
    funext u
    simp only [List.contains_cons, bne]
    cases u == t <;> simp
  rw [hsub]
  apply List.length_filter_lt_length_iff_exists.2
  refine ⟨t, ?_, by simp⟩
  rw [unknown, List.mem_filter]
  exact ⟨ht, by simpa using hm⟩

def climbKnowing (i : Index h) (met : List TypeId) (current : Option TypeId) : Climb :=
  match current with
  | none => ⟨[], .ended⟩
  | some t =>
      if _hl : t ∈ i.members then
        if _hm : t ∈ met then ⟨[], .revisits t⟩
        else
          let further := i.climbKnowing (t :: met) (h.supertype t)
          ⟨t :: further.passed, further.stop⟩
      else ⟨[], .ended⟩
termination_by (i.unknown met).length
decreasing_by
  exact unknown_cons_length_lt _hl _hm

/-- Among listed types those that have been met are told by their names. -/
theorem name_mem_map_iff {met : List TypeId} (hmet : met ⊆ i.members) (ht : t ∈ i.members) :
    h.name t ∈ met.map h.name ↔ t ∈ met := by
  constructor
  · intro hname
    rcases List.mem_map.1 hname with ⟨u, hu, heq⟩
    have hut : u = t := name_injective (hmet hu) ht heq
    exact hut ▸ hu
  · intro hm
    exact List.mem_map_of_mem hm

theorem climbFrom_names {met : List TypeId} {current : Option TypeId} (hmet : met ⊆ i.members) :
    i.climbFrom (met.map h.name) current = i.climbKnowing met current := by
  induction met, current using climbKnowing.induct (i := i) with
  | case1 met =>
      rw [climbFrom_none, climbKnowing]
  | case2 met t ht hm =>
      have hname : h.name t ∈ met.map h.name := (name_mem_map_iff hmet ht).2 hm
      rw [climbFrom_of_met ht hname, climbKnowing, dif_pos ht, dif_pos hm]
  | case3 met t ht hm ih =>
      have hname : h.name t ∉ met.map h.name := mt (name_mem_map_iff hmet ht).1 hm
      -- The type met last is listed too, so the rest of the climb has the same premise.
      have hfurther : i.climbFrom (h.name t :: met.map h.name) (h.supertype t) =
          i.climbKnowing (t :: met) (h.supertype t) :=
        ih (List.cons_subset.2 ⟨ht, hmet⟩)
      rw [climbFrom_of_unmet ht hname, hfurther, climbKnowing, dif_pos ht, dif_neg hm]
  | case4 met t ht =>
      rw [climbFrom_of_not_mem _ ht, climbKnowing, dif_neg ht]

/-! ## What a climb stops at -/

theorem find?_name_eq_some_iff : i.find? (h.name t) = some t ↔ t ∈ i.members := by
  constructor
  · intro hfind
    exact List.mem_of_find?_eq_some hfind
  · intro ht
    exact find?_of_mem ht

/-- A climb that ends has come to a type without a step onto a listed type, and a climb that comes
under such a type is in no circle. -/
theorem stop_eq_ended_iff_exists_top (ht : t ∈ i.members) :
    (i.climb t).stop = .ended ↔ ∃ u, h.Under i.members t u ∧ ∀ v, ¬h.Extends i.members u v := by
  constructor
  · intro hstop
    rcases (climb_ascent i t).exists_last with ⟨u, hu, hlonger⟩
    refine ⟨u, hu, ?_⟩
    intro v hv
    exact climbFrom_ended rfl hstop (hlonger v hv)
  · rintro ⟨u, hu, htop⟩
    cases hstop : (i.climb t).stop with
    | ended => rfl
    | revisits w =>
        have hwalk : h.Ascent i.members t ((i.climb t).passed ++ [w]) :=
          (climbFrom_revisits rfl hstop).1
        have hmet : u ∈ t :: (i.climb t).passed := by
          by_cases htu : t = u
          · exact htu ▸ List.mem_cons_self
          · have hr : h.Reaches i.members t u := hu.resolve_left htu
            exact List.mem_cons_of_mem t ((mem_climb_iff ht).2 ⟨htu, hr⟩)
        rcases hwalk.exists_extends_of_mem hmet with ⟨v, hv⟩
        exact absurd hv (htop v)

/-- A climb is back where it was when the step after the last type passed lands on its start or on
a type passed. -/
theorem stop_eq_revisits_iff_back (ht : t ∈ i.members) :
    (i.climb t).stop = .revisits u ↔
      u ∈ t :: (i.climb t).passed ∧ h.Ascent i.members t ((i.climb t).passed ++ [u]) := by
  constructor
  · intro hstop
    rcases climbFrom_revisits rfl hstop with ⟨hwalk, hu, hmet⟩
    refine ⟨?_, hwalk⟩
    rcases hmet with hname | hpassed
    · have hut : u = t := name_injective hu ht (List.mem_singleton.1 hname)
      exact hut ▸ List.mem_cons_self
    · exact List.mem_cons_of_mem t hpassed
  · rintro ⟨hmet, hwalk⟩
    exact (stop_eq_revisits_iff ht).2 ⟨_, hwalk, climb_nodup ht, hmet⟩

theorem line_of_revisits (hclash : ∀ a ∈ (i.climb t).passed, clashes h t a = false)
    (hstop : (i.climb t).stop = .revisits u) :
    i.line t = .error (.cyclicChain (h.name t) (h.name u)) := by
  have hnone : (i.climb t).passed.find? (clashes h t) = none := by
    simpa using hclash
  simp only [line, hnone, hstop]

/-! ## Climbs from listed types -/

theorem climb_subset_members : t ∈ i.members → t :: (i.climb t).passed ⊆ i.members := by
  intro ht u hu
  rcases List.mem_cons.1 hu with rfl | hu
  · exact ht
  · rcases Relation.TransGen.tail'_iff.1 ((mem_climb_iff ht).1 hu).2 with ⟨v, _, hlast⟩
    exact hlast.2

/-- A climb from a listed type passes the other listed types that it reaches, each once and the
nearest first, hence fewer than are listed.  It ends when the way up is over or leads to a type
that is not the listed one of its name, and is told to be cyclic when it is back at its start or
at a type passed.  All this is so whether types met are known by name or themselves. -/
theorem climb_stops (ht : t ∈ i.members) :
    (i.climb t).passed.length ≤ i.members.length - 1 ∧ (i.climb t).passed.Nodup ∧
      h.Ascent i.members t (i.climb t).passed ∧
      (∀ u, u ∈ (i.climb t).passed ↔ t ≠ u ∧ h.Reaches i.members t u) ∧
      ((i.climb t).stop = .ended ↔
        ∃ u, h.Under i.members t u ∧
          ∀ v, h.supertype u = some v → i.find? (h.name v) ≠ some v) ∧
      (∀ u, (i.climb t).stop = .revisits u ↔
        u ∈ t :: (i.climb t).passed ∧ h.Ascent i.members t ((i.climb t).passed ++ [u])) ∧
      (∀ u, (i.climb t).stop = .revisits u →
        (∀ a ∈ (i.climb t).passed, clashes h t a = false) →
          i.line t = .error (.cyclicChain (h.name t) (h.name u))) ∧
      i.climb t = i.climbKnowing [t] (h.supertype t) := by
  have hnodup : (t :: (i.climb t).passed).Nodup := climb_nodup ht
  have hlength : (i.climb t).passed.length + 1 ≤ i.members.length :=
    (List.Nodup.subperm hnodup (climb_subset_members ht)).length_le
  have hknown : [t] ⊆ i.members := List.cons_subset.2 ⟨ht, List.nil_subset _⟩
  refine ⟨by omega, (List.nodup_cons.1 hnodup).2, climb_ascent i t, fun _ => mem_climb_iff ht, ?_,
    fun _ => stop_eq_revisits_iff_back ht, fun _ hstop hclash => line_of_revisits hclash hstop,
    climbFrom_names hknown⟩
  rw [stop_eq_ended_iff_exists_top ht]
  simp only [Hierarchy.Extends, not_and, ne_eq, find?_name_eq_some_iff]

/-- The notes and their base stand in a circle above the memos.  The drafts extend memos that are
not the listed ones. -/
def memos : Hierarchy where
  descriptors :=
    #[ { name := "Memo", supertype := some 1, category := .jobTrigger },
       { name := "Note", supertype := some 2 },
       { name := "Base", isAbstract := true, supertype := some 1 },
       { name := "Memo", supertype := some 2 },
       { name := "Draft", supertype := some 3, category := .jobTrigger } ]

def memosIndex : Index memos where
  members := [4, 0, 2, 1]
  distinct := by decide

/-- The climb from the memos is back at the notes after all listed types on its way.  That from the
drafts ends at once, although the memos above them have the name of listed ones. -/
theorem climb_stops_memos :
    0 ∈ memosIndex.members ∧ 4 ∈ memosIndex.members ∧
      memosIndex.climb 0 = ⟨[1, 2], .revisits 1⟩ ∧
      memosIndex.line 0 = .error (.cyclicChain "Memo" "Note") ∧
      memosIndex.climbKnowing [0] (some 1) = ⟨[1, 2], .revisits 1⟩ ∧
      (memosIndex.climb 4).stop = .ended ∧
      ∃ u, memos.Under memosIndex.members 4 u ∧
        ∀ v, memos.supertype u = some v → memosIndex.find? (memos.name v) ≠ some v := by
  have hmemo : 0 ∈ memosIndex.members := by decide
  have hdraft : 4 ∈ memosIndex.members := by decide
  have hclimb : memosIndex.climb 0 = ⟨[1, 2], .revisits 1⟩ := by cbv
  have hstop : (memosIndex.climb 0).stop = .revisits 1 := congrArg Climb.stop hclimb
  have hclash : ∀ a ∈ (memosIndex.climb 0).passed, clashes memos 0 a = false := by
    rw [hclimb]
    decide
  have hended : (memosIndex.climb 4).stop = .ended := by cbv
  rcases climb_stops hmemo with ⟨_, _, _, _, _, _, hcyclic, hknowing⟩
  rcases climb_stops hdraft with ⟨_, _, _, _, htop, _⟩
  exact ⟨hmemo, hdraft, hclimb, hcyclic 1 hstop hclash, hknowing.symm.trans hclimb, hended,
    htop.1 hended⟩

end Index
end PartitionKeys
