import Mathlib
import PartitionKeys.Proofs.Hierarchy.Fault
import PartitionKeys.Proofs.NameOrder

/-!
# Leaf — a catalog with one more type at its end

A new type that no listed type extends opens no way between the types that were listed before.  The
walks from them stay as they were, so a fault can only lie above the new type itself.

* `Hierarchy.Leaf`: a type of a name of its own that no listed type extends;
* `Hierarchy.Leaf.reaches_append`, `Hierarchy.Leaf.ascent_append`: the walks of the other types;
* `Hierarchy.Leaf.below_append`: the new type stands below what it reaches, and last;
* `Hierarchy.Leaf.blame_of_firstFault`: only the new type can be refused.
-/

namespace PartitionKeys

open scoped Classical

namespace Hierarchy

variable {h : Hierarchy} {catalog path : List TypeId} {t u r : TypeId}

/-- A type that a catalog can take in without a clash of names, below all that it lists. -/
structure Leaf (h : Hierarchy) (catalog : List TypeId) (t : TypeId) : Prop where
  name_ne : ∀ u ∈ catalog, h.name u ≠ h.name t
  supertype_ne : ∀ u ∈ catalog, h.supertype u ≠ some t

namespace Leaf

theorem not_mem (hleaf : h.Leaf catalog t) : t ∉ catalog :=
  fun ht => hleaf.name_ne t ht rfl

theorem ne_of_mem (hleaf : h.Leaf catalog t) (hu : u ∈ catalog) : u ≠ t := by
  rintro rfl
  exact hleaf.not_mem hu

/-! ## Walks -/

theorem extends_append (hleaf : h.Leaf catalog t) (hu : u ∈ catalog) :
    h.Extends (catalog ++ [t]) u r ↔ h.Extends catalog u r := by
  simp only [Extends, List.mem_append, List.mem_singleton]
  constructor
  · rintro ⟨hs, hr | rfl⟩
    · exact ⟨hs, hr⟩
    · exact absurd hs (hleaf.supertype_ne u hu)
  · rintro ⟨hs, hr⟩
    exact ⟨hs, Or.inl hr⟩

theorem reaches_append (hleaf : h.Leaf catalog t) (hu : u ∈ catalog) :
    h.Reaches (catalog ++ [t]) u r ↔ h.Reaches catalog u r := by
  constructor
  · intro hr
    -- Each step of the walk starts at a type that was listed before.
    induction hr using Relation.TransGen.head_induction_on with
    | single hs =>
        exact Relation.TransGen.single ((hleaf.extends_append hu).1 hs)
    | head hs _ ih =>
        have hold : h.Extends catalog _ _ := (hleaf.extends_append hu).1 hs
        exact Relation.TransGen.head hold (ih hold.2)
  · intro hr
    refine Relation.TransGen.mono ?_ _ _ hr
    rintro a b ⟨hs, hb⟩
    exact ⟨hs, List.mem_append_left [t] hb⟩

theorem ascent_append (hleaf : h.Leaf catalog t) (hu : u ∈ catalog) :
    h.Ascent (catalog ++ [t]) u path ↔ h.Ascent catalog u path := by
  induction path generalizing u with
  | nil =>
      exact iff_of_true (ascent_nil u) (ascent_nil u)
  | cons v path ih =>
      rw [ascent_cons, ascent_cons, hleaf.extends_append hu]
      exact and_congr_right fun hs => ih hs.2

theorem faulty_append (hleaf : h.Leaf catalog t) (hu : u ∈ catalog) :
    h.Faulty (catalog ++ [t]) u ↔ h.Faulty catalog u := by
  simp only [Faulty, hleaf.reaches_append hu, hleaf.ascent_append hu]

/-! ## Listed types -/

theorem eraseDups_append (hleaf : h.Leaf catalog t) :
    (catalog ++ [t]).eraseDups = catalog.eraseDups ++ [t] := by
  have hnew : [t].removeAll catalog = [t] := by
    simp [List.removeAll, hleaf.not_mem]
  rw [List.eraseDups_append, hnew]
  rfl

theorem distinctNames_append (hleaf : h.Leaf catalog t) (hd : h.DistinctNames catalog) :
    h.DistinctNames (catalog ++ [t]) :=
  distinct_append_singleton hd hleaf.name_ne

theorem below_append (hleaf : h.Leaf catalog t) (hp : h.isConcreteParticipant t = true)
    (hr : r ∈ catalog) :
    h.below (catalog ++ [t]) r =
      h.below catalog r ++ if h.Reaches (catalog ++ [t]) t r then [t] else [] := by
  -- Which of the old types stand below `r` is not for `t` to change; `t` comes after them.
  have hold : (catalog.eraseDups.filter fun u =>
      h.isConcreteParticipant u = true ∧ u ≠ r ∧ h.Reaches (catalog ++ [t]) u r) =
        h.below catalog r := by
    apply List.filter_congr
    intro u hu
    rw [List.mem_eraseDups] at hu
    rw [hleaf.reaches_append hu]
  rw [below, hleaf.eraseDups_append, List.filter_append, hold, List.filter_singleton]
  simp [hp, (hleaf.ne_of_mem hr).symm]

/-- Nothing stands below the new type. -/
theorem below_self (hleaf : h.Leaf catalog t) : h.below (catalog ++ [t]) t = [] := by
  rw [List.eq_nil_iff_forall_not_mem]
  intro u hu
  rcases mem_below.1 hu with ⟨hlisted, _, hne, hr⟩
  have hmem : u ∈ catalog := by
    simpa [hne] using hlisted
  rw [hleaf.reaches_append hmem] at hr
  -- A walk within the catalog does not end outside it.
  rcases Relation.TransGen.tail'_iff.1 hr with ⟨_, _, hs⟩
  exact hleaf.not_mem hs.2

/-! ## Faults -/

theorem eq_of_firstFaulty (hleaf : h.Leaf catalog t)
    (hsound : ∀ u ∈ catalog, h.isConcreteParticipant u = true → ¬h.Faulty catalog u)
    (hu : h.FirstFaulty (catalog ++ [t]) u) (hfaulty : h.Faulty (catalog ++ [t]) u) : u = t := by
  rcases hu with ⟨front, back, hsplit, _⟩
  have hmem : u ∈ h.participants (catalog ++ [t]) := by
    simp [hsplit]
  rcases mem_participants.1 hmem with ⟨hlisted, hp⟩
  rcases List.mem_append.1 hlisted with hold | hnew
  · exact absurd ((hleaf.faulty_append hold).1 hfaulty) (hsound u hold hp)
  · exact List.mem_singleton.1 hnew

/-- A fault above the new type is all that can be wrong with a catalog that had none. -/
theorem blame_of_firstFault (hleaf : h.Leaf catalog t) (hd : h.DistinctNames catalog)
    (hsound : ∀ u ∈ catalog, h.isConcreteParticipant u = true → ¬h.Faulty catalog u) {x : Fault}
    (hx : h.FirstFault (catalog ++ [t]) x) :
    x.subject = t ∧
      (x.kind = .classification ∧ (∃ a, h.Reaches (catalog ++ [t]) t a ∧ h.Offends t a) ∨
        x.kind = .invalidCatalog ∧ ∀ a, h.Reaches (catalog ++ [t]) t a → ¬h.Offends t a) := by
  cases x with
  | sharedName u =>
      rcases hx with ⟨front, back, hsplit, _, v, hv, hname, hne⟩
      have hall : h.DistinctNames (catalog ++ [t]) := hleaf.distinctNames_append hd
      rw [hsplit] at hall
      exact absurd (hall v (by simp [hv]) u (by simp) hname) hne
  | mixed u a =>
      rcases hx with ⟨_, hu, ha⟩
      have hut : u = t := hleaf.eq_of_firstFaulty hsound hu ha.faulty
      subst hut
      rcases ha with ⟨front, hwalk, hoff, _⟩
      exact ⟨rfl, Or.inl ⟨rfl, a, hwalk.reaches (by simp), hoff⟩⟩
  | cyclic u v =>
      rcases hx with ⟨_, hu, hnone, hv⟩
      have hut : u = t := hleaf.eq_of_firstFaulty hsound hu hv.faulty
      subst hut
      exact ⟨rfl, Or.inr ⟨rfl, hnone⟩⟩

end Leaf
end Hierarchy

namespace Coverage

variable {h : Hierarchy} {catalog : List TypeId} {t : TypeId} {c : Coverage}

theorem exists_ofCatalog_append_iff (hc : (Coverage.ofCatalog h catalog).result = .ok c)
    (hleaf : h.Leaf catalog t) (hp : h.isConcreteParticipant t = true) :
    (∃ c', (Coverage.ofCatalog h (catalog ++ [t])).result = .ok c') ↔
      ¬h.Faulty (catalog ++ [t]) t := by
  rcases exists_ofCatalog_iff.1 ⟨c, hc⟩ with ⟨hd, hsound⟩
  rw [exists_ofCatalog_iff]
  constructor
  · rintro ⟨_, hall⟩
    exact hall t (by simp) hp
  · intro ht
    refine ⟨hleaf.distinctNames_append hd, ?_⟩
    intro u hu hpu
    rcases List.mem_append.1 hu with hold | hnew
    · rw [hleaf.faulty_append hold]
      exact hsound u hold hpu
    · rwa [List.mem_singleton.1 hnew]

/-- A catalog refused for its new type is refused with a report on that type. -/
theorem report_of_ofCatalog_append (hc : (Coverage.ofCatalog h catalog).result = .ok c)
    (hleaf : h.Leaf catalog t) {f : Failure}
    (hf : (Coverage.ofCatalog h (catalog ++ [t])).result = .error f) :
    ∃ report, f.report? = some report ∧ report.context.typeName = .text (h.name t) ∧
      (report.kind = .classification ∧
          (∃ a, h.Reaches (catalog ++ [t]) t a ∧ h.Offends t a) ∨
        report.kind = .invalidCatalog ∧
          ∀ a, h.Reaches (catalog ++ [t]) t a → ¬h.Offends t a) := by
  rcases exists_ofCatalog_iff.1 ⟨c, hc⟩ with ⟨hd, hsound⟩
  rcases ofCatalog_eq_error.1 hf with ⟨x, hx, rfl⟩
  rcases hleaf.blame_of_firstFault hd hsound hx with ⟨hsubject, hkind⟩
  rcases Hierarchy.Fault.report?_failure h x with ⟨report, hreport, hk, hname, _⟩
  rw [← hk] at hkind
  rw [hsubject] at hname
  exact ⟨report, hreport, hname, hkind⟩

end Coverage
end PartitionKeys
