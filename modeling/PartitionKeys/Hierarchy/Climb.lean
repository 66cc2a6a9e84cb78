import PartitionKeys.Hierarchy.Index

/-!
# Climb — the listed supertypes of a type, nearest first

A climb follows supertype links as long as they land on listed types.  It ends where a link is
missing or leaves the catalog, or where it comes back to a type already met; every step takes a
name of the index that was not met before, so it does end.

* `Index.unmet_cons_length_lt`: a listed type that was not met leaves fewer to meet;
* `Index.climb`: the types passed, and how the climb stopped.
-/

namespace PartitionKeys

inductive Stop where
  | ended
  | revisits (t : TypeId)
  deriving DecidableEq, Repr

structure Climb where
  passed : List TypeId
  stop : Stop
  deriving DecidableEq, Repr

namespace Index

variable {h : Hierarchy}

/-! ## Climbing -/

/-- The members whose names have not been met. -/
def unmet (i : Index h) (met : List String) : List TypeId :=
  i.members.filter fun t => !met.contains (h.name t)

theorem unmet_cons_length_lt {i : Index h} {met : List String} {t : TypeId}
    (hl : i.lists t = true) (hm : met.contains (h.name t) = false) :
    (i.unmet (h.name t :: met)).length < (i.unmet met).length := by
  have hsub : i.unmet (h.name t :: met) = (i.unmet met).filter fun u => h.name u != h.name t := by
    simp only [unmet, List.filter_filter]
    congr 1
    funext u
    simp only [List.contains_cons, bne]
    cases h.name u == h.name t <;> simp
  rw [hsub]
  apply List.length_filter_lt_length_iff_exists.2
  refine ⟨t, ?_, by simp⟩
  rw [unmet, List.mem_filter]
  exact ⟨lists_iff.1 hl, by simpa using hm⟩

def climbFrom (i : Index h) (met : List String) (current : Option TypeId) : Climb :=
  match current with
  | none => ⟨[], .ended⟩
  | some t =>
      if _hl : i.lists t = true then
        if _hm : met.contains (h.name t) = true then ⟨[], .revisits t⟩
        else
          let further := i.climbFrom (h.name t :: met) (h.supertype t)
          ⟨t :: further.passed, further.stop⟩
      else ⟨[], .ended⟩
termination_by (i.unmet met).length
decreasing_by
  exact unmet_cons_length_lt _hl (by simpa using _hm)

def climb (i : Index h) (t : TypeId) : Climb :=
  i.climbFrom [h.name t] (h.supertype t)

/-! ## Steps of a climb -/

@[simp] theorem climbFrom_none (i : Index h) (met : List String) :
    i.climbFrom met none = ⟨[], .ended⟩ := by
  rw [climbFrom]

theorem climbFrom_of_not_mem {i : Index h} {t : TypeId} (met : List String)
    (ht : t ∉ i.members) : i.climbFrom met (some t) = ⟨[], .ended⟩ := by
  rw [climbFrom, dif_neg (mt lists_iff.1 ht)]

theorem climbFrom_of_met {i : Index h} {met : List String} {t : TypeId} (ht : t ∈ i.members)
    (hm : h.name t ∈ met) : i.climbFrom met (some t) = ⟨[], .revisits t⟩ := by
  rw [climbFrom, dif_pos (lists_iff.2 ht), dif_pos (by simpa using hm)]

theorem climbFrom_of_unmet {i : Index h} {met : List String} {t : TypeId} (ht : t ∈ i.members)
    (hm : h.name t ∉ met) :
    i.climbFrom met (some t) =
      ⟨t :: (i.climbFrom (h.name t :: met) (h.supertype t)).passed,
        (i.climbFrom (h.name t :: met) (h.supertype t)).stop⟩ := by
  rw [climbFrom, dif_pos (lists_iff.2 ht), dif_neg (by simpa using hm)]

/-- A climb is at its end, has left the catalog, is back at a type met, or passes a type. -/
@[elab_as_elim]
theorem climb_induction (i : Index h) {motive : List String → Option TypeId → Prop}
    (ended : ∀ met, motive met none)
    (outside : ∀ met t, t ∉ i.members → motive met (some t))
    (back : ∀ met t, t ∈ i.members → h.name t ∈ met → motive met (some t))
    (onward : ∀ met t, t ∈ i.members → h.name t ∉ met →
      motive (h.name t :: met) (h.supertype t) → motive met (some t))
    (met : List String) (current : Option TypeId) : motive met current := by
  induction met, current using climbFrom.induct (i := i) with
  | case1 met => exact ended met
  | case2 met t hl hm => exact back met t (lists_iff.1 hl) (by simpa using hm)
  | case3 met t hl hm ih => exact onward met t (lists_iff.1 hl) (by simpa using hm) ih
  | case4 met t hl => exact outside met t (mt lists_iff.2 hl)

end Index
end PartitionKeys
