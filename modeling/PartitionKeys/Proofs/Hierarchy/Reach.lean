import Mathlib.Logic.Relation
import PartitionKeys.Hierarchy.Basic

/-!
# Reach — supertype steps that stay inside a catalog

What a climb computes is measured against relations that mention neither names nor an index: a step
lands on the listed type itself, not merely on one of its name.

* `Hierarchy.Extends`: one supertype step that lands on a listed type;
* `Hierarchy.Reaches`: one or more such steps;
* `Hierarchy.Under`: the type itself, or a type that it reaches;
* `Hierarchy.reaches_congr`: the order of a catalog and its repeats play no part.
-/

namespace PartitionKeys
namespace Hierarchy

variable {h : Hierarchy} {listed listed' : List TypeId} {t u v : TypeId}

/-! ## Relations -/

def Extends (h : Hierarchy) (listed : List TypeId) (t u : TypeId) : Prop :=
  h.supertype t = some u ∧ u ∈ listed

def Reaches (h : Hierarchy) (listed : List TypeId) : TypeId → TypeId → Prop :=
  Relation.TransGen (h.Extends listed)

/-- A type is under itself and under all that it reaches. -/
def Under (h : Hierarchy) (listed : List TypeId) (t u : TypeId) : Prop :=
  t = u ∨ h.Reaches listed t u

theorem under_iff_reflTransGen :
    h.Under listed t u ↔ Relation.ReflTransGen (h.Extends listed) t u := by
  rw [Relation.reflTransGen_iff_eq_or_transGen, Under, Reaches, eq_comm]

/-! ## Members of a catalog -/

/-- Only which types are listed matters, not in which order or how often. -/
theorem extends_congr (hm : ∀ a, a ∈ listed ↔ a ∈ listed') :
    h.Extends listed = h.Extends listed' := by
  funext t u
  simp only [Extends, hm]

theorem reaches_congr (hm : ∀ a, a ∈ listed ↔ a ∈ listed') :
    h.Reaches listed = h.Reaches listed' := by
  simp only [Reaches, extends_congr hm]

/-! ## Composing climbs -/

theorem Under.refl (t : TypeId) : h.Under listed t t :=
  Or.inl rfl

theorem Reaches.under (hr : h.Reaches listed t u) : h.Under listed t u :=
  Or.inr hr

/-- A step followed by a climb is a climb of one step at least. -/
theorem Extends.reaches (hs : h.Extends listed t u) (hu : h.Under listed u v) :
    h.Reaches listed t v :=
  Relation.TransGen.head' hs (under_iff_reflTransGen.1 hu)

end Hierarchy
end PartitionKeys
