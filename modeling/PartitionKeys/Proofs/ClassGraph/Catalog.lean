import PartitionKeys.ClassGraph.Catalog

/-!
# Catalog — classes by their markers

* `ClassCatalog.classify_eq_error`: only classes with both markers are refused;
* `ClassCatalog.classify_ne_neither`: whatever the policy, a class with a marker takes part;
* `ClassCatalog.classify_rejecting`: where none is preferred, a category is a marker.
-/

namespace PartitionKeys
namespace ClassCatalog

variable {c : ClassCatalog} {f : Failure} {k : ClassId} {category : Category}

/-- Only a class with both markers is refused, and only where no policy prefers one. -/
theorem classify_eq_error :
    c.classify k = .error f ↔
      c.lineages.isSubclass k c.triggerMarker = true ∧
        c.lineages.isSubclass k c.instanceMarker = true ∧ c.policy = .reject ∧
          f = .ambiguousType (.text (c.nameOf k)) := by
  rw [classify]
  cases c.lineages.isSubclass k c.triggerMarker <;>
    cases c.lineages.isSubclass k c.instanceMarker <;>
    cases c.policy <;>
    simp [Category.classify, eq_comm]

/-- Whatever the policy, a class with a marker takes part once it is classified. -/
theorem classify_ne_neither (hcat : c.classify k = .ok category) :
    category ≠ .neither ↔
      c.lineages.isSubclass k c.triggerMarker = true ∨
        c.lineages.isSubclass k c.instanceMarker = true := by
  rw [classify] at hcat
  cases ht : c.lineages.isSubclass k c.triggerMarker <;>
    cases hi : c.lineages.isSubclass k c.instanceMarker <;>
    cases hp : c.policy <;>
    simp only [ht, hi, hp, Category.classify, Except.ok.injEq, reduceCtorEq] at hcat <;>
    simp [← hcat]

/-- A class has at most one marker then, which is its category. -/
theorem classify_rejecting (hpolicy : c.policy = .reject) (hcat : c.classify k = .ok category) :
    (category = .jobTrigger ↔ c.lineages.isSubclass k c.triggerMarker = true) ∧
      (category = .jobInstance ↔ c.lineages.isSubclass k c.instanceMarker = true) := by
  rw [classify, hpolicy] at hcat
  cases ht : c.lineages.isSubclass k c.triggerMarker <;>
    cases hi : c.lineages.isSubclass k c.instanceMarker <;>
    simp only [ht, hi, Category.classify, Except.ok.injEq, reduceCtorEq] at hcat <;>
    simp [← hcat]

end ClassCatalog
end PartitionKeys
