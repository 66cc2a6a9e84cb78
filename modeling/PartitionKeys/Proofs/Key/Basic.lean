import PartitionKeys.Key.Basic
import PartitionKeys.Proofs.Hierarchy.Coverage

/-!
# PartitionKey — the key of a participant, by what reaches it

Whether a key needs a predicate is decided by comparing the covered types with the representative,
not by counting them.  The two agree because a participant stands once, and first, in what it
covers.

* `Hierarchy.keyFor`: the key of a representative, told without coverage entries;
* `Hierarchy.mem_keyFor_covered`: the names it covers;
* `Hierarchy.keyFor_predicate`: its predicate, if another participant reaches it.
-/

namespace PartitionKeys

/-! ## Categories -/

/-- The bindings of a category; a type that takes no part needs none. -/
def AttributeBindings.ofCategory (b : AttributeBindings) : Category → CategoryBindings
  | .jobTrigger => b.trigger
  | .jobInstance => b.instances
  | .neither => {}

namespace Hierarchy

variable {h : Hierarchy} {catalog : List TypeId} {b : AttributeBindings} {template : String}
  {r : TypeId}

/-- The concrete types of a category, by first occurrence. -/
def concrete (h : Hierarchy) (catalog : List TypeId) (c : Category) : List TypeId :=
  catalog.eraseDups.filter fun t => !h.isAbstract t && h.category t == c

theorem mem_concrete {c : Category} :
    r ∈ h.concrete catalog c ↔ r ∈ catalog ∧ h.isAbstract r = false ∧ h.category r = c := by
  simp [concrete]

theorem isConcreteParticipant_of_mem_concrete {c : Category} (hc : c ≠ .neither)
    (hr : r ∈ h.concrete catalog c) : h.isConcreteParticipant r = true := by
  rcases mem_concrete.1 hr with ⟨_, ha, rfl⟩
  exact isConcreteParticipant_iff.2 ⟨ha, hc⟩

/-! ## Keys of participants -/

noncomputable def keyFor (h : Hierarchy) (catalog : List TypeId) (b : AttributeBindings)
    (template : String) (r : TypeId) : PartitionKey :=
  PartitionKey.ofEntry h (b.ofCategory (h.category r)) template ⟨r, h.covered catalog r⟩

@[simp] theorem keyFor_name : (h.keyFor catalog b template r).name = h.name r :=
  rfl

theorem covered_of_participant (hp : h.isConcreteParticipant r = true) :
    h.covered catalog r = r :: h.below catalog r :=
  if_pos hp

theorem keyFor_covered (hp : h.isConcreteParticipant r = true) :
    (h.keyFor catalog b template r).covered = h.name r :: (h.below catalog r).map h.name := by
  show (h.covered catalog r).map h.name = _
  rw [covered_of_participant hp, List.map_cons]

theorem mem_keyFor_covered (hr : r ∈ catalog) {n : String} :
    n ∈ (h.keyFor catalog b template r).covered ↔
      ∃ t ∈ catalog, h.isConcreteParticipant t = true ∧ h.Under catalog t r ∧ h.name t = n := by
  show n ∈ (h.covered catalog r).map h.name ↔ _
  simp only [List.mem_map, mem_covered hr, and_assoc]

/-! ## Predicates -/

theorem any_covered_iff (hp : h.isConcreteParticipant r = true) :
    (h.covered catalog r).any (· != r) = true ↔ h.below catalog r ≠ [] := by
  -- The first covered type is `r`, so only those below it can differ from `r`.
  rw [covered_of_participant hp, List.any_cons]
  simp only [bne_self_eq_false, Bool.false_or, List.any_eq_true, bne_iff_ne]
  constructor
  · rintro ⟨t, ht, _⟩
    exact List.ne_nil_of_mem ht
  · intro hne
    rcases List.exists_mem_of_ne_nil _ hne with ⟨t, ht⟩
    exact ⟨t, ht, (mem_below.1 ht).2.2.1⟩

theorem keyFor_predicate (hp : h.isConcreteParticipant r = true) :
    (h.keyFor catalog b template r).predicate =
      if h.below catalog r = [] then none else some ⟨h.name r, template⟩ := by
  show (if (h.covered catalog r).any (· != r) = true then _ else _) = _
  by_cases hb : h.below catalog r = []
  · rw [if_neg (mt (any_covered_iff hp).1 (not_not.2 hb)), if_pos hb]
  · rw [if_pos ((any_covered_iff hp).2 hb), if_neg hb]

/-- The key of a participant, field by field. -/
theorem keyFor_eq (hp : h.isConcreteParticipant r = true) :
    h.keyFor catalog b template r =
      { name := h.name r
        category := h.category r
        bindings := b.ofCategory (h.category r)
        predicate := if h.below catalog r = [] then none else some ⟨h.name r, template⟩
        covered := h.name r :: (h.below catalog r).map h.name
        source := (h.get r).source } := by
  have hcovered : (h.keyFor catalog b template r).covered = _ := keyFor_covered hp
  rw [← keyFor_predicate (b := b) hp, ← hcovered]
  rfl

theorem keyFor_predicate_ne_none_iff (hp : h.isConcreteParticipant r = true) :
    (h.keyFor catalog b template r).predicate ≠ none ↔ h.below catalog r ≠ [] := by
  rw [keyFor_predicate hp]
  split
  · rename_i hb
    simp [hb]
  · rename_i hb
    simp [hb]

theorem one_lt_length_keyFor_covered_iff (hp : h.isConcreteParticipant r = true) :
    1 < (h.keyFor catalog b template r).covered.length ↔ h.below catalog r ≠ [] := by
  rw [keyFor_covered hp, List.length_cons, List.length_map, ← List.length_pos_iff]
  omega

end Hierarchy
end PartitionKeys
