import PartitionKeys.Failure
import PartitionKeys.Job.Policy

/-!
# Classification — the category of a type from its markers

* `Category.classify`: a marker on its own decides; with both, the policy does, or the type is
  refused as ambiguous;
* `classify_error_iff`: a type is refused exactly when it has both markers and no policy prefers
  one.
-/

namespace PartitionKeys
namespace Category

/-- Without a policy, ambiguous types are refused. -/
def classify (name : Value) (isTrigger isInstance : Bool) (policy : Option Policy) :
    Except Failure Category :=
  match isTrigger, isInstance with
  | true, true =>
      match policy with
      | some .preferTrigger => .ok .jobTrigger
      | some .preferInstance => .ok .jobInstance
      | _ => .error (.ambiguousType name)
  | true, false => .ok .jobTrigger
  | false, true => .ok .jobInstance
  | false, false => .ok .neither

theorem classify_error_iff {name : Value} {isTrigger isInstance : Bool} {policy : Option Policy} :
    (∃ f, classify name isTrigger isInstance policy = .error f) ↔
      isTrigger = true ∧ isInstance = true ∧
        policy ≠ some .preferTrigger ∧ policy ≠ some .preferInstance := by
  constructor
  · rintro ⟨f, hf⟩
    cases isTrigger <;> cases isInstance <;> simp only [classify, reduceCtorEq] at hf
    refine ⟨rfl, rfl, ?_, ?_⟩ <;> rintro rfl <;> simp at hf
  · rintro ⟨rfl, rfl, ht, hi⟩
    refine ⟨.ambiguousType name, ?_⟩
    cases policy with
    | none =>
        rfl
    | some p =>
        cases p with
        | reject =>
            rfl
        | preferTrigger =>
            exact absurd rfl ht
        | preferInstance =>
            exact absurd rfl hi

end Category
end PartitionKeys
