import PartitionKeys.Value.Basic

/-!
# Category — the part a record type plays for the job engine

A type describes triggers, instances, or takes no part.
-/

namespace PartitionKeys

inductive Category where
  | jobTrigger
  | jobInstance
  | neither
  deriving DecidableEq, Repr, Inhabited

namespace Category

def members : List Category :=
  [.jobTrigger, .jobInstance, .neither]

def name : Category → String
  | .jobTrigger => "TRIGGER"
  | .jobInstance => "INSTANCE"
  | .neither => "NONE"

def value : Category → String
  | .jobTrigger => "trigger"
  | .jobInstance => "instance"
  | .neither => "none"

def find? (v : Value) : Option Category :=
  v.text?.bind fun s => members.find? (fun m => m.value == s)

def participates (c : Category) : Bool :=
  c != .neither

theorem mem_members (c : Category) : c ∈ members := by
  cases c <;> decide

end Category
end PartitionKeys
