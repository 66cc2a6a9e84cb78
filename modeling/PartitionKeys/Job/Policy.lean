import PartitionKeys.Value.Basic

/-!
# Policy — what becomes of a type that is marked both as a trigger and as an instance
-/

namespace PartitionKeys

inductive Policy where
  | reject
  | preferTrigger
  | preferInstance
  deriving DecidableEq, Repr

namespace Policy

def members : List Policy :=
  [.reject, .preferTrigger, .preferInstance]

def name : Policy → String
  | .reject => "REJECT"
  | .preferTrigger => "PREFER_TRIGGER"
  | .preferInstance => "PREFER_INSTANCE"

def value : Policy → String
  | .reject => "reject"
  | .preferTrigger => "prefer_trigger"
  | .preferInstance => "prefer_instance"

def find? (v : Value) : Option Policy :=
  v.text?.bind fun s => members.find? (fun m => m.value == s)

theorem mem_members (p : Policy) : p ∈ members := by
  cases p <;> decide

end Policy
end PartitionKeys
