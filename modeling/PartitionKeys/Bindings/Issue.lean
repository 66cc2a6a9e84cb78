import PartitionKeys.Job.Policy

/-!
# Issue — what a validation finds wrong, and where

A validation checks every field and collects its issues in the order of the fields; the location
of an issue is the path of field names that leads to it.
-/

namespace PartitionKeys

inductive Problem where
  | notText
  | notRecord (model : String)
  | notPolicy
  | refused (message : String)
  | frozen
  deriving DecidableEq, Repr

namespace Problem

def type : Problem → String
  | .notText => "string_type"
  | .notRecord _ => "model_type"
  | .notPolicy => "enum"
  | .refused _ => "value_error"
  | .frozen => "frozen_instance"

def message : Problem → String
  | .notText => "Input should be a valid string"
  | .notRecord model => "Input should be a valid dictionary or instance of " ++ model
  | .notPolicy => "Input should be 'reject', 'prefer_trigger' or 'prefer_instance'"
  | .refused message => "Value error, " ++ message
  | .frozen => "Instance is frozen"

end Problem

structure Issue where
  location : List String
  problem : Problem
  deriving DecidableEq, Repr

/-- The same issue inside a field. -/
def Issue.within (field : String) (i : Issue) : Issue :=
  { i with location := field :: i.location }

end PartitionKeys
