import PartitionKeys.Job.State

/-!
# StateMapper — how a job state is stored

A mapper turns a state into what storage holds for it: the state itself, its name, its value, its
ordinal, or whatever a function found by its import path makes of it.

* `StateMapper.run`: the stored form, or the words with which an imported function refuses;
* `StateMapper.path`: where the mapper can be imported from, which identifies it;
* `StateMapper.named`: the mappers known by a short name.
-/

namespace PartitionKeys

inductive Stored where
  | state (s : State)
  | value (v : Value)

structure ImportedMapper where
  path : String
  apply : State → Except String Value

inductive StateMapper where
  | identity
  | name
  | value
  | ordinal
  | imported (m : ImportedMapper)

namespace StateMapper

def run : StateMapper → State → Except String Stored
  | .identity, s => .ok (.state s)
  | .name, s => .ok (.value (.text s.name))
  | .value, s => .ok (.value (.text s.value))
  | .ordinal, s => .ok (.value (.int s.ordinal))
  | .imported m, s => (m.apply s).map .value

def path : StateMapper → String
  | .identity => "jobspine.partitioning.bindings:identity_state"
  | .name => "jobspine.partitioning.bindings:state_name"
  | .value => "jobspine.partitioning.bindings:state_value"
  | .ordinal => "jobspine.partitioning.bindings:state_ordinal"
  | .imported m => m.path

def same (a b : StateMapper) : Bool :=
  a.path == b.path

def named : List (String × StateMapper) :=
  [("identity", .identity), ("name", .name), ("value", .value), ("ordinal", .ordinal)]

end StateMapper
end PartitionKeys
