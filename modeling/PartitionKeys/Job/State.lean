import PartitionKeys.Value.Basic

/-!
# State — the life of a job instance

The seven states are named, and stored, in capitals; the ordinal of a state is its place in the
declaration.

* `State.members`: all states, in order;
* `State.find?`: the state stored as a given value.
-/

namespace PartitionKeys

inductive State where
  | new
  | done
  | failed
  | deferred
  | dropped
  | running
  | removed
  deriving DecidableEq, Repr

namespace State

def members : List State :=
  [.new, .done, .failed, .deferred, .dropped, .running, .removed]

def name : State → String
  | .new => "NEW"
  | .done => "DONE"
  | .failed => "FAILED"
  | .deferred => "DEFERRED"
  | .dropped => "DROPPED"
  | .running => "RUNNING"
  | .removed => "REMOVED"

/-- A state is stored under its name. -/
def value (s : State) : String :=
  s.name

def ordinal : State → Nat
  | .new => 0
  | .done => 1
  | .failed => 2
  | .deferred => 3
  | .dropped => 4
  | .running => 5
  | .removed => 6

def find? (v : Value) : Option State :=
  v.text?.bind fun s => members.find? (fun m => m.value == s)

theorem mem_members (s : State) : s ∈ members := by
  cases s <;> decide

end State
end PartitionKeys
