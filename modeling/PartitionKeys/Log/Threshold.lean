import PartitionKeys.Text.LetterCase
import PartitionKeys.Value.Basic

/-!
# Threshold — the least level a journal writes, by name

Names of levels are read in any letter case.  Two further names are known without being levels.

* `Threshold.ofName`: the rank of the least level written, or the fault.
-/

namespace PartitionKeys

inductive LevelFault where
  | unknown (name : String)
  | notText (kind : String)
  | formatName
  | styleTable
  deriving DecidableEq, Repr

namespace LevelFault

def message : LevelFault → String
  | .unknown name => "module 'logging' has no attribute '" ++ name ++ "'"
  | .notText kind => "'" ++ kind ++ "' object has no attribute 'upper'"
  | .formatName => Quoted.text "%(levelname)s:%(name)s:%(message)s"
  | .styleTable => "unhashable type: 'dict'"

end LevelFault

namespace Threshold

def ranks : List (String × Nat) :=
  [ ("CRITICAL", 50), ("FATAL", 50), ("ERROR", 40), ("WARNING", 30), ("WARN", 30), ("INFO", 20),
    ("DEBUG", 10), ("NOTSET", 0) ]

def ofUpper (name : String) : Except LevelFault Nat :=
  match ranks.lookup name with
  | some r => .ok r
  | none =>
      if name = "BASIC_FORMAT" then .error .formatName
      else if name = "_STYLES" then .error .styleTable
      else .error (.unknown name)

def ofName : Value → Except LevelFault Nat
  | .text s => ofUpper (LetterCase.upper s)
  | v => .error (.notText v.kind)

end Threshold
end PartitionKeys
