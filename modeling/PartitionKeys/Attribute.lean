import PartitionKeys.Value.Basic

/-!
# Attribute — names that every object has

A few attributes belong to every object whatever its kind, and each takes values of one form only.

* `AttributeFault`: why such an attribute cannot be set;
* `AttributeFault.ofSetting?`: the fault of setting an attribute of an object to a value.
-/

namespace PartitionKeys

inductive AttributeFault where
  | notKind (kind : String)
  | notRecord (kind : String)
  | notWritable (owner name : String)
  | noSetter (owner name : String)
  deriving DecidableEq, Repr

namespace AttributeFault

/-- No value stands for a kind, and only a record can take the place of all attributes. -/
def ofSetting? (owner name : String) (value : Value) : Option AttributeFault :=
  match name, value with
  | "__class__", v => some (.notKind v.kind)
  | "__dict__", .record _ => none
  | "__dict__", v => some (.notRecord v.kind)
  | "__weakref__", _ => some (.notWritable owner name)
  | _, _ => none

def message : AttributeFault → String
  | .notKind kind => "__class__ must be set to a class, not '" ++ kind ++ "' object"
  | .notRecord kind => "__dict__ must be set to a dictionary, not a '" ++ kind ++ "'"
  | .notWritable owner name =>
      "attribute '" ++ name ++ "' of '" ++ owner ++ "' objects is not writable"
  | .noSetter owner name => "property '" ++ name ++ "' of '" ++ owner ++ "' object has no setter"

end AttributeFault
end PartitionKeys
