import PartitionKeys.Attribute
import PartitionKeys.Signature

/-!
# Context — what a report is about

A context names the type being processed, its supertype and the setting involved, and carries any
further entries as metadata.

* `Context.put`: records one entry;
* `Context.merge`: entries with metadata of any form, which wins;
* `Context.rendered`: the entries that are not null, then the metadata.
-/

namespace PartitionKeys

structure Context where
  typeName : Value := .null
  supertype : Value := .null
  setting : Value := .null
  /-- Absent once all attributes have been replaced by a record without it. -/
  metadata : Option Value := some (.record [])
  /-- Attributes put under other standing names. -/
  others : Fields := []
  deriving Inhabited

namespace Context

/-! ## Faults -/

inductive Fault where
  | arguments (fault : Signature.Fault)
  | attribute (fault : AttributeFault)
  | noMetadata
  | noEntries (kind : String)
  | textAsPosition
  | notCallable (kind : String)
  | notIterable (kind : String)
  | notSequence (position : Nat)
  | notPair (position length : Nat)
  | unhashable (kind : String)
  deriving DecidableEq, Repr

def kindName : String :=
  "ErrorContext"

def Fault.message : Fault → String
  | .arguments fault => fault.message
  | .attribute fault => fault.message
  | .noMetadata => "'" ++ kindName ++ "' object has no attribute 'metadata'"
  | .noEntries kind => "'" ++ kind ++ "' object does not support item assignment"
  | .textAsPosition => "list indices must be integers or slices, not str"
  | .notCallable kind => "'" ++ kind ++ "' object is not callable"
  | .notIterable kind => "'" ++ kind ++ "' object is not iterable"
  | .notSequence position =>
      "cannot convert dictionary update sequence element #" ++ toString position ++
        " to a sequence"
  | .notPair position length =>
      "dictionary update sequence element #" ++ toString position ++ " has length " ++
        toString length ++ "; 2 is required"
  | .unhashable kind => "unhashable type: '" ++ kind ++ "'"

/-! ## Reading -/

def entryNames : List String :=
  ["type_name", "supertype", "setting", "metadata"]

def signature : Signature where
  operation := kindName ++ ".__init__"
  positional := "self" :: entryNames
  optional := entryNames.length

/-- A context whose attributes are exactly those of a record. -/
def ofAttributes (own : Fields) : Context where
  typeName := (own.get? "type_name").getD .null
  supertype := (own.get? "supertype").getD .null
  setting := (own.get? "setting").getD .null
  metadata := own.get? "metadata"
  others := own.filter fun f => !entryNames.contains f.1

def ofFields (fields : Fields) : Except Fault Context :=
  match signature.check 1 (fields.map (·.1)) with
  | some f => .error (.arguments f)
  | none =>
      let c := ofAttributes fields
      .ok { c with metadata := some (c.metadata.getD (.record [])) }

/-! ## Adding entries -/

/-- Names that every context has beside its entries; what is put under them is shown nowhere, and
the rendering is one of them. -/
def standingNames : List String :=
  [ "__annotations__", "__class__", "__dataclass_fields__", "__dataclass_params__",
    "__delattr__", "__dict__", "__dir__", "__doc__", "__eq__", "__format__", "__ge__",
    "__getattribute__", "__getstate__", "__gt__", "__hash__", "__init__", "__init_subclass__",
    "__le__", "__lt__", "__match_args__", "__module__", "__ne__", "__new__", "__reduce__",
    "__reduce_ex__", "__repr__", "__setattr__", "__sizeof__", "__str__", "__subclasshook__",
    "__weakref__", "to_dict" ]

def putMetadata (c : Context) (key : String) (value : Value) : Except Fault Context :=
  match c.metadata with
  | some (.record entries) =>
      .ok { c with metadata := some (.record (Fields.put entries key value)) }
  | some (.list _) => .error .textAsPosition
  | some v => .error (.noEntries v.kind)
  | none => .error .noMetadata

def putStanding (c : Context) (key : String) (value : Value) : Except Fault Context :=
  match AttributeFault.ofSetting? kindName key value, key, value with
  | some f, _, _ => .error (.attribute f)
  | none, "__dict__", .record own => .ok (ofAttributes own)
  | none, _, _ => .ok { c with others := c.others.put key value }

def put (c : Context) (key : String) (value : Value) : Except Fault Context :=
  match key with
  | "type_name" => .ok { c with typeName := value }
  | "supertype" => .ok { c with supertype := value }
  | "setting" => .ok { c with setting := value }
  | _ =>
      if standingNames.contains key || (c.others.get? key).isSome then c.putStanding key value
      else c.putMetadata key value

def putAll (c : Context) : Fields → Except Fault Context
  | [] => .ok c
  | (key, value) :: rest =>
      match c.put key value with
      | .error f => .error f
      | .ok c => c.putAll rest

/-! ## Rendering -/

def named (c : Context) : Fields :=
  [("type_name", c.typeName), ("supertype", c.supertype), ("setting", c.setting)].filter
    fun f => !f.2.isNull

/-- The items of a value that can be gone through. -/
def items? : Value → Option (List Value)
  | .list items => some items
  | .text s => some (s.toList.map fun c => .text (String.singleton c))
  | .record entries => some (entries.map fun f => .text f.1)
  | _ => none

/-- A value as the name of an entry. -/
def entryName : Value → Except Fault String
  | .text s => .ok s
  | .null => .ok "null"
  | .bool b => .ok (if b then "true" else "false")
  | .list _ => .error (.unhashable "list")
  | .record _ => .error (.unhashable "dict")
  | v => .ok v.written

/-- Adds the pairs of a list whose first item has the given position. -/
def mergePairs (fields : Fields) (position : Nat) : List Value → Except Fault Fields
  | [] => .ok fields
  | v :: rest =>
      match items? v with
      | none => .error (.notSequence position)
      | some [key, value] =>
          match entryName key with
          | .error f => .error f
          | .ok key => mergePairs (fields.put key value) (position + 1) rest
      | some items => .error (.notPair position items.length)

def merge (fields : Fields) : Value → Except Fault Fields
  | .record entries => .ok (fields.putAll entries)
  | v =>
      match items? v with
      | some items => mergePairs fields 0 items
      | none => .error (.notIterable v.kind)

def rendered (c : Context) : Except Fault Fields :=
  match c.others.get? "to_dict", c.metadata with
  | some v, _ => .error (.notCallable v.kind)
  | none, none => .error .noMetadata
  | none, some metadata => if metadata.isTruthy then merge c.named metadata else .ok c.named

end Context
end PartitionKeys
