import PartitionKeys.Bindings.StateMapper

/-!
# World — what can be imported, and how a mapper is resolved

A mapper is given by a short name or by an import path `module:attribute`, split at its first
colon.  The world lists the importable modules with their attributes, of which some can be called.

* `World.standard`: the modules of this program;
* `World.resolve`: the mapper that a value stands for, or the fault;
* `MapperFault.isRefusal`: the faults that a validation collects instead of giving up.
-/

namespace PartitionKeys

/-! ## Faults -/

inductive ImportFault where
  | noModule
  | noAttribute
  deriving DecidableEq, Repr

inductive MapperFault where
  | unknown (spec : String)
  | notImported (spec : String) (reason : ImportFault)
  | notCallable (spec : String)
  | emptyModule
  | relativeModule (name : String)
  | notSearchable (kind : String)
  | notHashable (kind : String)
  deriving DecidableEq, Repr

namespace MapperFault

def message : MapperFault → String
  | .unknown spec =>
      "Unknown state value mapper " ++ Quoted.text spec ++
        "; use one of ['identity', 'name', 'ordinal', 'value'] or 'module:attribute'"
  | .notImported spec _ => "Cannot import state value mapper " ++ Quoted.text spec
  | .notCallable spec => "State value mapper " ++ Quoted.text spec ++ " is not callable"
  | .emptyModule => "Empty module name"
  | .relativeModule name =>
      "the 'package' argument is required to perform a relative import for " ++ Quoted.text name
  | .notSearchable kind => "argument of type '" ++ kind ++ "' is not iterable"
  | .notHashable kind => "unhashable type: '" ++ kind ++ "'"

/-- The text whose resolution is reported; other faults are not reports. -/
def spec? : MapperFault → Option String
  | .unknown spec | .notImported spec _ | .notCallable spec => some spec
  | _ => none

def isRefusal : MapperFault → Bool
  | .emptyModule => true
  | _ => false

end MapperFault

/-! ## Importable modules -/

inductive Attribute where
  | callable (m : StateMapper)
  | constant

structure World where
  modules : List (String × List (String × Attribute))

namespace World

def standard : World where
  modules :=
    [ ("jobspine.partitioning.bindings",
        [ ("identity_state", .callable .identity), ("state_name", .callable .name),
          ("state_value", .callable .value), ("state_ordinal", .callable .ordinal),
          ("NAMED_STATE_MAPPERS", .constant) ]),
      ("jobspine.partitioning.types", [("DEFAULT_PREDICATE_TEMPLATE", .constant)]) ]

/-- The module and the attribute of an import path. -/
def splitPath? (spec : String) : Option (String × String) :=
  let cs := spec.toList
  if cs.contains ':' then
    some (String.ofList (cs.takeWhile (· != ':')),
      String.ofList ((cs.dropWhile (· != ':')).drop 1))
  else none

def importMapper (w : World) (spec moduleName name : String) : Except MapperFault StateMapper :=
  if moduleName = "" then .error .emptyModule
  else if moduleName.toList.head? = some '.' then .error (.relativeModule moduleName)
  else
    match w.modules.lookup moduleName with
    | none => .error (.notImported spec .noModule)
    | some attributes =>
        match attributes.lookup name with
        | none => .error (.notImported spec .noAttribute)
        | some .constant => .error (.notCallable spec)
        | some (.callable m) => .ok m

def resolveText (w : World) (spec : String) : Except MapperFault StateMapper :=
  match StateMapper.named.lookup spec with
  | some m => .ok m
  | none =>
      match splitPath? spec with
      | none => .error (.unknown spec)
      | some (moduleName, name) => w.importMapper spec moduleName name

def resolve (w : World) : Value → Except MapperFault StateMapper
  | .null => .ok .identity
  | .text spec => w.resolveText spec
  | .list _ => .error (.notHashable "list")
  | .record _ => .error (.notHashable "dict")
  | v => .error (.notSearchable v.kind)

end World
end PartitionKeys
