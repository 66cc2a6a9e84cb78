import PartitionKeys.ClassGraph.Catalog
import PartitionKeys.ClassGraph.Declaration
import PartitionKeys.Value.Json

/-!
# TargetFile — a module of targets as a JSON file

A target file declares classes and gives the values of the module's attributes.  An attribute that
names a registry stands for it; any other attribute is a plain value.

* `TargetFile.path`: where the file of a module is;
* `TargetFile.ofText`: the module a text describes, empty if the text is no record.
-/

namespace PartitionKeys

structure TargetFile where
  declared : Declared := {}
  attributes : List (String × ClassCatalog.Base) := []

namespace TargetFile

/-- The parts of a module's name are folders. -/
def path (moduleName : String) : String :=
  moduleName.map (fun c => if c == '.' then '/' else c) ++ ".json"

def baseOf : Value → ClassCatalog.Base
  | .record fields =>
      match Fields.get? fields "registry" with
      | some (.text name) => .registry name
      | _ => .value (.record fields)
  | v => .value v

def ofFields (fields : Fields) : TargetFile where
  declared :=
    match fields.get? "classes" with
    | some (.list records) => Declared.ofValues records
    | _ => {}
  attributes :=
    match fields.get? "attributes" with
    | some (.record attributes) => attributes.map fun a => (a.1, baseOf a.2)
    | _ => []

def ofText (text : String) : TargetFile :=
  match Json.read? text with
  | some (.record fields) => ofFields fields
  | _ => {}

end TargetFile
end PartitionKeys
