import PartitionKeys.Log.Level
import PartitionKeys.Value.Basic

/-!
# Event — what the derivation of partition keys reports on its way

* `Event.catalogLoaded`: a catalog has described its types;
* `Event.hierarchyFlattened`: the coverage of a catalog is known;
* `Event.keySkipped`: a representative takes no part and gets no key;
* `Event.keysBuilt`: both lists of keys are complete.
-/

namespace PartitionKeys

inductive CatalogSource where
  | classes
  | registry
  deriving DecidableEq, Repr

inductive Event where
  | catalogLoaded (source : CatalogSource) (types : Nat)
  | hierarchyFlattened (types representatives shared : Nat)
  | keySkipped (typeName : String) (covered : List String)
  | keysBuilt (triggerKeys instanceKeys : List String)
  deriving DecidableEq, Repr

namespace Event

def name : Event → String
  | .catalogLoaded _ _ => "catalog_loaded"
  | .hierarchyFlattened _ _ _ => "hierarchy_flattened"
  | .keySkipped _ _ => "partition_key_skipped"
  | .keysBuilt _ _ => "partition_keys_built"

def level : Event → Level
  | .keysBuilt _ _ => .info
  | _ => .debug

def logger : Event → String
  | .catalogLoaded .classes _ => "jobspine.partitioning.catalog"
  | .catalogLoaded .registry _ => "jobspine.core.orm.catalog"
  | .hierarchyFlattened _ _ _ => "jobspine.partitioning.flattener"
  | .keySkipped _ _ => "jobspine.partitioning.builder"
  | .keysBuilt _ _ => "jobspine.partitioning.provider"

def texts (names : List String) : Value :=
  .list (names.map .text)

def fields : Event → Fields
  | .catalogLoaded .classes n => [("catalog", .text "ClassTypeCatalog"), ("types", .int n)]
  | .catalogLoaded .registry n => [("catalog", .text "sqlalchemy"), ("types", .int n)]
  | .hierarchyFlattened types representatives shared =>
      [ ("types", .int types), ("representatives", .int representatives),
        ("shared", .int shared) ]
  | .keySkipped typeName covered => [("type_name", .text typeName), ("covered", texts covered)]
  | .keysBuilt triggerKeys instanceKeys =>
      [("trigger_keys", texts triggerKeys), ("instance_keys", texts instanceKeys)]

end Event
end PartitionKeys
