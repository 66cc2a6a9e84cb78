import PartitionKeys.ClassGraph.Basic

/-!
# Declaration — class graphs read from records

Each record declares a class under a label: its name, the labels of its bases, its methods, its own
mark as abstract and the registry that maps it.  A base has to be declared before.

* `Declared`: a class graph with the label of each class;
* `Declared.ofValues`: the classes of a list of records;
* `Declared.id?`: the class last declared under a label.
-/

namespace PartitionKeys

structure Declared where
  graph : ClassGraph := {}
  labels : List String := ["JobTrigger", "JobInstance"]

namespace Declared

def id? (d : Declared) (label : String) : Option ClassId :=
  (d.labels.zipIdx.reverse.find? (fun e => e.1 == label)).map (·.2)

def label (d : Declared) (c : ClassId) : String :=
  d.labels.getD c ""

def texts (fields : Fields) (key : String) : List String :=
  match fields.get? key with
  | some (.list items) => items.filterMap Value.text?
  | _ => []

def textOr (fields : Fields) (key standing : String) : String :=
  ((fields.get? key).bind Value.text?).getD standing

/-- The name under which a class keeps its own mark. -/
def markName : String :=
  "__partition_abstract__"

/-- The mark stands in place of a method of its name, and such a method stands for a mark. -/
def withMark (c : RecordClass) (mark : Option Value) : RecordClass :=
  match mark with
  | some flag =>
      { c with
        flag
        methods := markName :: c.methods
        abstractMethods := c.abstractMethods.filter (· ≠ markName) }
  | none => { c with flag := .bool (c.defines markName) }

def add (d : Declared) (fields : Fields) : Declared :=
  let label := textOr fields "id" ""
  let declared : RecordClass :=
    { name := textOr fields "name" label
      bases := (texts fields "bases").filterMap d.id?
      methods := texts fields "methods"
      abstractMethods := texts fields "abstract_methods"
      registry :=
        match fields.get? "mapped" with
        | some (.bool false) => none
        | _ => some (textOr fields "registry" "main") }
  { graph := d.graph.add (withMark declared (fields.get? "flag"))
    labels := d.labels ++ [label] }

def ofValues (records : List Value) : Declared :=
  records.foldl (fun d v =>
    match v with
    | .record fields => d.add fields
    | _ => d) {}

end Declared
end PartitionKeys
