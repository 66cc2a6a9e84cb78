import PartitionKeys.Bindings.Checked

/-!
# Attributes — the names by which the job engine queries each category

The bindings of a category name its attributes and say how states are stored.  They are read from a
record of any values: a missing entry has its conventional name, except that the partition
attribute follows the id attribute; entries of other names are ignored.

* `CategoryBindings.withPartition`: a record before its fields are looked at;
* `CategoryBindings.declared`, `AttributeBindings.declared`: the fields, in order;
* `CategoryBindings.ofValue`, `AttributeBindings.ofValue`: bindings, or what is wrong with them;
* `Bindings.refusal?`: why a name of finished bindings cannot be set.
-/

namespace PartitionKeys

/-! ## Bindings of one category -/

structure CategoryBindings where
  idAttribute : String := "id"
  scheduleAttribute : String := "scheduleTime"
  lastExecutionAttribute : String := "lastExecutionTime"
  partitionAttribute : String := "id"
  stateAttribute : String := "state"
  stateMapper : StateMapper := .identity

namespace CategoryBindings

def same (a b : CategoryBindings) : Bool :=
  a.idAttribute == b.idAttribute && a.scheduleAttribute == b.scheduleAttribute &&
    a.lastExecutionAttribute == b.lastExecutionAttribute &&
    a.partitionAttribute == b.partitionAttribute && a.stateAttribute == b.stateAttribute &&
    a.stateMapper.same b.stateMapper

/-- An id attribute that counts as false gives way to the conventional one. -/
def standingPartition (fields : Fields) : Value :=
  let id := (fields.get? "id_attribute").getD .null
  if id.isTruthy then id else .text "id"

/-- Before anything is checked, the partition attribute is filled in where none is given. -/
def withPartition (fields : Fields) : Fields :=
  if ((fields.get? "partition_attribute").getD .null).isNull then
    fields.put "partition_attribute" (standingPartition fields)
  else fields

def textField (name : String) (set : String → CategoryBindings → CategoryBindings) :
    ModelField CategoryBindings where
  name
  check
    | .text s => .accepted (set s)
    | _ => .rejected [⟨[name], .notText⟩]

def attributeFields : List (ModelField CategoryBindings) :=
  [ textField "id_attribute" fun s b => { b with idAttribute := s },
    textField "schedule_attribute" fun s b => { b with scheduleAttribute := s },
    textField "last_execution_attribute" fun s b => { b with lastExecutionAttribute := s },
    textField "partition_attribute" fun s b => { b with partitionAttribute := s },
    textField "state_attribute" fun s b => { b with stateAttribute := s } ]

/-- A mapper that is refused as a value is an issue; any other fault is none. -/
def mapperField (w : World) : ModelField CategoryBindings where
  name := "state_value_mapper"
  check v :=
    match w.resolve v with
    | .ok stateMapper => .accepted fun b => { b with stateMapper }
    | .error f =>
        if f.isRefusal then .rejected [⟨["state_value_mapper"], .refused f.message⟩]
        else .abandoned f

def declared (w : World) : List (ModelField CategoryBindings) :=
  attributeFields ++ [mapperField w]

def ofFields (w : World) (fields : Fields) : Checked CategoryBindings :=
  Checked.ofFields (declared w) {} (withPartition fields)

def ofValue (w : World) : Value → Checked CategoryBindings
  | .record fields => ofFields w fields
  | _ => .rejected [⟨[], .notRecord "CategoryBindings"⟩]

end CategoryBindings

/-! ## Bindings of both categories -/

structure AttributeBindings where
  trigger : CategoryBindings := {}
  instances : CategoryBindings := {}

namespace AttributeBindings

def part (w : World) (name : String)
    (set : CategoryBindings → AttributeBindings → AttributeBindings) :
    ModelField AttributeBindings where
  name
  check v := ((CategoryBindings.ofValue w v).within name).map set

def declared (w : World) : List (ModelField AttributeBindings) :=
  [ part w "trigger" fun c b => { b with trigger := c },
    part w "instance" fun c b => { b with instances := c } ]

def ofValue (w : World) : Value → Checked AttributeBindings
  | .record fields => Checked.ofFields (declared w) {} fields
  | _ => .rejected [⟨[], .notRecord "AttributeBindings"⟩]

end AttributeBindings

/-! ## Finished bindings -/

namespace Bindings

/-- Bindings do not change: only private names can be set, and with them nothing that is used. -/
def refusal? (owner name : String) (value : Value) : Option Failure :=
  if name.toList.head? = some '_' then
    if name = "__fields_set__" then some (.attribute (.noSetter owner name))
    else (AttributeFault.ofSetting? owner name value).map .attribute
  else some (.invalid [⟨[name], .frozen⟩])

end Bindings
end PartitionKeys
