import PartitionKeys.Bindings.Attributes
import PartitionKeys.Settings.EnvFile
import PartitionKeys.Template.Check
import PartitionKeys.Text.LetterCase

/-!
# Settings — what is configured, and where from

A setting is taken from the arguments, else from the environment, else from the settings file, else
it has its conventional value.  Names may be written in any letter case, and those in the
environment and in the file carry a common beginning; names that are no setting are ignored.

* `Settings.Sources`: the three sources;
* `Settings.ofFields`: settings from one record of values, with all issues when it is rejected;
* `Settings.read`: settings from the sources;
* `Settings.bindings`: the bindings they ask for.
-/

namespace PartitionKeys

structure CategorySettings where
  idAttribute : String := "id"
  scheduleAttribute : String := "scheduleTime"
  lastExecutionAttribute : String := "lastExecutionTime"
  partitionAttribute : Option String := none
  stateAttribute : String := "state"
  stateMapping : String := "identity"
  deriving DecidableEq, Repr

structure Settings where
  trigger : CategorySettings := {}
  instances : CategorySettings := {}
  predicateTemplate : String := Template.default
  ambiguityPolicy : Policy := .reject
  logLevel : String := "INFO"
  deriving DecidableEq, Repr

/-! ## Settings as a record -/

namespace CategorySettings

def toFields (s : CategorySettings) (category : String) : Fields :=
  [ (category ++ "_id_attribute", .text s.idAttribute),
    (category ++ "_schedule_attribute", .text s.scheduleAttribute),
    (category ++ "_last_execution_attribute", .text s.lastExecutionAttribute),
    (category ++ "_partition_attribute", Value.ofText? s.partitionAttribute),
    (category ++ "_state_attribute", .text s.stateAttribute),
    (category ++ "_state_value_mapping", .text s.stateMapping) ]

end CategorySettings

namespace Settings

def toFields (s : Settings) : Fields :=
  s.trigger.toFields "trigger" ++ s.instances.toFields "instance" ++
    [ ("predicate_template", .text s.predicateTemplate),
      ("ambiguity_policy", .text s.ambiguityPolicy.value), ("log_level", .text s.logLevel) ]

def names : List String :=
  ({} : Settings).toFields.map (·.1)

/-! ## Validation -/

def textIssues (field : String) (optional : Bool) (v : Value) : List Issue :=
  match v with
  | .text _ => []
  | .null => if optional then [] else [⟨[field], .notText⟩]
  | _ => [⟨[field], .notText⟩]

def fieldIssues (name : String) (v : Value) : List Issue :=
  if name == "ambiguity_policy" then
    if (Policy.find? v).isSome then [] else [⟨[name], .notPolicy⟩]
  else
    let optional := name == "trigger_partition_attribute" || name == "instance_partition_attribute"
    textIssues name optional v

/-- A template is refused for what its check reports; any other failure of the check is the
failure of the settings. -/
def templateIssues (v : Value) : Except Failure (List Issue) :=
  match v with
  | .text template =>
      match Template.check template with
      | .ok () => .ok []
      | .error f =>
          if f.report?.isSome then .ok [⟨["predicate_template"], .refused f.message⟩] else .error f
  | _ => .ok []

def categoryOfFields (fields : Fields) (category : String) : CategorySettings :=
  let text (name : String) : String := ((fields.get? (category ++ name)).bind Value.text?).getD ""
  { idAttribute := text "_id_attribute"
    scheduleAttribute := text "_schedule_attribute"
    lastExecutionAttribute := text "_last_execution_attribute"
    partitionAttribute := (fields.get? (category ++ "_partition_attribute")).bind Value.text?
    stateAttribute := text "_state_attribute"
    stateMapping := text "_state_value_mapping" }

/-- Every setting with its given or conventional value. -/
def complete (given : Fields) : Fields :=
  ({} : Settings).toFields.map fun f => (f.1, (given.get? f.1).getD f.2)

def ofFields (given : Fields) : Except Failure Settings :=
  let fields := complete given
  let get (name : String) : Value := (fields.get? name).getD .null
  match templateIssues (get "predicate_template") with
  | .error f => .error f
  | .ok refusals =>
      let issues := fields.flatMap fun f =>
        fieldIssues f.1 f.2 ++ if f.1 == "predicate_template" then refusals else []
      match issues, get "predicate_template", Policy.find? (get "ambiguity_policy"),
        get "log_level" with
      | [], .text predicateTemplate, some ambiguityPolicy, .text logLevel =>
          .ok
            { trigger := categoryOfFields fields "trigger"
              instances := categoryOfFields fields "instance"
              predicateTemplate, ambiguityPolicy, logLevel }
      | issues, _, _, _ => .error (.invalid issues)

/-! ## Sources -/

structure Sources where
  arguments : Fields := []
  environment : List (String × String) := []
  file : String := ""
  reader : EnvFile.Reader := {}

/-- The beginning of every name in the environment and the file. -/
def namespaceMark : String :=
  "job_storage_"

/-- The last value of a setting among names in any letter case. -/
def lookupAnyCase (values : EnvFile.Values) (name : String) : Option String :=
  let matching := values.filter fun v => LetterCase.lower v.1 == namespaceMark ++ name
  (matching.getLast?.map (·.2)).getD none

/-- The first argument for a setting among names in any letter case. -/
def argument? (arguments : Fields) (name : String) : Option Value :=
  (arguments.find? fun a => LetterCase.lower a.1 == name).map (·.2)

def gather (s : Sources) : Fields :=
  let environment : EnvFile.Values := s.environment.map fun v => (v.1, some v.2)
  let file := s.reader.values s.environment s.file
  names.filterMap fun name =>
    let outer := (lookupAnyCase environment name).or (lookupAnyCase file name)
    ((argument? s.arguments name).or (outer.map .text)).map fun v => (name, v)

def read (s : Sources) : Except Failure Settings :=
  ofFields (gather s)

/-! ## Bindings -/

def bindingFields (s : CategorySettings) : Fields :=
  [ ("id_attribute", .text s.idAttribute), ("schedule_attribute", .text s.scheduleAttribute),
    ("last_execution_attribute", .text s.lastExecutionAttribute),
    ("partition_attribute", Value.ofText? s.partitionAttribute),
    ("state_attribute", .text s.stateAttribute), ("state_value_mapper", .text s.stateMapping) ]

/-- Triggers first: what is wrong with them is told before instances are looked at. -/
def bindings (w : World) (s : Settings) : Except Failure AttributeBindings :=
  match (CategoryBindings.ofFields w (bindingFields s.trigger)).toExcept with
  | .error f => .error f
  | .ok trigger =>
      match (CategoryBindings.ofFields w (bindingFields s.instances)).toExcept with
      | .error f => .error f
      | .ok instances => .ok { trigger, instances }

end Settings
end PartitionKeys
