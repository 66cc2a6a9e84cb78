import PartitionKeys.Bindings.Issue
import PartitionKeys.Bindings.World
import PartitionKeys.Job.Category
import PartitionKeys.Log.Threshold
import PartitionKeys.Report.Basic
import PartitionKeys.Template.Fault
import PartitionKeys.Text.Utf8

/-!
# Failure — why an operation gives no result

Failures are causes; their wording is in one place.  The failures of a derivation are reports with
a kind and a context, the others are not.

* `Failure.message`: the wording;
* `Failure.report?`: the report, for the failures that are reported.
-/

namespace PartitionKeys

inductive Failure where
  -- types and catalogs
  | ambiguousType (name : Value)
  | duplicateName (name : String)
  | cyclicChain (name revisited : String)
  | mixedChain (name : String) (own other : Category) (ancestor : String)
  | missingCatalog
  | missingBase
  | noRegistry (base : Value)
  | repeatedBase (name : String)
  | noLinearization (heads : List String)
  | nullInName
  -- bindings and templates
  | missingBindings
  | unusableTemplate (template : String) (fault : Template.Fault)
  | aliasNotReferenced (template : String)
  | rendering (fault : Template.Fault)
  | mapper (fault : MapperFault)
  | stateRefused (message : String)
  | invalid (issues : List Issue)
  -- values
  | notMember (value : Value) (enumeration : String)
  | frozenField (name : String)
  | level (fault : LevelFault)
  | context (fault : Context.Fault)
  | attribute (fault : AttributeFault)
  | arguments (fault : Signature.Fault)
  deriving Inhabited

namespace Failure

/-- The bytes in which the wording of a conflict has to fit. -/
def conflictSize : Nat :=
  999

/-- The wording of a conflict of classes, cut to its bytes. -/
def conflict (heads : List String) : Utf8.Cut :=
  Utf8.cut conflictSize
    ("Cannot create a consistent method resolution\norder (MRO) for bases " ++
      ", ".intercalate heads)

def message : Failure → String
  | .ambiguousType name => "Type " ++ name.shown ++ " is both a job trigger and a job instance"
  | .duplicateName name => "Duplicate type name in catalog: " ++ name
  | .cyclicChain name revisited => "Supertype chain of " ++ name ++ " is cyclic at " ++ revisited
  | .mixedChain name own other ancestor =>
      "Type " ++ name ++ " is a job " ++ own.value ++ " but extends job " ++ other.value ++ " " ++
        ancestor
  | .missingCatalog => "No type catalog given!"
  | .missingBase => "No declarative base or registry given!"
  | .noRegistry base => base.written ++ " has no SQLAlchemy registry"
  | .repeatedBase name => "duplicate base class " ++ name
  | .noLinearization heads => (conflict heads).shown
  | .nullInName => "type name must not contain null characters"
  | .missingBindings => "No attribute bindings given!"
  | .unusableTemplate template fault =>
      "Cannot render predicate template " ++ Quoted.text template ++ ": " ++ fault.written
  | .aliasNotReferenced _ => "predicate_template must reference \x7balias\x7d"
  | .rendering fault => fault.shown
  | .mapper fault => fault.message
  | .stateRefused message => message
  | .invalid issues => "\n".intercalate (issues.map (·.problem.message))
  | .notMember value enumeration => value.written ++ " is not a valid " ++ enumeration
  | .frozenField name => "cannot assign to field " ++ Quoted.text name
  | .level fault => fault.message
  | .context fault => fault.message
  | .attribute fault => fault.message
  | .arguments fault => fault.message

def report? (f : Failure) : Option Report :=
  let message := Value.text f.message
  let invalidTemplate (template : String) : Report :=
    Report.invalidConfig (.text "predicate_template") (.text template) message
  match f with
  | .ambiguousType name =>
      some { kind := .classification, message, context := { typeName := name } }
  | .duplicateName name => some (Report.invalidCatalog (.text name) message)
  | .cyclicChain name revisited =>
      let report := Report.invalidCatalog (.text name) message
      some { report with context := { report.context with supertype := .text revisited } }
  | .mixedChain name _ _ ancestor =>
      some
        { kind := .classification, message,
          context := { typeName := .text name, supertype := .text ancestor } }
  | .missingCatalog | .missingBase | .noRegistry _ => some (Report.missingCatalog message)
  | .missingBindings => some (Report.missingConfig (.text "attribute_bindings") message)
  | .unusableTemplate template _ => some (invalidTemplate template)
  | .aliasNotReferenced template => some (invalidTemplate template)
  | .mapper fault =>
      fault.spec?.map fun spec =>
        Report.invalidConfig (.text "state_value_mapper") (.text spec) message
  | .repeatedBase _ | .noLinearization _ | .nullInName | .rendering _ | .stateRefused _
  | .invalid _ | .notMember _ _ | .frozenField _ | .level _ | .context _ | .attribute _
  | .arguments _ => none

end Failure
end PartitionKeys
