import PartitionKeys.ClassGraph.Catalog
import PartitionKeys.CommandLine.Arguments
import PartitionKeys.CommandLine.Terminal
import PartitionKeys.Log.Journal
import PartitionKeys.Settings.Basic
import PartitionKeys.Value.Json

/-!
# Run — what the command line program does

The keys command reads the settings, sets up its journal, loads the target, derives the keys of its
registry and shows them.  A report ends it with a message; a misuse, or a target that cannot be
loaded, with a usage message; anything else leaves the program as it is.

* `Surroundings`: what the program finds around it;
* `Outcome`: exit code, output, messages and what left the program;
* `CommandLine.run`: the outcome of a command line.
-/

namespace PartitionKeys
namespace CommandLine

/-! ## What is around and what comes out -/

structure Surroundings where
  sources : Settings.Sources := {}
  world : World := .standard
  /-- The modules that targets are loaded from. -/
  targets : List (String × List (String × ClassCatalog.Base)) := []
  classes : Lineages
  terminal : Terminal := {}
  now : String := ""

inductive Message where
  | line (l : Journal.Line)
  | text (s : String)

inductive Escape where
  | failure (f : Failure)
  | markup (f : Markup.Fault)

structure Outcome where
  exitCode : Nat := 0
  output : String := ""
  messages : List Message := []
  escaped : Option Escape := none

namespace Outcome

def misuse : Outcome where
  exitCode := 2

def escapes (e : Escape) (messages : List Message) : Outcome where
  exitCode := 1
  messages
  escaped := some e

end Outcome

/-! ## Targets -/

/-- A target that cannot be loaded is a misuse, unless its module is named relatively. -/
def loadTarget (s : Surroundings) (target : String) : Except (Option Failure) ClassCatalog.Base :=
  match World.splitPath? target with
  | none => .error none
  | some (moduleName, name) =>
      if moduleName.isEmpty || name.isEmpty then .error none
      else if moduleName.toList.head? == some '.' then
        .error (some (.mapper (.relativeModule moduleName)))
      else
        match (s.targets.lookup moduleName).bind fun attributes => attributes.lookup name with
        | some base => .ok base
        | none => .error none

def derive (s : Surroundings) (settings : Settings) (base : ClassCatalog.Base) :
    Traced KeyRing := do
  let registry ← Traced.ofExcept (ClassCatalog.registryOf base)
  let catalog := ClassCatalog.ofRegistry s.classes registry settings.ambiguityPolicy
  KeyRing.ofSettings s.world (some catalog.listing) settings

/-! ## Showing keys -/

def keyRecord (queryAlias : String) (k : PartitionKey) : Except Template.Fault Value := do
  let predicate ← k.predicateFor queryAlias
  return .record
    [ ("name", .text k.name), ("category", .text k.category.value),
      ("id_attribute", .text k.bindings.idAttribute),
      ("schedule_attribute", .text k.bindings.scheduleAttribute),
      ("last_execution_attribute", .text k.bindings.lastExecutionAttribute),
      ("partition_attribute", .text k.bindings.partitionAttribute),
      ("state_attribute", .text k.bindings.stateAttribute),
      ("covered_types", .list (k.covered.map .text)),
      ("predicate", Value.ofText? predicate) ]

def keyRow (queryAlias : String) (k : PartitionKey) : Except Template.Fault (List String) := do
  let predicate := (← k.predicateFor queryAlias).getD ""
  return [ k.name, k.category.value, ", ".intercalate k.covered,
    if predicate.isEmpty then "-" else predicate ]

def renderedJson (queryAlias : String) (keys : List PartitionKey) : Except Escape String :=
  match keys.mapM (keyRecord queryAlias) with
  | .error f => .error (.failure (.rendering f))
  | .ok records => .ok (Json.indented (.list records) ++ "\n")

def tableTitle : String :=
  "Partition keys"

def tableHeading : List String :=
  ["Name", "Category", "Covers", "Predicate"]

def renderedTable (t : Terminal) (queryAlias : String) (keys : List PartitionKey) :
    Except Escape String :=
  match keys.mapM (keyRow queryAlias) with
  | .error f => .error (.failure (.rendering f))
  | .ok rows => (t.table tableTitle tableHeading rows).mapError .markup

/-- The keys of a ring as they are asked for. -/
def shown (t : Terminal) (r : KeysRequest) (ring : KeyRing) : Except Escape String :=
  if r.asJson then renderedJson r.queryAlias ring.keys
  else renderedTable t r.queryAlias ring.keys

/-! ## Running -/

/-- What is shown of a report: its category and its message. -/
def reportText (r : Report) : String :=
  Terminal.errorMark ++ (" (" ++ r.category.value ++ "): " ++ r.shown)

def reportOutcome (t : Terminal) (r : Report) (messages : List Message) : Outcome :=
  match t.paragraph (reportText r) with
  | .error f => .escapes (.markup f) messages
  | .ok lines => { exitCode := 1, messages := messages ++ lines.map .text }

def journalOptions (asJson : Bool) (logLevel : String) : Journal.Options where
  level := .text (if asJson then "WARNING" else logLevel)
  service := .text "jobspine-cli"
  keeping := .bool false

/-- A line of the settings file that is skipped is told before anything else. -/
def skippedMessage (number : Nat) : Message :=
  .text ("python-dotenv could not parse statement starting at line " ++ toString number)

def runKeys (s : Surroundings) (r : KeysRequest) : Outcome :=
  let skipped := (s.sources.reader.skipped s.sources.file).map skippedMessage
  match Settings.read s.sources with
  | .error f => .escapes (.failure f) skipped
  | .ok settings =>
      match ({} : Journal).configure (journalOptions r.asJson settings.logLevel) false with
      | (_, some fault) => .escapes (.failure (.level fault)) skipped
      | (journal, none) =>
          match loadTarget s r.target with
          | .error none => .misuse
          | .error (some f) => .escapes (.failure f) skipped
          | .ok base =>
              let derived := derive s settings base
              let messages := skipped ++ (journal.emit s.now derived.events).2.map Message.line
              match derived.result with
              | .error f =>
                  match f.report? with
                  | some report => reportOutcome s.terminal report messages
                  | none => .escapes (.failure f) messages
              | .ok ring =>
                  match shown s.terminal r ring with
                  | .error e => .escapes e messages
                  | .ok output => { output, messages }

def versionText : String :=
  "jobspine 0.1.0\n"

def run (s : Surroundings) (args : List String) : Outcome :=
  match Request.ofArgs args with
  | .version => { output := versionText }
  | .help => {}
  | .misuse => .misuse
  | .keys r => runKeys s r

end CommandLine
end PartitionKeys
