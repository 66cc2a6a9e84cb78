import PartitionKeys.Log.Event
import PartitionKeys.Log.Threshold
import PartitionKeys.Signature

/-!
# Journal — structured log lines

A journal has a service name, a setup and bound fields.  A line starts with the fields of its call
over the name of its logger.  The steps of a logging library then merge the bound fields, add the
level of the call and show its place, and the journal adds the service name where no field has taken
its place.  A logger keeps the setup of its first call when that setup says so.

* `Journal.Library`: the steps that a logging library brings, each as it is documented;
* `Journal.steps`, `Journal.lineFields`: the steps in their order, and the fields they lead to;
* `Journal.configure`: a new service name, then a new setup unless the level is unknown;
* `Journal.openLogger`, `Journal.bind`, `Journal.clear`: loggers and bound fields;
* `Journal.write`: one call, and the line it writes if its level reaches the threshold;
* `Journal.log`: the same, unless a field has a name that calls use themselves;
* `Journal.emit`: the lines of events.
-/

namespace PartitionKeys

/-- The position of a logger in its journal. -/
abbrev LoggerId := Nat

namespace Journal

/-! ## Setup -/

structure Setup where
  threshold : Nat := 0
  /-- Lines are records, not text for a terminal. -/
  structured : Bool := false
  stamped : Bool := true
  /-- Loggers keep the setup of their first call. -/
  keeping : Bool := false
  deriving DecidableEq, Repr

structure Options where
  level : Value := .text "INFO"
  /-- Null leaves the choice to where lines go. -/
  structured : Value := .null
  service : Value := .text "jobspine"
  stamped : Value := .bool true
  keeping : Value := .bool true

def Options.signature : Signature where
  operation := "configure_logging"
  positional := ["level", "json_format", "service", "add_timestamp", "cache_loggers"]
  optional := 5

def Options.ofFields (fields : Fields) : Except Signature.Fault Options :=
  match signature.check 0 (fields.map (·.1)) with
  | some f => .error f
  | none =>
      let get (name : String) (standing : Value) : Value := (fields.get? name).getD standing
      .ok
        { level := get "level" (.text "INFO")
          structured := get "json_format" .null
          service := get "service" (.text "jobspine")
          stamped := get "add_timestamp" (.bool true)
          keeping := get "cache_loggers" (.bool true) }

/-- Null leaves it as it was before whether loggers keep their setup. -/
def Options.setup (o : Options) (before : Setup) (onTerminal : Bool) : Except LevelFault Setup :=
  match Threshold.ofName o.level with
  | .error f => .error f
  | .ok threshold =>
      .ok
        { threshold
          structured := if o.structured.isNull then !onTerminal else o.structured.isTruthy
          stamped := o.stamped.isTruthy
          keeping := if o.keeping.isNull then before.keeping else o.keeping matches .bool true }

structure Logger where
  /-- Null for a logger without a name. -/
  name : Value := .null
  kept : Option Setup := none
  deriving Inhabited

structure Line where
  structured : Bool
  fields : Fields

/-! ## Steps -/

/-- A step makes the fields of a line from those so far. -/
abbrev Step := Fields → Fields

def putNew (fields : Fields) (key : String) (value : Value) : Fields :=
  if (fields.get? key).isSome then fields else fields.put key value

def putAllNew (fields others : Fields) : Fields :=
  others.foldl (fun acc f => putNew acc f.1 f.2) fields

/-- A line that asks for the place of its call tells it; that it asked is not told. -/
def withStack (fields : Fields) (stack : String) : Fields :=
  let rest := fields.erase "stack_info"
  if (fields.get? "stack_info").any Value.isTruthy then rest.put "stack" (.text stack) else rest

/-- The steps that a logging library brings. -/
structure Library where
  stamp (now : String) : Step := fun fields => fields.put "timestamp" (.text now)
  /-- What is bound gives way to the fields that are there already. -/
  mergeBound (bound : Fields) : Step := fun fields => putAllNew fields bound
  addLevel (level : Level) : Step := fun fields => fields.put "level" (.text level.name)
  showPlace (stack : String) : Step := fun fields => withStack fields stack

/-- The journal's own step: its name for the service is a fallback. -/
def addService (service : Value) : Step :=
  fun fields => putNew fields "service.name" service

end Journal

/-! ## The journal -/

structure Journal where
  library : Journal.Library := {}
  service : Value := .text "jobspine"
  setup : Journal.Setup := {}
  bound : Fields := []
  loggers : Array Journal.Logger := #[]
  /-- The standing logger of each source of events. -/
  standing : List (String × LoggerId) := []

namespace Journal

def configure (j : Journal) (o : Options) (onTerminal : Bool) : Journal × Option LevelFault :=
  let j := { j with service := o.service }
  match o.setup j.setup onTerminal with
  | .error f => (j, some f)
  | .ok setup => ({ j with setup }, none)

def openLogger (j : Journal) (name : Value) : LoggerId × Journal :=
  (j.loggers.size, { j with loggers := j.loggers.push { name } })

def bind (j : Journal) (fields : Fields) : Journal :=
  { j with bound := j.bound.putAll fields }

def clear (j : Journal) : Journal :=
  { j with bound := [] }

/-! ## Calls -/

structure Call where
  level : Level
  event : Value
  fields : Fields := []
  /-- The call reports the exception at hand. -/
  withException : Bool := false
  /-- Where the call is made, for a line that asks for it. -/
  stack : String := ""

def ownFields (name : Value) (c : Call) : Fields :=
  let named : Fields := if name.isNull then [] else [("logger_name", name)]
  let own := named.putAll c.fields
  let own := if c.withException then putNew own "exc_info" (.bool true) else own
  if c.event.isNull then own else own.put "event" c.event

/-- The library shows the place of a call after its level.  It has a step for exceptions too, which
does nothing here: a call that reports one says so before it reaches the level it is written at. -/
def librarySteps (j : Journal) (setup : Setup) (now : String) (c : Call) : List Step :=
  (if setup.stamped then [j.library.stamp now] else []) ++
    [j.library.mergeBound j.bound, j.library.addLevel c.level, j.library.showPlace c.stack]

def steps (j : Journal) (setup : Setup) (now : String) (c : Call) : List Step :=
  j.librarySteps setup now c ++ [addService j.service]

def Step.inTurn (steps : List Step) (fields : Fields) : Fields :=
  steps.foldl (fun fields step => step fields) fields

def lineFields (j : Journal) (setup : Setup) (now : String) (name : Value) (c : Call) :
    Fields :=
  Step.inTurn (j.steps setup now c) (ownFields name c)

/-- The setup a logger works under. -/
def setupOf (j : Journal) (id : LoggerId) : Setup :=
  ((j.loggers.getD id default).kept).getD j.setup

/-- The journal after a logger has been used. -/
def used (j : Journal) (id : LoggerId) : Journal :=
  if j.setup.keeping then
    { j with loggers := j.loggers.modify id fun l => { l with kept := some (l.kept.getD j.setup) } }
  else j

/-! ## Names a call cannot use -/

def Call.signature (operation : String) : Signature where
  operation
  positional := ["self", "event"]
  takesOthers := true

/-- The operations a call goes through: one for an exception, then that of its level, which does
nothing below the threshold and otherwise hands the call on. -/
def Call.signatures (c : Call) (reaches : Bool) : List Signature :=
  (if c.withException then [signature "exception"] else []) ++
    if reaches then
      [ signature "_make_filtering_bound_logger.<locals>.make_method.<locals>.meth",
        { operation := "BoundLoggerBase._proxy_to_logger"
          positional := ["self", "method_name", "event"]
          takesOthers := true } ]
    else [signature "_nop"]

/-- The first operation that refuses the names of the call's fields. -/
def Call.fault? (c : Call) (reaches : Bool) : Option Signature.Fault :=
  (c.signatures reaches).findSome? fun s => s.check s.positional.length (c.fields.map (·.1))

/-! ## Writing -/

def write (j : Journal) (now : String) (id : LoggerId) (c : Call) : Journal × Option Line :=
  let setup := j.setupOf id
  let line :=
    if setup.threshold ≤ c.level.rank then
      some ⟨setup.structured, j.lineFields setup now (j.loggers.getD id default).name c⟩
    else none
  (j.used id, line)

def log (j : Journal) (now : String) (id : LoggerId) (c : Call) :
    Journal × Except Signature.Fault (Option Line) :=
  let (next, line) := j.write now id c
  match c.fault? (decide ((j.setupOf id).threshold ≤ c.level.rank)) with
  | some f => (next, .error f)
  | none => (next, .ok line)

/-! ## Events of the derivation -/

def Call.ofEvent (e : Event) : Call where
  level := e.level
  event := .text e.name
  fields := e.fields

def standingLogger (j : Journal) (source : String) : LoggerId × Journal :=
  match j.standing.lookup source with
  | some id => (id, j)
  | none =>
      let (id, j) := j.openLogger (.text source)
      (id, { j with standing := (source, id) :: j.standing })

/-- Each event goes to the standing logger of its source. -/
def emit (j : Journal) (now : String) : List Event → Journal × List Line
  | [] => (j, [])
  | e :: rest =>
      let (id, j) := j.standingLogger e.logger
      let (j, line) := j.write now id (.ofEvent e)
      let (j, lines) := j.emit now rest
      (j, line.toList ++ lines)

end Journal
end PartitionKeys
