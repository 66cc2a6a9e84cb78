import PartitionKeys.Report.Context

/-!
# Report — what stops the derivation of partition keys, and about what

A report has a kind, which fixes its category, a message, a context and perhaps a cause.  A kind
refines another: every kind refines the general one.

* `Report.Kind.lineage`: a kind and all that it refines, nearest first;
* `Report.missingSetting`, `Report.invalidSetting`, …: reports with their standing message;
* `Report.adding`: adds entries to the context;
* `Report.rendered`: the report as a record.
-/

namespace PartitionKeys
namespace Report

/-! ## Kinds and categories -/

inductive Category where
  | config
  | classification
  | internal
  deriving DecidableEq, Repr

namespace Category

def members : List Category :=
  [.config, .classification, .internal]

def value : Category → String
  | .config => "CONFIG"
  | .classification => "CLASSIFICATION"
  | .internal => "INTERNAL"

def find? (v : Value) : Option Category :=
  v.text?.bind fun s => members.find? (fun m => m.value == s)

end Category

inductive Kind where
  | general
  | config
  | missingConfig
  | missingCatalog
  | invalidConfig
  | invalidCatalog
  | classification
  deriving DecidableEq, Repr

namespace Kind

def members : List Kind :=
  [.general, .config, .missingConfig, .missingCatalog, .invalidConfig, .invalidCatalog,
    .classification]

def label : Kind → String
  | .general => "JobSpineError"
  | .config => "ConfigError"
  | .missingConfig => "MissingConfigError"
  | .missingCatalog => "MissingCatalogError"
  | .invalidConfig => "InvalidConfigError"
  | .invalidCatalog => "InvalidCatalogError"
  | .classification => "ClassificationError"

def ofLabel? (s : String) : Option Kind :=
  members.find? (fun k => k.label == s)

def lineage : Kind → List Kind
  | .general => [.general]
  | .config => [.config, .general]
  | .missingConfig => [.missingConfig, .config, .general]
  | .missingCatalog => [.missingCatalog, .missingConfig, .config, .general]
  | .invalidConfig => [.invalidConfig, .config, .general]
  | .invalidCatalog => [.invalidCatalog, .invalidConfig, .config, .general]
  | .classification => [.classification, .general]

def category (k : Kind) : Category :=
  if k = .classification then .classification
  else if Kind.config ∈ k.lineage then .config
  else .internal

end Kind

/-! ## Causes -/

/-- What was raised before a report, by its arguments. -/
inductive Cause where
  /-- A failed look-up shows its key quoted. -/
  | lookup (args : List Value)
  | plain (args : List Value)

def Cause.shown : Cause → String
  | .lookup [key] => key.written
  | .plain [message] => message.shown
  | .lookup args => several args
  | .plain args => several args
where
  several (args : List Value) : String :=
    if args.isEmpty then "" else "(" ++ ", ".intercalate (args.map Value.written) ++ ")"

end Report

/-! ## Reports -/

structure Report where
  kind : Report.Kind
  message : Value
  category : Report.Category := kind.category
  context : Context := {}
  cause : Option Report.Cause := none
  /-- The setting the report was raised for; later context entries do not change it. -/
  key : Option Value := none

namespace Report

def orElse (message : Value) (standing : String) : Value :=
  if message.isTruthy then message else .text standing

def aboutSetting (kind : Kind) (key message : Value) : Report where
  kind
  message
  context := { setting := key }
  key := some key

def missingConfig (key message : Value) : Report :=
  aboutSetting .missingConfig key
    (orElse message ("Missing required configuration: " ++ key.shown))

def missingCatalog (message : Value) : Report :=
  aboutSetting .missingCatalog (.text "catalog") (orElse message "No type catalog given!")

def invalidMessage (key value message : Value) : Value :=
  orElse message ("Invalid configuration for " ++ key.shown ++ ": " ++ value.written)

def invalidConfig (key value message : Value) : Report :=
  aboutSetting .invalidConfig key (invalidMessage key value message)

def invalidCatalog (typeName message : Value) : Report where
  kind := .invalidCatalog
  message := invalidMessage (.text "catalog") typeName message
  context := { typeName, setting := .text "catalog" }
  key := some (.text "catalog")

/-- What a report of a kind is made from. -/
def Kind.signature : Kind → Signature
  | .missingConfig =>
      { operation := "MissingConfigError.__init__", positional := ["self", "key", "message"],
        optional := 1 }
  | .missingCatalog =>
      { operation := "MissingCatalogError.__init__", positional := ["self", "message"],
        optional := 1 }
  | .invalidConfig =>
      { operation := "InvalidConfigError.__init__",
        positional := ["self", "key", "value", "message"], optional := 1 }
  | .invalidCatalog =>
      { operation := "InvalidCatalogError.__init__",
        positional := ["self", "type_name", "message"] }
  | _ =>
      { operation := "JobSpineError.__init__", positional := ["self", "message"],
        named := ["category", "context", "cause"] }

/-- The report of a kind from its values in order, beside values given by name. -/
def ofArguments (kind : Kind) (given : List Value) (names : List String) :
    Except Context.Fault Report :=
  match kind.signature.check (given.length + 1) names with
  | some f => .error (.arguments f)
  | none =>
      let nth (n : Nat) : Value := given.getD n .null
      .ok <|
        match kind with
        | .missingConfig => missingConfig (nth 0) (nth 1)
        | .missingCatalog => missingCatalog (nth 0)
        | .invalidConfig => invalidConfig (nth 0) (nth 1) (nth 2)
        | .invalidCatalog => invalidCatalog (nth 0) (nth 1)
        | kind => { kind, message := nth 0 }

def addingSignature : Signature where
  operation := "JobSpineError.with_context"
  positional := ["self"]
  takesOthers := true

def adding (r : Report) (entries : Fields) : Except Context.Fault Report :=
  match addingSignature.check 1 (entries.map (·.1)) with
  | some f => .error (.arguments f)
  | none => (r.context.putAll entries).map fun context => { r with context }

/-! ## Shown forms -/

def shown (r : Report) : String :=
  r.message.shown

def written (r : Report) : String :=
  r.kind.label ++ "(" ++ r.message.written ++ ", category=" ++ r.category.value ++ ")"

def rendered (r : Report) : Except Context.Fault Fields :=
  r.context.rendered.map fun entries =>
    let head : Fields :=
      [ ("error_type", .text r.kind.label), ("message", r.message),
        ("category", .text r.category.value), ("retryable", .bool false) ]
    let context : Fields := if entries.isEmpty then [] else [("context", .record entries)]
    let cause : Fields :=
      match r.cause with
      | some c => [("cause", .text c.shown)]
      | none => []
    head ++ context ++ cause

end Report
end PartitionKeys
