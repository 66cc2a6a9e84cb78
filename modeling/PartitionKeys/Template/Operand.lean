import PartitionKeys.Template.Fault
import PartitionKeys.Template.KindTable

/-!
# Operand — what the path of a field leads to

A path starts at a text and leads to its characters, to what the kinds of values offer, and to the
kinds themselves.  A member found in a kind is bound to the value it was asked of.

* `Operand.memberOf`: a step to a member by its name;
* `Operand.elementAt`: a step to what stands under a key;
* `Operand.written`, `Operand.shown`: the operand as text.
-/

namespace PartitionKeys
namespace Template

inductive Operand where
  | text (cs : List Char)
  | whole (n : Nat)
  | truth (b : Bool)
  | nothing
  | kind (name : String)
  /-- Several kinds, in order. -/
  | kinds (names : List String)
  /-- What a kind has been applied to. -/
  | arguments (key : Option Key)
  /-- A kind applied to a key. -/
  | applied (kind : String) (key : Key)
  /-- A member as it stands in its kind. -/
  | member (kind : String) (m : Member)
  /-- A member of a kind bound to a value. -/
  | bound (self : Operand) (kind : String) (m : Member)
  /-- All members of a kind, by name. -/
  | listing (kind : String)
  | emptyRecord
  deriving DecidableEq, Repr

namespace Operand

/-! ## Kinds of operands -/

def kindOfMember (m : Member) : String :=
  match m.form with
  | .operator => "wrapper_descriptor"
  | .method => "method_descriptor"
  | .kindMethod => "classmethod_descriptor"
  | .computed => "getset_descriptor"
  | .stored => "member_descriptor"
  | _ => "staticmethod"

def kindOf : Operand → String
  | .text _ => "str"
  | .whole _ => "int"
  | .truth _ => "bool"
  | .nothing => "NoneType"
  | .kind _ => "type"
  | .kinds _ | .arguments _ => "tuple"
  | .applied _ _ => "types.GenericAlias"
  | .member _ m => kindOfMember m
  | .bound _ _ m => if m.form = .operator then "method-wrapper" else "builtin_function_or_method"
  | .listing _ => "mappingproxy"
  | .emptyRecord => "dict"

def owner : Operand → Owner
  | .kind name => .kind name
  | v => .value v.kindOf

def ofText (s : String) : Operand :=
  .text s.toList

def ofText? (s : Option String) : Operand :=
  (s.map ofText).getD .nothing

/-! ## Attributes of values -/

def shortName (kind : String) : String :=
  (Kind.get kind).shortName

/-- The help text of a kind, or what the kind lists in its place. -/
def helpOf (kind : String) : Operand :=
  let k := Kind.get kind
  match k.help, k.member? "__doc__" with
  | some s, _ => ofText s
  | none, some m => if m.isAttribute then .member kind m else .nothing
  | none, none => .nothing

def ofKind (kind name : String) : Except Fault Operand :=
  let k := Kind.get kind
  match name with
  | "__name__" | "__qualname__" => .ok (ofText k.shortName)
  | "__module__" => .ok (ofText k.home)
  | "__base__" => .ok ((k.base.map .kind).getD .nothing)
  | "__bases__" => .ok (.kinds k.base.toList)
  | "__mro__" => .ok (.kinds (Kind.lineage kind))
  | "__dict__" => .ok (.listing kind)
  | "__doc__" => .ok (helpOf kind)
  | "__text_signature__" => .ok (ofText? k.parameters)
  | "__basicsize__" => .ok (.whole k.sizes.basic)
  | "__itemsize__" => .ok (.whole k.sizes.item)
  | "__flags__" => .ok (.whole k.sizes.flags)
  | "__dictoffset__" => .ok (.whole k.sizes.recordOffset)
  | "__weakrefoffset__" => .ok (.whole k.sizes.referenceOffset)
  | "__abstractmethods__" => .error (.unset name)
  | _ => .error (.noMember (.kind kind) name)

def ofNumber (n : Nat) : String → Operand
  | "imag" => .whole 0
  | "denominator" => .whole 1
  | _ => .whole n

def ofMember (kind : String) (m : Member) : String → Operand
  | "__objclass__" => .kind kind
  | "__name__" => ofText m.name
  | "__qualname__" => ofText (shortName kind ++ "." ++ m.name)
  | "__doc__" => ofText? m.help
  | "__text_signature__" => ofText? m.parameters
  | "__func__" | "__wrapped__" => .bound (.kind kind) kind m
  | "__isabstractmethod__" => .truth false
  | "__dict__" => .emptyRecord
  | _ => .nothing

/-- What a method is named after: the kind it was taken from, or the kind of its value. -/
def ownerName : Operand → String
  | .kind name => shortName name
  | v => shortName v.kindOf

def ofBound (self : Operand) (kind : String) (m : Member) : String → Operand
  | "__self__" => if m.form = .standalone then .nothing else self
  | "__qualname__" =>
      let front := if m.form = .operator then shortName kind else ownerName self
      ofText (front ++ "." ++ m.name)
  | "__objclass__" => .kind kind
  | "__name__" => ofText m.name
  | "__doc__" => ofText? m.help
  | "__text_signature__" => ofText? m.parameters
  | _ => .nothing

def ofApplied (kind : String) (key : Key) : String → Operand
  | "__origin__" => .kind kind
  | "__args__" => .arguments (some key)
  | "__parameters__" => .arguments none
  | "__unpacked__" => .truth false
  | _ => .nothing

/-- The value of an attribute that the kind of an operand offers. -/
def attributeOf (v : Operand) (name : String) : Except Fault Operand :=
  if name = "__class__" then .ok (.kind v.kindOf)
  else
    match v with
    | .kind k => ofKind k name
    | .whole n => .ok (ofNumber n name)
    | .truth b => .ok (ofNumber b.toNat name)
    | .member home m => .ok (ofMember home m name)
    | .bound self home m => .ok (ofBound self home m name)
    | .applied k key => .ok (ofApplied k key name)
    | _ => .ok .nothing

/-! ## Binding -/

/-- A member as a kind itself gives it. -/
def ofKindMember (asked kind : String) (m : Member) : Operand :=
  match m.form with
  | .help => ofText? m.help
  | .nothing => .nothing
  | .kindMethod => .bound (.kind asked) kind m
  | .maker | .standalone => .bound (.kind kind) kind m
  | _ => .member kind m

/-- A member as a value of a kind gives it. -/
def bind (v : Operand) (kind : String) (m : Member) : Operand :=
  match m.form with
  | .operator | .method => .bound v kind m
  | _ => ofKindMember v.kindOf kind m

/-! ## Steps -/

/-- Attributes of the kind come first, then what the kind offers otherwise. -/
def memberOfValue (v : Operand) (name : String) : Except Fault Operand :=
  match Kind.find? v.kindOf name with
  | some (home, m) => if m.isAttribute then v.attributeOf name else .ok (v.bind home m)
  | none => .error (.noMember v.owner name)

/-- A kind gives its own members between its attributes and what all kinds offer. -/
def memberOfKind (asked name : String) : Except Fault Operand :=
  match Kind.find? "type" name, Kind.find? asked name with
  | some (common, m), own =>
      if m.isAttribute then (Operand.kind asked).attributeOf name
      else
        match own with
        | some (home, m) => .ok (ofKindMember asked home m)
        | none => .ok ((Operand.kind asked).bind common m)
  | none, some (home, m) => .ok (ofKindMember asked home m)
  | none, none => .error (.noMember (.kind asked) name)

/-- The names that an applied kind answers itself; it asks its kind for all others. -/
def ownNamesOfApplied : List String :=
  [ "__class__", "__origin__", "__args__", "__unpacked__", "__parameters__",
    "__typing_unpacked_tuple_args__", "__mro_entries__", "__reduce_ex__", "__reduce__",
    "__copy__", "__deepcopy__" ]

def memberOf (name : String) (v : Operand) : Except Fault Operand :=
  match v with
  | .kind asked => memberOfKind asked name
  | .applied k _ =>
      if ownNamesOfApplied.contains name then v.memberOfValue name else memberOfKind k name
  | v => v.memberOfValue name

def listed (kind : String) (m : Member) : Operand :=
  match m.form with
  | .help => ofText? m.help
  | .nothing => .nothing
  | .maker => .bound (.kind kind) kind m
  | _ => .member kind m

/-- The item at a position of several, the kind of which faults name. -/
def itemAt (kind : String) (items : List Operand) : Key → Except Fault Operand
  | .name _ => .error (.textAsIndex kind)
  | .position n =>
      match items[n]? with
      | some v => .ok v
      | none => .error (.indexOutOfRange kind)

def ofKey : Key → Operand
  | .position n => .whole n
  | .name s => ofText s

def appliedText (kind : String) (key : Key) : String :=
  shortName kind ++ "[" ++ key.written ++ "]"

/-- The kind of kinds can be applied to anything, other kinds if they say so. -/
def isGeneric (kind : String) : Bool :=
  kind == "type" || (Kind.find? kind "__class_getitem__").isSome

def elementAt (key : Key) (v : Operand) : Except Fault Operand :=
  match v with
  | .text cs => itemAt "string" (cs.map fun c => .text [c]) key
  | .kinds names => itemAt "tuple" (names.map .kind) key
  | .arguments of => itemAt "tuple" (of.toList.map ofKey) key
  | .listing k =>
      let found : Option Member :=
        match key with
        | .name s => (Kind.get k).member? s
        | .position _ => none
      match found with
      | some m => .ok (listed k m)
      | none => .error (.noEntry key)
  | .emptyRecord => .error (.noEntry key)
  | .kind name => if isGeneric name then .ok (.applied name key) else .error (.notIndexed v.owner)
  | .applied k own => .error (.notGeneric (appliedText k own))
  | v => .error (.notIndexed v.owner)

/-! ## Text -/

def kindText (name : String) : String :=
  let k := Kind.get name
  let home := if k.home == "builtins" then "" else k.home ++ "."
  "<class '" ++ home ++ k.shortName ++ "'>"

def memberText (kind : String) (m : Member) : String :=
  let word :=
    match m.form with
    | .operator => "slot wrapper"
    | .method | .kindMethod => "method"
    | .stored => "member"
    | _ => "attribute"
  "<" ++ word ++ " '" ++ m.name ++ "' of '" ++ kind ++ "' objects>"

def tupleText : List String → String
  | [one] => "(" ++ one ++ ",)"
  | items => "(" ++ ", ".intercalate items ++ ")"

/-- An entry of a listing; what is bound to a kind is told without its place in memory. -/
def listedText (kind : String) (m : Member) : String :=
  match m.form with
  | .help => Quoted.text (m.help.getD "")
  | .nothing => "None"
  | .maker | .standalone => "<built-in method " ++ m.name ++ " of type object>"
  | _ => memberText kind m

def listingText (kind : String) : String :=
  "\x7b" ++
    ", ".intercalate ((Kind.get kind).members.map fun m =>
      Quoted.text m.name ++ ": " ++ listedText kind m) ++ "\x7d"

/-- The operand as it is written inside others, texts quoted. -/
def written : Operand → String
  | .text cs => Quoted.text (String.ofList cs)
  | .whole n => toString n
  | .truth b => if b then "True" else "False"
  | .nothing => "None"
  | .kind name => kindText name
  | .kinds names => tupleText (names.map kindText)
  | .arguments key => tupleText (key.toList.map Key.written)
  | .applied k key => appliedText k key
  | .member home m => memberText home m
  | .bound self _ m =>
      let method :=
        if m.form = .operator then "method-wrapper '" ++ m.name ++ "'"
        else "built-in method " ++ m.name
      "<" ++ method ++ " of " ++ self.kindOf ++ " object>"
  | .listing k => "mappingproxy(" ++ listingText k ++ ")"
  | .emptyRecord => "\x7b\x7d"

def shown : Operand → List Char
  | .text cs => cs
  | .listing k => (listingText k).toList
  | v => v.written.toList

end Operand
end Template
end PartitionKeys
