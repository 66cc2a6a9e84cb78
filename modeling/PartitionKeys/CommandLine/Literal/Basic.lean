import PartitionKeys.CommandLine.Literal.Formatted
import PartitionKeys.CommandLine.Literal.Grammar
import PartitionKeys.Number.Binary64

/-!
# Literal — texts, numbers and collections written as an expression

A literal is a text, a number, a constant, or a tuple, set or record of literals.  Every other
expression is well formed but no literal; members of a set and keys of a record may hold no set and
no record.

* `Literal.expression`: the expression that a text holds;
* `Expr.value`: what is wrong with an expression that should be a literal;
* `Literal.check`: what is wrong with a text that should hold a literal.
-/

namespace PartitionKeys
namespace Literal

/-! ## Expressions -/

/-- Checks one of some texts that stand side by side; `field` reads the expression of a field that
stands in a line. -/
def checkText (field : Nat → List Char → Except Stop Unit) (bytes : Bool) (line : Nat)
    (c : Content) : Except Stop Unit :=
  match if c.formatted then none else c.fault? with
  | some message => .error { message }
  | none =>
      if c.bytes != bytes then .error { message := "cannot mix bytes and nonbytes literals" }
      else if c.formatted then Formatted.check field line c
      else .ok ()

/-- Texts side by side are one text. -/
def textOf (field : Nat → List Char → Except Stop Unit) (ts : List Token) : Except Stop Expr := do
  let contents := ts.map fun t => Content.ofChars t.chars
  let bytes := contents.head?.any (·.bytes)
  (ts.zip contents).forM fun (t, c) => checkText field bytes t.line c
  return if contents.any (·.formatted) then .formatted else .text

/-- What is read from a text whose first line has the number `line`.  A field of a text is shorter
than the text; `depth` is spent on fields within fields. -/
def treesAt : Nat → Grammar.Frame → Nat → List Char → Except Stop (List Tree)
  | 0, _, _, _ => .ok []
  | depth + 1, frame, line, cs =>
      let field (line : Nat) (e : List Char) : Except Stop Unit :=
        match treesAt depth .inField line (['('] ++ e ++ [')', '\n']) with
        | .ok _ => .ok ()
        | .error s => .error { s with settled := false }
      let start : Rule :=
        match frame with
        | .alone => .whole
        | .inField => .starExpressions
      (Grammar.ofExpressions (textOf field)).read? frame start (Token.ofChars line cs).toArray

def expression (cs : List Char) : Except String Expr :=
  match treesAt (cs.length + 1) .alone 1 cs with
  | .ok ts => .ok ((Rule.exprs ts).headD .text)
  | .error s => .error s.message

/-! ## Values -/

inductive Fault where
  | grammar (message : String)
  | value (message : String)
  deriving DecidableEq, Repr

def malformed : Fault :=
  .value "malformed node or string"

/-- The kind of what a value holds that may be neither a member nor a key. -/
abbrev Mutable := Option String

def asMember (m : Mutable) : Except Fault Unit :=
  match m with
  | none => .ok ()
  | some kind => .error (.value ("unhashable type: '" ++ kind ++ "'"))

/-- An imaginary number may be added to a real one, and to a whole one that has a real near it. -/
def Expr.addend : Expr → Except Fault Unit
  | .number (.whole n) | .signed (.number (.whole n)) =>
      match Binary64.ofRatio false n 1 with
      | .finite .. => .ok ()
      | .infinite _ => .error (.value "int too large to convert to float")
  | .number .real | .signed (.number .real) => .ok ()
  | _ => .error malformed

def setName : List Char :=
  ['s', 'e', 't']

mutual

def Expr.value : Expr → Except Fault Mutable
  | .number _ | .text | .constant _ | .signed (.number _) => .ok none
  | .sum left (.number .imaginary) => do
      left.addend
      return none
  | .tuple items => do
      let ms ← valuesOf items
      return ms.findSome? id
  | .set items => do
      membersOf items
      return some "set"
  | .record entries => do
      entriesOf entries
      return some "dict"
  | .call (.name cs) true => if cs = setName then .ok (some "set") else .error malformed
  | _ => .error malformed

def valuesOf : List Expr → Except Fault (List Mutable)
  | [] => .ok []
  | e :: rest => do
      let m ← e.value
      return m :: (← valuesOf rest)

def membersOf : List Expr → Except Fault Unit
  | [] => .ok ()
  | e :: rest => do
      asMember (← e.value)
      membersOf rest

def entriesOf : List (Option Expr × Expr) → Except Fault Unit
  | [] => .ok ()
  | (none, _) :: _ => .error (.value "malformed node or string: None")
  | (some key, e) :: rest => do
      let m ← key.value
      let _ ← e.value
      asMember m
      entriesOf rest

end

/-! ## Whole texts -/

def check (cs : List Char) : Except Fault Unit :=
  if cs.contains (Char.ofNat 0) then .error (.value "source code string cannot contain null bytes")
  else
    match expression (cs.dropWhile fun c => c == ' ' || c == '\t') with
    | .error m => .error (.grammar m)
    | .ok e => e.value.map fun _ => ()

end Literal
end PartitionKeys
