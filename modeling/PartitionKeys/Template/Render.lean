import PartitionKeys.Template.Field
import PartitionKeys.Template.Operand
import PartitionKeys.Template.WholeFormat

/-!
# Render — a template with its placeholders filled in

A field is looked up by its path, converted by its mark, and formatted, in this order; its format
is itself rendered first when fields are nested in it.  Placeholders are known by name only.

* `Placeholders`: the query alias and the type name;
* `Placeholders.find`: the value at the end of a path;
* `Template.render`: the rendered text, or the first fault in reading order;
* `renderPieces_literals`: without fields, rendering writes the literals.
-/

namespace PartitionKeys
namespace Template

structure Placeholders where
  queryAlias : String
  name : String
  deriving DecidableEq, Repr

/-! ## Looking up -/

/-- A text of decimal digits only, as a number. -/
def wholeNumber? (cs : List Char) : Except Fault (Option Nat) :=
  if cs.isEmpty then .ok none
  else
    match scanNumber 0 cs with
    | .error e => .error e
    | .ok (n, rest) => .ok (if rest.isEmpty then some n else none)

def endsName (c : Char) : Bool :=
  c == '.' || c == '['

/-- What stands between brackets is a position if it is a whole number, else a name. -/
def keyOf (position : Option Nat) (item : List Char) : Key :=
  match position with
  | some n => .position n
  | none => .name (String.ofList item)

/-- The steps after the name: `.member` and `[key]`. -/
def follow (v : Operand) : List Char → Except Fault Operand
  | [] => .ok v
  | c :: rest =>
      if c = '.' then
        let name := rest.takeWhile (!endsName ·)
        if name.isEmpty then .error .emptyStep
        else
          match v.memberOf (String.ofList name) with
          | .error e => .error e
          | .ok v => follow v (rest.dropWhile (!endsName ·))
      else if c = '[' then
        let item := rest.takeWhile (· != ']')
        if item.length = rest.length then .error .unclosedIndex
        else
          match wholeNumber? item with
          | .error e => .error e
          | .ok position =>
              if item.isEmpty then .error .emptyStep
              else
                match v.elementAt (keyOf position item) with
                | .error e => .error e
                | .ok v => follow v ((rest.dropWhile (· != ']')).drop 1)
      else .error .junkAfterIndex
termination_by cs => cs.length
decreasing_by
  · have := (List.dropWhile_sublist (l := rest) (!endsName ·)).length_le
    simp only [List.length_cons]
    omega
  · have := (List.dropWhile_sublist (l := rest) (· != ']')).length_le
    simp only [List.length_cons, List.length_drop]
    omega

namespace Placeholders

def get? (p : Placeholders) (name : String) : Option String :=
  match name with
  | "alias" => some p.queryAlias
  | "name" => some p.name
  | _ => none

def find (p : Placeholders) (path : List Char) : Except Fault Operand :=
  let name := path.takeWhile (!endsName ·)
  match wholeNumber? name with
  | .error e => .error e
  | .ok (some n) => .error (.noPosition n)
  | .ok none =>
      if name.isEmpty then .error (.noPosition 0)
      else
        match p.get? (String.ofList name) with
        | none => .error (.unknownName (String.ofList name))
        | some text => follow (.text text.toList) (path.dropWhile (!endsName ·))

end Placeholders

/-! ## Converting -/

/-- The null character converts nothing. -/
def convert (mark : Option Char) (v : Operand) : Except Fault Operand :=
  match mark with
  | none => .ok v
  | some 's' => .ok (.text v.shown)
  | some 'r' => .ok (.text v.written.toList)
  | some 'a' => .ok (.text (Quoted.ascii v.written).toList)
  | some c => if c.toNat = 0 then .ok v else .error (.unknownConversion c)

def formatOperand (format : List Char) (v : Operand) : Except Fault (List Char) :=
  match v with
  | .text cs => FormatSpec.format format cs
  | v =>
      if format.isEmpty then .ok v.shown
      else
        match v with
        | .whole n => WholeFormat.format v.kindOf format n
        | .truth b => WholeFormat.format v.kindOf format b.toNat
        | v => .error (.notFormatted v.kindOf)

/-! ## Rendering -/

/-- How deep templates may stand inside each other. -/
def maxDepth : Nat :=
  2

section

variable (nested : List Char → Except Fault (List Char)) (p : Placeholders)

def renderField (f : Field) : Except Fault (List Char) :=
  match p.find f.path with
  | .error e => .error e
  | .ok v =>
      match convert f.conversion v with
      | .error e => .error e
      | .ok v =>
          match if f.nests then nested f.format else .ok f.format with
          | .error e => .error e
          | .ok format => formatOperand format v

def renderPieces : List Piece → Except Fault (List Char)
  | [] => .ok []
  | .literal c :: rest => (renderPieces rest).map (c :: ·)
  | .field f :: rest =>
      match renderField nested p f with
      | .error e => .error e
      | .ok cs => (renderPieces rest).map (cs ++ ·)

/-- A fault of scanning comes after those of the fields before it. -/
def renderScan (s : Scan) : Except Fault (List Char) :=
  match renderPieces nested p s.pieces, s.fault with
  | .error e, _ => .error e
  | .ok _, some e => .error e
  | .ok cs, none => .ok cs

theorem renderPieces_literals (cs : List Char) :
    renderPieces nested p (cs.map Piece.literal) = .ok cs := by
  induction cs with
  | nil =>
      rfl
  | cons c rest ih =>
      simp [renderPieces, ih, Except.map]

end

def renderTo (p : Placeholders) : Nat → List Char → Except Fault (List Char)
  | 0, _ => .error .tooDeep
  | depth + 1, cs => renderScan (renderTo p depth) p (Scan.ofChars cs)

def render (template : String) (p : Placeholders) : Except Fault String :=
  (renderTo p maxDepth template.toList).map String.ofList

end Template
end PartitionKeys
