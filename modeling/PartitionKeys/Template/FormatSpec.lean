import PartitionKeys.Template.Fault
import PartitionKeys.Text.Digit

/-!
# FormatSpec — how a value is padded and cut

A format gives, in this order and all optional: a fill character before an alignment mark, a sign,
`z`, `#`, `0`, a least width, a digit separator, a precision after a point, and a type.  For texts
only the type `s` exists, the precision is the greatest length, and sign, `z`, `#`, separators and
the alignment `=` are refused.

* `FormatSpec.ofChars`: reads a format for a kind of values;
* `FormatSpec.apply`: cuts a text to the greatest length, then pads it to the least width;
* `FormatSpec.format`: both.
-/

namespace PartitionKeys
namespace Template

/-! ## Numbers in templates -/

/-- The greatest number a template may hold: the greatest of 64 bits with a sign. -/
def maxNumber : Nat :=
  9223372036854775807

/-- Decimal digits at the front, as a number, and the rest. -/
def scanNumber (n : Nat) : List Char → Except Fault (Nat × List Char)
  | [] => .ok (n, [])
  | c :: rest =>
      match Digit.value? c with
      | none => .ok (n, c :: rest)
      | some d =>
          if maxNumber < 10 * n + d then .error .tooManyDigits else scanNumber (10 * n + d) rest

/-- A number at the front, if a digit stands there. -/
def scanNumber? (cs : List Char) : Except Fault (Option Nat × List Char) :=
  match cs with
  | [] => .ok (none, [])
  | c :: _ =>
      if Digit.holds c then
        match scanNumber 0 cs with
        | .error e => .error e
        | .ok (n, rest) => .ok (some n, rest)
      else .ok (none, cs)

/-! ## Formats -/

inductive Align where
  | left
  | right
  | center
  | afterSign
  deriving DecidableEq, Repr

def Align.ofChar? : Char → Option Align
  | '<' => some .left
  | '>' => some .right
  | '^' => some .center
  | '=' => some .afterSign
  | _ => none

structure FormatSpec where
  fill : Char := ' '
  align : Align := .left
  sign : Option Char := none
  zeroCoercion : Bool := false
  alternate : Bool := false
  width : Option Nat := none
  separator : Option Char := none
  precision : Option Nat := none
  type : Char := 's'
  deriving Repr

namespace FormatSpec

/-! ## Reading a format -/

def scanAlign (cs : List Char) : Option Char × Option Align × List Char :=
  match cs with
  | a :: b :: rest =>
      match Align.ofChar? b, Align.ofChar? a with
      | some align, _ => (some a, some align, rest)
      | none, some align => (none, some align, b :: rest)
      | none, none => (none, none, cs)
  | [a] =>
      match Align.ofChar? a with
      | some align => (none, some align, [])
      | none => (none, none, cs)
  | [] => (none, none, [])

def scanOneOf (marks : List Char) (cs : List Char) : Option Char × List Char :=
  match cs with
  | c :: rest => if marks.contains c then (some c, rest) else (none, cs)
  | [] => (none, [])

def scanSeparator (cs : List Char) : Except Fault (Option Char × List Char) :=
  match cs with
  | ',' :: '_' :: _ => .error .separatorsTwice
  | '_' :: ',' :: _ => .error .separatorsTwice
  | ',' :: rest => .ok (some ',', rest)
  | '_' :: rest => .ok (some '_', rest)
  | _ => .ok (none, cs)

def scanPrecision (cs : List Char) : Except Fault (Option Nat × List Char) :=
  match cs with
  | '.' :: rest =>
      match scanNumber? rest with
      | .error e => .error e
      | .ok (none, _) => .error .noPrecision
      | .ok (some n, rest) => .ok (some n, rest)
  | _ => .ok (none, cs)

/-- The types that take a separator: all of numbers, and of these the ones in powers of two only
take an underscore. -/
def takesSeparator (separator type : Char) : Bool :=
  "defgEG%F".toList.contains type || (separator == '_' && "boxX".toList.contains type)

/-- What a format leaves open for a kind of values. -/
structure Standing where
  kind : String := "str"
  type : Char := 's'
  align : Align := .left
  deriving DecidableEq, Repr

/-- A zero before the width is the fill character; where values stand on the right, it goes between
sign and digits. -/
def ofChars (standing : Standing) (cs : List Char) : Except Fault FormatSpec :=
  let (fill, align, rest) := scanAlign cs
  let (sign, rest) := scanOneOf ['+', '-', ' '] rest
  let (zero, rest) := scanOneOf ['z'] rest
  let (alternate, rest) := scanOneOf ['#'] rest
  let (padZero, rest) := if fill.isSome then (none, rest) else scanOneOf ['0'] rest
  match scanNumber? rest with
  | .error e => .error e
  | .ok (width, rest) =>
      match scanSeparator rest with
      | .error e => .error e
      | .ok (separator, rest) =>
          match scanPrecision rest with
          | .error e => .error e
          | .ok (precision, rest) =>
              match rest with
              | _ :: _ :: _ => .error (.invalidSpec (String.ofList cs) standing.kind)
              | _ =>
                  let type := rest.headD standing.type
                  let usual :=
                    if padZero.isSome && standing.align = .right then .afterSign
                    else standing.align
                  let spec : FormatSpec :=
                    { fill := (fill.or padZero).getD ' ', align := align.getD usual, sign,
                      zeroCoercion := zero.isSome, alternate := alternate.isSome, width,
                      separator, precision, type }
                  match separator with
                  | some mark =>
                      if takesSeparator mark type then .ok spec
                      else .error (.separatorBefore mark type)
                  | none => .ok spec

/-! ## Applying a format -/

/-- What a text cannot be formatted by. -/
def refusal? (spec : FormatSpec) : Option Fault :=
  if spec.type ≠ 's' then some (.unknownType spec.type "str")
  else
    match spec.sign with
    | some ' ' => some .spaceOnText
    | some _ => some .signOnText
    | none =>
        if spec.zeroCoercion then some .zeroCoercionOnText
        else if spec.alternate then some .alternateOnText
        else if spec.align = .afterSign then some .equalsOnText
        else none

/-- A text of more characters cannot be held. -/
def longest : Nat :=
  68719476736

def cut (precision : Option Nat) (cs : List Char) : List Char :=
  match precision with
  | some n => cs.take n
  | none => cs

def pad (fill : Char) (align : Align) (width : Nat) (cs : List Char) : List Char :=
  let missing := width - cs.length
  let left :=
    match align with
    | .right => missing
    | .center => missing / 2
    | _ => 0
  List.replicate left fill ++ cs ++ List.replicate (missing - left) fill

def apply (spec : FormatSpec) (cs : List Char) : Except Fault (List Char) :=
  match spec.refusal? with
  | some e => .error e
  | none =>
      let width := spec.width.getD 0
      if longest ≤ width then .error .tooLong
      else .ok (pad spec.fill spec.align width (cut spec.precision cs))

/-- The empty format leaves a text as it is. -/
def format (spec cs : List Char) : Except Fault (List Char) :=
  if spec.isEmpty then .ok cs
  else
    match ofChars {} spec with
    | .error e => .error e
    | .ok spec => spec.apply cs

end FormatSpec
end Template
end PartitionKeys
