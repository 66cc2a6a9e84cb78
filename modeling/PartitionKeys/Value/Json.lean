import PartitionKeys.Text.Digit
import PartitionKeys.Value.Basic

/-!
# Json — values as JSON text

Reading splits the text into tokens and folds them over a stack of open lists and records.  A
number with a point or an exponent is real, any other an integer; a repeated key keeps its first
place and its last value.

* `Json.tokens?`: the tokens of a text;
* `Json.read?`: the value of a text;
* `Json.compact`: the value on one line;
* `Json.indented`: the value with each entry on a line of its own, two spaces deeper.
-/

namespace PartitionKeys
namespace Json

/-! ## Tokens -/

inductive Token where
  | openList
  | closeList
  | openRecord
  | closeRecord
  | comma
  | colon
  | scalar (v : Value)

/-- What the scanner is in the middle of; collected characters are in reverse. -/
inductive Mode where
  | between
  | word (taken : List Char)
  | quoted (taken : List Char)
  | escaped (taken : List Char)
  | coded (taken : List Char) (left code : Nat)

def punctuation? : Char → Option Token
  | '[' => some .openList
  | ']' => some .closeList
  | ',' => some .comma
  | ':' => some .colon
  | '{' => some .openRecord
  | '}' => some .closeRecord
  | _ => none

def isSpace (c : Char) : Bool :=
  c == ' ' || c == '\n' || c == '\r' || c == '\t'

def allDigits (cs : List Char) : Bool :=
  !cs.isEmpty && cs.all (·.isDigit)

def signedInt? : List Char → Option Int
  | '-' :: cs => if allDigits cs then some (-(Digit.number 10 cs : Int)) else none
  | '+' :: cs => if allDigits cs then some (Digit.number 10 cs) else none
  | cs => if allDigits cs then some (Digit.number 10 cs) else none

def unsigned (cs : List Char) : Bool × List Char :=
  match cs with
  | '-' :: rest => (true, rest)
  | _ => (false, cs)

def number? (cs : List Char) : Option Value :=
  let (negative, body) := unsigned cs
  let isMark (c : Char) : Bool := c == 'e' || c == 'E'
  let mantissa := body.takeWhile (!isMark ·)
  let whole := mantissa.takeWhile (· != '.')
  let tail := (mantissa.dropWhile (· != '.')).drop 1
  let scale := (body.dropWhile (!isMark ·)).drop 1
  let hasPoint := mantissa.contains '.'
  let hasScale := body.any isMark
  if !allDigits whole || (hasPoint && !allDigits tail) then none
  else if hasPoint || hasScale then
    match if hasScale then signedInt? scale else some 0 with
    | some e =>
        let digits := Digit.number 10 (whole ++ tail)
        some (.real (.ofDecimal negative digits (e - tail.length)))
    | none => none
  else some (.int (if negative then -(Digit.number 10 whole : Int) else Digit.number 10 whole))

def word? (taken : List Char) : Option Token :=
  let cs := taken.reverse
  match String.ofList cs with
  | "null" => some (.scalar .null)
  | "true" => some (.scalar (.bool true))
  | "false" => some (.scalar (.bool false))
  | _ => (number? cs).map .scalar

def plainEscape? : Char → Option Char
  | 'n' => some '\n'
  | 't' => some '\t'
  | 'r' => some '\r'
  | 'b' => some (Char.ofNat 8)
  | 'f' => some (Char.ofNat 12)
  | '/' => some '/'
  | c => if c = Quoted.doubleQuote ∨ c = Quoted.backslash then some c else none

/-- A character beyond the basic plane is written as two codes; the first waits for the second. -/
def joinCode (pending : Option Nat) (code : Nat) : Option Nat × List Char :=
  if 0xd800 ≤ code ∧ code < 0xdc00 then (some code, [])
  else if 0xdc00 ≤ code ∧ code < 0xe000 then
    match pending with
    | some high => (none, [Char.ofNat (0x10000 + (high - 0xd800) * 0x400 + (code - 0xdc00))])
    | none => (none, [Char.ofNat 0xfffd])
  else (none, [Char.ofNat code])

structure Scan where
  mode : Mode := .between
  /-- The first half of a surrogate pair. -/
  high : Option Nat := none
  /-- Finished tokens, latest first. -/
  done : List Token := []

def Scan.between (s : Scan) (c : Char) : Option Scan :=
  if isSpace c then some { s with mode := .between }
  else if c = Quoted.doubleQuote then some { s with mode := .quoted [] }
  else
    match punctuation? c with
    | some t => some { s with mode := .between, done := t :: s.done }
    | none => some { s with mode := .word [c] }

def Scan.step (s : Scan) (c : Char) : Option Scan :=
  match s.mode with
  | .between => s.between c
  | .word taken =>
      if isSpace c || (punctuation? c).isSome then
        match word? taken with
        | some t => { s with done := t :: s.done }.between c
        | none => none
      else some { s with mode := .word (c :: taken) }
  | .quoted taken =>
      if c = Quoted.doubleQuote then
        some { s with
          mode := .between, done := .scalar (.text (String.ofList taken.reverse)) :: s.done }
      else if c = Quoted.backslash then some { s with mode := .escaped taken }
      else some { s with mode := .quoted (c :: taken) }
  | .escaped taken =>
      if c = 'u' then some { s with mode := .coded taken 4 0 }
      else (plainEscape? c).map fun p => { s with mode := .quoted (p :: taken) }
  | .coded taken left code =>
      match Digit.hex? c with
      | none => none
      | some d =>
          let code := 16 * code + d
          if left ≤ 1 then
            let (high, cs) := joinCode s.high code
            some { s with mode := .quoted (cs ++ taken), high := high }
          else some { s with mode := .coded taken (left - 1) code }

def scan (s : Scan) : List Char → Option Scan
  | [] => some s
  | c :: rest =>
      match s.step c with
      | some next => scan next rest
      | none => none

def tokens? (text : String) : Option (List Token) :=
  match scan {} text.toList with
  | some { mode := .between, done, .. } => some done.reverse
  | some { mode := .word taken, done, .. } => (word? taken).map fun t => (t :: done).reverse
  | _ => none

/-! ## Values -/

/-- An open list or record, with its entries so far, latest first. -/
inductive Frame where
  | items (done : List Value)
  | fields (done : Fields)
  | field (done : Fields) (key : String)

/-- What may come next. -/
inductive Expect where
  | value
  | valueOrClose
  | key
  | keyOrClose
  | colon
  | separator

structure Fold where
  stack : List Frame := []
  expect : Expect := .value
  result : Option Value := none

/-- A finished value goes into the innermost open list or record. -/
def Fold.finish (f : Fold) (v : Value) : Option Fold :=
  match f.stack with
  | [] => some { stack := [], expect := .separator, result := some v }
  | .items done :: rest => some { f with stack := .items (v :: done) :: rest, expect := .separator }
  | .field done key :: rest =>
      some { f with stack := .fields (done.put key v) :: rest, expect := .separator }
  | .fields _ :: _ => none

def Fold.close (f : Fold) (t : Token) : Option Fold :=
  match t, f.stack with
  | .closeList, .items done :: rest => { f with stack := rest }.finish (.list done.reverse)
  | .closeRecord, .fields done :: rest => { f with stack := rest }.finish (.record done)
  | _, _ => none

def Fold.openValue (f : Fold) (t : Token) : Option Fold :=
  match t with
  | .scalar v => f.finish v
  | .openList => some { f with stack := .items [] :: f.stack, expect := .valueOrClose }
  | .openRecord => some { f with stack := .fields [] :: f.stack, expect := .keyOrClose }
  | _ => none

def Fold.openKey (f : Fold) (t : Token) : Option Fold :=
  match t, f.stack with
  | .scalar (.text key), .fields done :: rest =>
      some { f with stack := .field done key :: rest, expect := .colon }
  | _, _ => none

def Fold.step (f : Fold) (t : Token) : Option Fold :=
  match f.expect with
  | .value => f.openValue t
  | .valueOrClose =>
      match t with
      | .closeList => f.close t
      | _ => f.openValue t
  | .key => f.openKey t
  | .keyOrClose =>
      match t with
      | .closeRecord => f.close t
      | _ => f.openKey t
  | .colon =>
      match t with
      | .colon => some { f with expect := .value }
      | _ => none
  | .separator =>
      match t, f.stack with
      | .comma, .items _ :: _ => some { f with expect := .value }
      | .comma, .fields _ :: _ => some { f with expect := .key }
      | _, _ => f.close t

def foldTokens (f : Fold) : List Token → Option Fold
  | [] => some f
  | t :: rest =>
      match f.step t with
      | some next => foldTokens next rest
      | none => none

def read? (text : String) : Option Value :=
  match (tokens? text).bind (foldTokens {}) with
  | some { stack := [], result, .. } => result
  | _ => none

/-! ## Printing -/

def escapeChar (c : Char) : List Char :=
  if c = Quoted.doubleQuote ∨ c = Quoted.backslash then [Quoted.backslash, c]
  else if c = '\n' then [Quoted.backslash, 'n']
  else if c = '\r' then [Quoted.backslash, 'r']
  else if c = '\t' then [Quoted.backslash, 't']
  else if c.toNat = 8 then [Quoted.backslash, 'b']
  else if c.toNat = 12 then [Quoted.backslash, 'f']
  else if c.toNat < 0x20 then Quoted.backslash :: 'u' :: Quoted.hex 4 c.toNat
  else [c]

def quoted (s : String) : String :=
  let quote := String.singleton Quoted.doubleQuote
  quote ++ String.ofList (s.toList.flatMap escapeChar) ++ quote

def scalarText : Value → String
  | .null => "null"
  | .bool true => "true"
  | .bool false => "false"
  | .int n => toString n
  | .real x => x.written
  | .text s => quoted s
  | .list _ => "[]"
  | .record _ => "\x7b\x7d"

mutual

def compact : Value → String
  | .list items => "[" ++ ",".intercalate (compactItems items) ++ "]"
  | .record fields => "\x7b" ++ ",".intercalate (compactFields fields) ++ "\x7d"
  | v => scalarText v

def compactItems : List Value → List String
  | [] => []
  | v :: rest => compact v :: compactItems rest

def compactFields : List (String × Value) → List String
  | [] => []
  | (key, v) :: rest => (quoted key ++ ":" ++ compact v) :: compactFields rest

end

def newline (depth : Nat) : String :=
  "\n" ++ String.ofList (List.replicate (2 * depth) ' ')

def block (opening closing : String) (depth : Nat) (entries : List String) : String :=
  opening ++ newline (depth + 1) ++ ("," ++ newline (depth + 1)).intercalate entries ++
    newline depth ++ closing

mutual

def indentedAt (depth : Nat) : Value → String
  | .list (v :: rest) => block "[" "]" depth (indentedItems (depth + 1) (v :: rest))
  | .record (f :: rest) => block "\x7b" "\x7d" depth (indentedFields (depth + 1) (f :: rest))
  | v => scalarText v

def indentedItems (depth : Nat) : List Value → List String
  | [] => []
  | v :: rest => indentedAt depth v :: indentedItems depth rest

def indentedFields (depth : Nat) : List (String × Value) → List String
  | [] => []
  | (key, v) :: rest => (quoted key ++ ": " ++ indentedAt depth v) :: indentedFields depth rest

end

def indented (v : Value) : String :=
  indentedAt 0 v

end Json
end PartitionKeys
