import PartitionKeys.CommandLine.Literal.Content
import PartitionKeys.CommandLine.Literal.Reading

/-!
# Formatted — texts with fields to be filled in

Between braces a text holds fields: an expression, perhaps an equals sign that asks for the text of
the expression as well, a conversion behind an exclamation mark, and a format behind a colon, which
may hold fields itself.  Braces that belong to no field are doubled.

* `Formatted.literal`: what stands before the next brace;
* `Formatted.expression`: the expression that a field begins with;
* `Formatted.check`: what is wrong with a text or one of its fields.
-/

namespace PartitionKeys
namespace Literal
namespace Formatted

def fault {α : Type} (message : String) : Except Stop α :=
  .error { message := "f-string: " ++ message }

def shown (c : Char) : String :=
  "'" ++ String.singleton c ++ "'"

def missingBrace {α : Type} : Except Stop α :=
  fault ("expecting " ++ shown closingBrace)

/-! ## Between fields -/

/-- What the next character is part of: nothing special, an escape, or one by a name. -/
inductive Mode where
  | plain
  | escaped
  | naming
  | named
  deriving DecidableEq, Repr

structure Piece where
  chars : List Char
  /-- From a brace on, if there is one. -/
  rest : List Char
  /-- Whether the piece ends with one of two braces, which stand for one. -/
  doubled : Bool := false

/-- Reads a piece; `taken` is reversed.  Braces in a format are never doubled. -/
def literal (raw inFormat : Bool) (mode : Mode) (taken : List Char) :
    List Char → Except Stop Piece
  | [] => .ok { chars := taken.reverse, rest := [] }
  | c :: rest =>
      let further (mode : Mode) := literal raw inFormat mode (c :: taken) rest
      match mode with
      | .naming => further (if c = openingBrace then .named else .plain)
      | .named => further (if c = closingBrace then .plain else .named)
      | _ =>
          if mode = .escaped ∧ c = 'N' then further .naming
          else if mode = .plain ∧ !raw ∧ c = Quoted.backslash then further .escaped
          else if c ≠ openingBrace ∧ c ≠ closingBrace then further .plain
          else if inFormat then .ok { chars := taken.reverse, rest := c :: rest }
          else if rest.head? = some c then
            .ok { chars := (c :: taken).reverse, rest := rest.tail, doubled := true }
          else if c = closingBrace then fault ("single " ++ shown c ++ " is not allowed")
          else .ok { chars := taken.reverse, rest := c :: rest }

/-! ## Fields -/

/-- Where the characters of an expression stand: in a text of its own, within brackets. -/
structure Inside where
  /-- The quote that ends the text, and how many of them do. -/
  quote : Option (Char × Nat) := none
  opened : List Char := []
  /-- How many characters belong to the one before. -/
  skipped : Nat := 0

/-- Signs that end an expression, unless an equals sign makes them an operator. -/
def endings : List Char :=
  ['!', ':', '=', '<', '>', closingBrace]

/-- Whether a quote stands there three times. -/
def isTriple (c : Char) (rest : List Char) : Bool :=
  [c, c].isPrefixOf rest

/-- Reads an expression and what follows it; `taken` is reversed. -/
def expression (i : Inside) (taken : List Char) :
    List Char → Except Stop (List Char × List Char)
  | [] =>
      match i.quote, i.opened with
      | some _, _ => fault "unterminated string"
      | none, c :: _ => fault ("unmatched " ++ shown c)
      | none, [] => .ok (taken.reverse, [])
  | c :: rest =>
      let further (i : Inside) := expression i (c :: taken) rest
      if 0 < i.skipped then further { i with skipped := i.skipped - 1 }
      else if c = Quoted.backslash then
        .error { message := "f-string expression part cannot include a backslash" }
      else
        match i.quote with
        | some (q, n) =>
            if c ≠ q ∨ n = 3 ∧ !isTriple c rest then further i
            else further { i with quote := none, skipped := n - 1 }
        | none =>
            if isQuote c then
              let n := if isTriple c rest then 3 else 1
              further { i with quote := some (c, n), skipped := n - 1 }
            else if (closing? c).isSome then
              if Lexer.mostBrackets ≤ i.opened.length then fault "too many nested parenthesis"
              else further { i with opened := c :: i.opened }
            else if c = '#' then
              .error { message := "f-string expression part cannot include '#'" }
            else if i.opened.isEmpty && endings.contains c then
              if rest.head? = some '=' ∧ c ≠ ':' ∧ c ≠ closingBrace then
                further { i with skipped := 1 }
              else if c = '<' ∨ c = '>' then further i
              else .ok (taken.reverse, c :: rest)
            else if isClosing c then
              match i.opened with
              | [] => fault ("unmatched " ++ shown c)
              | b :: outer =>
                  if closing? b = some c then further { i with opened := outer }
                  else
                    fault ("closing parenthesis " ++ shown c ++
                      " does not match opening parenthesis " ++ shown b)
            else further i

def isSpace (c : Char) : Bool :=
  c == ' ' || ('\t' ≤ c && c ≤ '\r')

/-- An expression has to be there, and something has to follow it. -/
def present (expression rest : List Char) : Except Stop Unit :=
  match rest with
  | [] => missingBrace
  | c :: _ =>
      if !expression.all fun c => c == '\n' || Lexer.isLineBlank c then .ok ()
      else if ['!', ':', '='].contains c then fault ("expression required before " ++ shown c)
      else fault "empty expression not allowed"

/-- What follows an equals sign, if there is one. -/
def debugged : List Char → List Char
  | '=' :: rest => rest.dropWhile isSpace
  | rest => rest

def converted : List Char → Except Stop (List Char)
  | '!' :: c :: rest =>
      if ['s', 'r', 'a'].contains c then .ok rest
      else fault "invalid conversion character: expected 's', 'r', or 'a'"
  | rest => .ok rest

/-- What follows a format, which is read by `pieces`. -/
def formattedBy (pieces : List Char → Except Stop (List Char)) :
    List Char → Except Stop (List Char)
  | ':' :: c :: rest => pieces (c :: rest)
  | rest => .ok rest

def deepest : Nat :=
  2

/-- What follows a field.  The expression is read by `read`, which is given the characters of the
text that are left from the field on. -/
def field (read : List Char → List Char → Except Stop Unit)
    (pieces : List Char → Except Stop (List Char)) (level : Nat) (cs : List Char) :
    Except Stop (List Char) := do
  if deepest ≤ level then fault "expressions nested too deeply"
  else
    let (e, rest) ← expression {} [] cs
    present e rest
    read cs e
    let rest ← converted (debugged rest)
    let rest ← formattedBy pieces rest
    if rest.head? = some closingBrace then return rest.tail else missingBrace

/-! ## Whole texts -/

/-- Reads pieces and the fields between them up to the end of the text, or of a format if `level`
is not zero.  Every piece and field takes a character from `fuel`. -/
def pieces (read : List Char → List Char → Except Stop Unit) (raw : Bool) :
    Nat → Nat → List Char → Except Stop (List Char)
  | 0, _, cs => .ok cs
  | fuel + 1, level, cs => do
      let p ← literal raw (level != 0) .plain [] cs
      match if raw then none else Content.escapesFault? 0 p.chars with
      | some message => .error { message }
      | none =>
          if p.doubled then pieces read raw fuel level p.rest
          else if p.rest.head? = some openingBrace then
            let rest ← field read (pieces read raw fuel (level + 1)) level p.rest.tail
            pieces read raw fuel level rest
          else if level ≠ 0 ∧ p.rest.isEmpty then missingBrace
          else return p.rest

/-- Checks a text that begins in line `line`; `read` reads the expression of a field, given the
line that it stands in. -/
def check (read : Nat → List Char → Except Stop Unit) (line : Nat) (c : Content) :
    Except Stop Unit := do
  let lineOf (rest : List Char) := line + (Lexer.upTo c.chars rest).count '\n'
  let _ ← pieces (fun rest e => read (lineOf rest) e) c.raw (c.chars.length + 1) 0 c.chars

end Formatted
end Literal
end PartitionKeys
