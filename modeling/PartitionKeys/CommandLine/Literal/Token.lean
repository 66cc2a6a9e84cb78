import PartitionKeys.Text.Blank
import PartitionKeys.Text.Digit
import PartitionKeys.Text.Identifier
import PartitionKeys.Text.Printable
import PartitionKeys.Text.Quoted

/-!
# Token — the names, numbers, texts and signs of an expression

An expression is cut into tokens.  Brackets are counted on the way, lines may be joined by
backslashes or inside brackets, and a line may be indented.  What cannot be read is an obstacle, at
which the tokens end.

* `Token`: a token, and how many brackets are open behind it;
* `Token.ofChars`: the tokens of a text, an end mark or an obstacle last.
-/

namespace PartitionKeys
namespace Literal

/-- An open bracket and the line it stands in. -/
structure Bracket where
  opening : Char
  line : Nat
  deriving DecidableEq, Repr

/-- Why the tokens end. -/
structure Obstacle where
  message : String
  /-- A misspelt token is told whatever else is wrong. -/
  misspelt : Bool
  opened : Option Bracket
  deriving DecidableEq, Repr

inductive Token.Kind where
  | name
  | number
  | text
  /-- A keyword or a sign. -/
  | fixed (word : String)
  | newline
  | indent
  | dedent
  | ending
  | obstacle (o : Obstacle)
  deriving DecidableEq, Repr

structure Token where
  kind : Token.Kind
  chars : List Char := []
  /-- How many brackets are open behind the token. -/
  level : Nat := 0
  line : Nat := 1
  /-- Whether the end of the text showed where the token ends. -/
  atEnd : Bool := false
  deriving DecidableEq, Repr

/-! ## Numbers -/

/-- Characters that would go on with a name. -/
def inName (c : Char) : Bool :=
  c.isAlphanum || c == '_' || 0x80 ≤ c.toNat

def startsName (c : Char) : Bool :=
  inName c && !c.isDigit

/-- Words that may follow a number without a blank. -/
def connectives : List (List Char) :=
  ["and", "else", "for", "not", "or"].map String.toList

def connects (cs : List Char) : Bool :=
  (connectives.any fun w => w.isPrefixOf cs && !(cs.drop w.length).head?.any inName) ||
    ["if", "in", "is"].any fun w => w.toList.isPrefixOf cs

def numberFault (kind : String) : String :=
  "invalid " ++ kind ++ " literal"

/-- What follows a number, which no name may do. -/
def numberEnd (kind : String) (rest : List Char) : Except String (List Char) :=
  if rest.head?.any inName && !connects rest then .error (numberFault kind) else .ok rest

/-- What follows digits with single underscores between them. -/
def decimalEnd : List Char → Except String (List Char)
  | '_' :: c :: rest => if c.isDigit then decimalEnd rest else .error (numberFault "decimal")
  | ['_'] => .error (numberFault "decimal")
  | c :: rest => if c.isDigit then decimalEnd rest else .ok (c :: rest)
  | [] => .ok []

def imaginaryEnd (rest : List Char) : Except String (List Char) :=
  match rest with
  | 'j' :: tail | 'J' :: tail => numberEnd "imaginary" tail
  | _ => numberEnd "decimal" rest

def exponentEnd (rest : List Char) : Except String (List Char) :=
  match rest with
  | c :: tail =>
      if c = 'e' ∨ c = 'E' then
        let signed := tail.head? == some '+' || tail.head? == some '-'
        let digits := if signed then tail.tail else tail
        if digits.head?.any Char.isDigit then do imaginaryEnd (← decimalEnd digits)
        else if signed then .error (numberFault "decimal")
        else numberEnd "decimal" rest
      else imaginaryEnd rest
  | [] => .ok []

def fractionEnd (rest : List Char) : Except String (List Char) := do
  if rest.head?.any Char.isDigit then exponentEnd (← decimalEnd rest) else exponentEnd rest

/-- A number in another base behind its mark; `awaiting` is set where a digit has to stand. -/
def basedEnd (kind : String) (isDigit : Char → Bool) (awaiting : Bool) :
    List Char → Except String (List Char)
  | [] => if awaiting then .error (numberFault kind) else .ok []
  | c :: rest =>
      if isDigit c then basedEnd kind isDigit false rest
      else if c.isDigit then
        .error ("invalid digit '" ++ String.singleton c ++ "' in " ++ kind ++ " literal")
      else if c = '_' then
        match rest with
        | d :: _ =>
            if d = '_' then .error (numberFault kind) else basedEnd kind isDigit true rest
        | [] => .error (numberFault kind)
      else if awaiting then .error (numberFault kind)
      else numberEnd kind (c :: rest)

def isHex (c : Char) : Bool :=
  (Digit.hex? c).isSome

def isOctal (c : Char) : Bool :=
  '0' ≤ c && c ≤ '7'

def isBinary (c : Char) : Bool :=
  c == '0' || c == '1'

def zerosFault : String :=
  "leading zeros in decimal integer literals are not permitted; " ++
    "use an 0o prefix for octal integers"

/-- What follows a number that begins with a digit. -/
def wholeEnd (cs : List Char) : Except String (List Char) := do
  match cs with
  | '0' :: 'x' :: rest | '0' :: 'X' :: rest => basedEnd "hexadecimal" isHex true rest
  | '0' :: 'o' :: rest | '0' :: 'O' :: rest => basedEnd "octal" isOctal true rest
  | '0' :: 'b' :: rest | '0' :: 'B' :: rest => basedEnd "binary" isBinary true rest
  | _ =>
      let rest ← decimalEnd cs
      let digits := (cs.take (cs.length - rest.length)).filter (· != '_')
      let real := rest.head?.any fun c => ['.', 'e', 'E', 'j', 'J'].contains c
      if digits.head? = some '0' ∧ digits.any (· != '0') ∧ !real then .error zerosFault
      else if rest.head? = some '.' then fractionEnd rest.tail
      else exponentEnd rest

/-! ## Texts -/

def isQuote (c : Char) : Bool :=
  c == Quoted.apostrophe || c == Quoted.doubleQuote

def textMarks : List (List Char) :=
  ["", "b", "u", "r", "f", "br", "rb", "fr", "rf"].map String.toList

/-- The quotes that a text begins with, one or three. -/
def quotesOf (cs : List Char) : List Char :=
  match cs with
  | a :: b :: c :: _ => if a = b ∧ b = c then [a, b, c] else [a]
  | _ => cs.take 1

/-- The line that begins behind a character, if one does. -/
def lineBehind (line : Nat) (c : Char) (rest : List Char) : Nat :=
  if c = '\n' ∧ !rest.isEmpty then line + 1 else line

/-- What follows a text and the line there, or the line in which it ought to have ended. -/
def textEnd (quotes : List Char) (line : Nat) : List Char → Except Nat (Nat × List Char)
  | [] => .error line
  | '\\' :: c :: rest => textEnd quotes (lineBehind line c rest) rest
  | c :: rest =>
      if quotes.isPrefixOf (c :: rest) then .ok (line, (c :: rest).drop quotes.length)
      else if c = '\n' ∧ quotes.length = 1 then .error line
      else textEnd quotes (lineBehind line c rest) rest

/-! ## Names and signs -/

def keywords : List (List Char) :=
  ["False", "None", "True", "and", "as", "assert", "async", "await", "break", "class", "continue",
    "def", "del", "elif", "else", "except", "finally", "for", "from", "global", "if", "import",
    "in", "is", "lambda", "nonlocal", "not", "or", "pass", "raise", "return", "try", "while",
    "with", "yield"].map String.toList

/-- How a character is written in a message about it. -/
def codeOf (c : Char) : String :=
  "U+" ++ String.ofList ((Quoted.hex 4 c.toNat).map Char.toUpper)

def strangerFault (c : Char) : String :=
  if CharSet.printable.contains c then
    "invalid character '" ++ String.singleton c ++ "' (" ++ codeOf c ++ ")"
  else "invalid non-printable character " ++ codeOf c

/-- The first character that has no place in a name. -/
def stranger? (word : List Char) : Option Char :=
  if word.all fun c => c.toNat < 0x80 then none
  else
    match word with
    | [] => none
    | c :: rest =>
        if Identifier.starts c then rest.find? fun d => !Identifier.continues d else some c

def signs : List (List Char) :=
  ["**=", "//=", ">>=", "<<=", "...", "!=", "->", ":=", "**", "//", ">>", "<<", "<=", ">=", "==",
    "<>", "+=", "-=", "*=", "/=", "%=", "&=", "|=", "^=", "@="].map String.toList

def signAt (cs : List Char) : List Char :=
  (signs.find? (·.isPrefixOf cs)).getD (cs.take 1)

def openingBrace : Char := '\x7b'

def closingBrace : Char := '\x7d'

/-- The brackets that belong together. -/
def brackets : List (Char × Char) :=
  [('(', ')'), ('[', ']'), (openingBrace, closingBrace)]

def closing? (opening : Char) : Option Char :=
  brackets.lookup opening

def isClosing (c : Char) : Bool :=
  brackets.any fun b => b.2 == c

/-! ## Lines -/

structure Lexer where
  line : Nat := 1
  /-- The columns that lines are indented by, with wide and with narrow tabs, the latest first. -/
  indents : List (Nat × Nat) := []
  opened : List Bracket := []

namespace Lexer

def token (l : Lexer) (kind : Token.Kind) (chars rest : List Char) : Token where
  kind
  chars
  level := l.opened.length
  line := l.line
  atEnd := rest.isEmpty

def stop (l : Lexer) (message : String) (misspelt : Bool) : List Token :=
  [ { l.token (.obstacle ⟨message, misspelt, l.opened.head?⟩) [] [] with atEnd := true } ]

def unclosed (b : Bracket) : String :=
  "'" ++ String.singleton b.opening ++ "' was never closed"

/-- The text ends, perhaps too early. -/
def finish (l : Lexer) (complete : Bool) : List Token :=
  match l.opened with
  | b :: _ => l.stop (unclosed b) false
  | [] =>
      if complete then [l.token .ending [] []] else l.stop "unexpected EOF while parsing" false

def continuationFault : String :=
  "unexpected character after line continuation character"

/-- What follows a backslash that ends a line. -/
def joined (l : Lexer) (cs : List Char) : Except (List Token) (Lexer × List Char) :=
  match cs with
  | '\n' :: rest =>
      if rest.isEmpty then .error (l.finish false) else .ok ({ l with line := l.line + 1 }, rest)
  | _ => .error (l.stop continuationFault false)

/-- The blanks that a line begins with. -/
structure Indentation where
  wide : Nat := 0
  narrow : Nat := 0
  /-- The columns before the first joined line. -/
  joinedAt : Nat := 0

def indentation (l : Lexer) (i : Indentation) :
    List Char → Except (List Token) (Lexer × Indentation × List Char)
  | ' ' :: rest => indentation l { i with wide := i.wide + 1, narrow := i.narrow + 1 } rest
  | '\t' :: rest =>
      indentation l { i with wide := (i.wide / 8 + 1) * 8, narrow := i.narrow + 1 } rest
  | '\x0c' :: rest => indentation l { i with wide := 0, narrow := 0 } rest
  | ['\\', '\n'] => .error (l.finish false)
  | '\\' :: '\n' :: rest =>
      let joinedAt := if i.joinedAt = 0 then i.wide else i.joinedAt
      indentation { l with line := l.line + 1 } { i with joinedAt } rest
  | '\\' :: _ => .error (l.stop continuationFault false)
  | cs => .ok (l, i, cs)

def tabsFault : String :=
  "inconsistent use of tabs and spaces in indentation"

def deepest : Nat :=
  99

/-- How the indentation of a line changes: the tokens for it, or an obstacle. -/
def indented (l : Lexer) (columns : Nat × Nat) : Except (List Token) (Lexer × List Token) :=
  let current := l.indents.headD (0, 0)
  if columns.1 = current.1 then
    if columns.2 = current.2 then .ok (l, []) else .error (l.stop tabsFault false)
  else if current.1 < columns.1 then
    if deepest ≤ l.indents.length then .error (l.stop "too many levels of indentation" false)
    else if columns.2 ≤ current.2 then .error (l.stop tabsFault false)
    else .ok ({ l with indents := columns :: l.indents }, [l.token .indent [] [' ']])
  else
    let kept := l.indents.dropWhile fun i => columns.1 < i.1
    let current := kept.headD (0, 0)
    if columns.1 ≠ current.1 then
      .error (l.stop "unindent does not match any outer indentation level" false)
    else if columns.2 ≠ current.2 then .error (l.stop tabsFault false)
    else
      let count := l.indents.length - kept.length
      .ok ({ l with indents := kept }, List.replicate count (l.token .dedent [] [' ']))

/-! ## Tokens -/

def opening (l : Lexer) (c : Char) : Lexer :=
  { l with opened := ⟨c, l.line⟩ :: l.opened }

/-- A closing bracket has to close the latest open one. -/
def closing (l : Lexer) (c : Char) : Except String Lexer :=
  match l.opened with
  | [] => .error ("unmatched '" ++ String.singleton c ++ "'")
  | b :: outer =>
      if closing? b.opening = some c then .ok { l with opened := outer }
      else
        .error ("closing parenthesis '" ++ String.singleton c ++
          "' does not match opening parenthesis '" ++ String.singleton b.opening ++ "'" ++
          (if b.line = l.line then "" else " on line " ++ toString b.line))

def unterminated (quotes : List Char) (line : Nat) : String :=
  "unterminated " ++ (if quotes.length = 3 then "triple-quoted " else "") ++
    "string literal (detected at line " ++ toString line ++ ")"

def mostBrackets : Nat :=
  200

def isLineBlank (c : Char) : Bool :=
  c == ' ' || c == '\t' || c == '\x0c'

/-- The characters before a rest. -/
def upTo (cs rest : List Char) : List Char :=
  cs.take (cs.length - rest.length)

abbrev Step := Token × Lexer × List Char

/-- The next token of a line, with what follows it; line breaks are no part of this. -/
def next (l : Lexer) (c : Char) (rest : List Char) : Except (List Token) Step :=
  let cs := c :: rest
  let word := cs.takeWhile inName
  let after := cs.drop word.length
  let misspelt (m : String) : Except (List Token) Step := .error (l.stop m true)
  if after.head?.any isQuote && textMarks.contains (word.map Char.toLower) then
    let quotes := quotesOf after
    match textEnd quotes l.line (after.drop quotes.length) with
    | .error line => misspelt (unterminated quotes line)
    | .ok (line, rest) =>
        let chars := upTo cs rest
        let empty := chars.length = word.length + 2
        let t := { l.token .text chars rest with atEnd := rest.isEmpty && empty }
        .ok (t, { l with line }, rest)
  else if startsName c then
    match stranger? word with
    | some d => misspelt (strangerFault d)
    | none =>
        let kind : Token.Kind :=
          if keywords.contains word then .fixed (String.ofList word) else .name
        .ok (l.token kind word after, l, after)
  else if c.isDigit || (c == '.' && rest.head?.any Char.isDigit) then
    match if c = '.' then fractionEnd rest else wholeEnd cs with
    | .error m => misspelt m
    | .ok after => .ok (l.token .number (upTo cs after) after, l, after)
  else
    let sign := signAt cs
    let after := cs.drop sign.length
    let fixed (l : Lexer) : Except (List Token) Step :=
      let t := l.token (.fixed (String.ofList sign)) sign after
      .ok ({ t with atEnd := after.isEmpty && sign.length < 3 }, l, after)
    if (closing? c).isSome then
      if mostBrackets ≤ l.opened.length then misspelt "too many nested parentheses"
      else fixed (l.opening c)
    else if isClosing c then
      match l.closing c with
      | .error m => misspelt m
      | .ok l => fixed l
    else if sign.length = 1 && !CharSet.printable.contains c then misspelt (strangerFault c)
    else fixed l

/-- Reads tokens from the beginning of a line or from inside it; `fuel` is spent on characters and
lines. -/
def lexFrom (fuel : Nat) (lineStart blank : Bool) (l : Lexer) (cs : List Char) : List Token :=
  match fuel with
  | 0 => l.finish true
  | fuel + 1 =>
      if lineStart then
        match l.indentation {} cs with
        | .error ts => ts
        | .ok (l, i, rest) =>
            let blank := rest.head? == some '#' || rest.head? == some '\n'
            if blank || !l.opened.isEmpty then lexFrom fuel false blank l rest
            else
              let columns :=
                if i.joinedAt = 0 then (i.wide, i.narrow) else (i.joinedAt, i.joinedAt)
              match l.indented columns with
              | .error ts => ts
              | .ok (l, ts) => ts ++ lexFrom fuel false blank l rest
      else
        let cs := cs.dropWhile isLineBlank
        match if cs.head? = some '#' then cs.dropWhile (· != '\n') else cs with
        | [] => l.finish true
        | '\n' :: rest =>
            let below := { l with line := lineBehind l.line '\n' rest }
            if blank || !l.opened.isEmpty then lexFrom fuel true false below rest
            else l.token .newline [] [' '] :: lexFrom fuel true false below rest
        | '\\' :: rest =>
            match l.joined rest with
            | .error ts => ts
            | .ok (l, rest) => lexFrom fuel false blank l rest
        | c :: rest =>
            match l.next c rest with
            | .error ts => ts
            | .ok (t, l, rest) => t :: lexFrom fuel false blank l rest

end Lexer

/-- The tokens of a text whose first line has the number `line`. -/
def Token.ofChars (line : Nat) (cs : List Char) : List Token :=
  let cs := Blank.unifyBreaks cs
  Lexer.lexFrom (2 * cs.length + 4) true false { line } cs

end Literal
end PartitionKeys
