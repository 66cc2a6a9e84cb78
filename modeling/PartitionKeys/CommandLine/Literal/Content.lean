import PartitionKeys.CommandLine.Literal.Token
import PartitionKeys.Text.CharacterName

/-!
# Content — what stands between the quotes of a text

Letters before a text say how its content is read: as characters or as bytes, with escapes or
without them, with fields to be filled in or without.  A backslash begins an escape, and some
escapes have to go on in a certain way.

* `Content.ofChars`: how a text is to be read, and what stands between its quotes;
* `Content.fault?`: what is wrong with a text without fields;
* `Content.escapesFault?`: the first escape that goes wrong.
-/

namespace PartitionKeys
namespace Literal

structure Content where
  bytes : Bool
  raw : Bool
  formatted : Bool
  chars : List Char
  deriving DecidableEq, Repr

namespace Content

def ofChars (cs : List Char) : Content :=
  let marks := (cs.takeWhile fun c => !isQuote c).map Char.toLower
  let quoted := cs.drop marks.length
  let n := (quotesOf quoted).length
  { bytes := marks.contains 'b'
    raw := marks.contains 'r'
    formatted := marks.contains 'f'
    chars := (quoted.drop n).take (quoted.length - 2 * n) }

/-! ## Escapes -/

def isWide (c : Char) : Bool :=
  0x80 ≤ c.toNat

/-- How many places a character takes up; a wide one is counted as if written with an escape. -/
def size (c : Char) : Nat :=
  if isWide c then 10 else 1

/-- A backslash before a wide character is counted as if written with an escape too. -/
def places : List Char → Nat
  | '\\' :: c :: rest => (if isWide c then 6 else 1) + size c + places rest
  | c :: rest => size c + places rest
  | [] => 0

def escapeFault (first last : Nat) (reason : String) : String :=
  "(unicode error) 'unicodeescape' codec can't decode bytes in position " ++ toString first ++
    "-" ++ toString last ++ ": " ++ reason

/-- An escape by a code in so many hexadecimal digits, and how such an escape is described. -/
structure CodeForm where
  letter : Char
  width : Nat
  shown : String

def codeForms : List CodeForm :=
  [⟨'x', 2, "\\xXX"⟩, ⟨'u', 4, "\\uXXXX"⟩, ⟨'U', 8, "\\UXXXXXXXX"⟩]

/-- The backslash stands at `position`, and `rest` follows the letter. -/
def codeFault? (position : Nat) (form : CodeForm) (rest : List Char) : Option String :=
  let digits := (rest.take form.width).takeWhile isHex
  let fault := escapeFault position (position + 1 + digits.length)
  if digits.length < form.width then some (fault ("truncated " ++ form.shown ++ " escape"))
  else if 0x10ffff < Digit.number 16 digits then some (fault "illegal Unicode character")
  else none

/-- An escape by the name of a character, which stands in braces. -/
def nameFault? (position : Nat) (rest : List Char) : Option String :=
  let malformed (last : Nat) := some (escapeFault position last "malformed \\N character escape")
  if rest.head? = some openingBrace then
    let name := rest.tail.takeWhile (· != closingBrace)
    let last := position + 2 + places name
    if name.isEmpty || name.length + 1 = rest.length then malformed last
    else if CharacterName.holds name then none
    else some (escapeFault position (last + 1) "unknown Unicode character name")
  else malformed (position + 1)

/-- The backslash stands at `position`. -/
def escapeFault? (position : Nat) (letter : Char) (rest : List Char) : Option String :=
  if letter = 'N' then nameFault? position rest
  else (codeForms.find? (·.letter == letter)).bind fun form => codeFault? position form rest

def escapesFault? (position : Nat) : List Char → Option String
  | '\\' :: c :: rest =>
      (escapeFault? position c rest).or (escapesFault? (position + places ['\\', c]) rest)
  | c :: rest => escapesFault? (position + size c) rest
  | [] => none

def bytesFault? (position : Nat) : List Char → Option String
  | '\\' :: c :: rest =>
      if c = 'x' && !((rest.take 2).all isHex && 2 ≤ rest.length) then
        some ("(value error) invalid \\x escape at position " ++ toString position)
      else bytesFault? (position + 2) rest
  | _ :: rest => bytesFault? (position + 1) rest
  | [] => none

def fault? (c : Content) : Option String :=
  if c.bytes then
    if c.chars.any isWide then some "bytes can only contain ASCII literal characters"
    else if c.raw then none
    else bytesFault? 0 c.chars
  else if c.raw then none
  else escapesFault? 0 c.chars

end Content
end Literal
end PartitionKeys
