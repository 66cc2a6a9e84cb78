import PartitionKeys.CommandLine.Styled
import PartitionKeys.Text.Digit
import PartitionKeys.Text.Pattern

/-!
# Highlight — parts of a message that look like values

Numbers, quoted texts, calls, addresses, paths, constants, brackets and tags have styles of their
own in a message.  The styles do not show, but a line is measured by the stretches between them.
Which parts have a style is up to a library (`Terminal.Documented` asks nothing of it).

* `Highlight.patterns`: what such parts look like;
* `Highlight.apply`: a text with spans on them.
-/

namespace PartitionKeys
namespace Highlight

open Pattern

/-! ## Characters -/

def digit : Pattern :=
  one Char.isDigit

def digitOfAnyScript : Pattern :=
  one Digit.holds

def isHex (c : Char) : Bool :=
  c.isDigit || ('a' ≤ c.toLower && c.toLower ≤ 'f')

def hex : Pattern :=
  one isHex

def wordOr (others : List Char) : Pattern :=
  one fun c => Word.holds c || others.contains c

def bracket : Pattern :=
  one fun c => [0x28, 0x29, 0x5b, 0x5d, 0x7b, 0x7d].contains c.toNat

def sign : Pattern :=
  one fun c => c == '-' || c == '+'

/-! ## Tags and assignments -/

def tag : Pattern :=
  all (marked (char '<'))
    [ marked (many (wordOr ['-', '.', ':', '|'])), marked (many (one fun _ => true)),
      marked (char '>') ]

def quote : Char := '"'

def assignment : Pattern :=
  all (marked (times (wordOr []) 1 50))
    [ char '=',
      maybe (marked (all (maybe (char quote)) [some (wordOr []), maybe (char quote)])) ]

/-! ## Addresses -/

/-- Groups of hexadecimal digits with a separator between them. -/
def groups (count least most : Nat) (separator : Char) : Pattern :=
  both (times (both (times hex least most) (char separator)) (count - 1) (count - 1))
    (times hex least most)

def networkAddress : Pattern :=
  let part := times digit 1 3
  marked (all part [char '.', part, char '.', part, char '.', part])

def longNetworkAddress : Pattern :=
  let part := all (times hex 1 4) [char ':', maybe (char ':')]
  marked (both (times part 1 7) (times hex 1 4))

def hardwareAddress (pairs quads : Nat) : Pattern :=
  marked (any (groups pairs 1 2 '-') [groups pairs 1 2 ':', groups quads 4 4 '.'])

def identifier : Pattern :=
  let part := both (times hex 4 4) (char '-')
  marked (all (times hex 8 8) [char '-', part, part, part, times hex 12 12])

/-! ## Values -/

def call : Pattern :=
  both (marked (.repeated (wordOr ['.']) 0 none true)) (char '(')

def constant (s : String) : Pattern :=
  all (wordEdge true) [marked (word s), wordEdge true]

def ellipsis : Pattern :=
  marked (word "...")

def decimal : Pattern :=
  all (some digit) [maybe (char '.'), many digit]

/-- An exponent; `few` takes no more than one of its digits. -/
def exponent (few : Bool) : Pattern :=
  maybe (all (char 'e') [maybe sign, .repeated digitOfAnyScript 1 none few])

def imaginary : Pattern :=
  marked
    (all (notAfter Word.holds)
      [ maybe (char '-'), decimal, exponent true,
        maybe (all sign [decimal, exponent false]), char 'j' ])

def number : Pattern :=
  marked
    (either
      (all (notAfter Word.holds) [maybe (char '-'), decimal, exponent true, wordEdge true])
      (both (word "0x") (many hex)))

def path : Pattern :=
  let part := wordOr ['-', '.', '+']
  all (marked (all (wordEdge false) [many (both (char '/') (some part)), char '/']))
    [maybe (marked (many part))]

/-- A text between quotes on one line; its last quote follows no backslash. -/
def quoted (quotes : String) : Pattern :=
  all (maybe (char 'b'))
    [ word quotes, .repeated (one (· != '\n')) 0 none true, notAfter (· == '\\'), word quotes ]

def text : Pattern :=
  both (notAfter fun c => c == '\\' || Word.holds c)
    (marked (any (quoted "'''") [quoted "'", quoted "\"\"\"", quoted "\""]))

def address : Pattern :=
  let scheme := any (word "file") [word "https", word "http", word "ws", word "wss"]
  let isPart (c : Char) : Bool := c.isAlphanum || "-$_+!`(),.?/;:&=%#~@".toList.contains c
  marked (all scheme [word "://", many (one isPart)])

/-! ## Messages -/

def value : Pattern :=
  any networkAddress
    [ longNetworkAddress, hardwareAddress 8 4, hardwareAddress 6 3, identifier, call,
      constant "True", constant "False", constant "None", ellipsis, imaginary, number, path, text,
      address ]

def patterns : List Pattern :=
  [tag, assignment, marked bracket, value]

/-- No style; its span divides a text all the same. -/
def plainStyle : String :=
  "none"

def apply (s : Styled) : Styled :=
  let found := patterns.flatMap fun p => p.findAll s.text
  { s with
    spans := s.spans ++ (found.filter fun part => part.1 < part.2).map fun part =>
      ⟨part.1, part.2, plainStyle⟩ }

end Highlight
end PartitionKeys
