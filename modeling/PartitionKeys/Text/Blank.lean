/-!
# Blank — white space

The blank characters: the ASCII controls that space text out, the four information separators, the
next-line control and every space separator.

* `Blank.holds c`: `c` is blank;
* `Blank.stripEnd`: a text without its trailing blanks;
* `Blank.words`: the parts of a text between blanks;
* `Blank.lines`: the parts of a text between characters that end a line;
* `Blank.unifyBreaks`: a text with line feeds for all line breaks.
-/

namespace PartitionKeys
namespace Blank

def holds (c : Char) : Bool :=
  let n := c.toNat
  (0x9 ≤ n && n ≤ 0xd) || (0x1c ≤ n && n ≤ 0x20) || n == 0x85 || n == 0xa0 || n == 0x1680 ||
    (0x2000 ≤ n && n ≤ 0x200a) || n == 0x2028 || n == 0x2029 || n == 0x202f || n == 0x205f ||
    n == 0x3000

def stripEnd (cs : List Char) : List Char :=
  (cs.reverse.dropWhile holds).reverse

def strip (cs : List Char) : List Char :=
  stripEnd (cs.dropWhile holds)

/-- `word` is the word read so far, reversed. -/
def wordsFrom (word : List Char) : List Char → List (List Char)
  | [] => if word.isEmpty then [] else [word.reverse]
  | c :: rest =>
      if !holds c then wordsFrom (c :: word) rest
      else if word.isEmpty then wordsFrom [] rest
      else word.reverse :: wordsFrom [] rest

def words (cs : List Char) : List (List Char) :=
  wordsFrom [] cs

/-- Line feeds and the like, the information separators but the last, and the two separators of
lines and paragraphs end a line. -/
def endsLine (c : Char) : Bool :=
  let n := c.toNat
  (0xa ≤ n && n ≤ 0xd) || (0x1c ≤ n && n ≤ 0x1e) || n == 0x85 || n == 0x2028 || n == 0x2029

/-- `line` is the line read so far, reversed. -/
def linesFrom (ends : Char → Bool) (line : List Char) : List Char → List (List Char)
  | [] => [line.reverse]
  | c :: rest =>
      if ends c then line.reverse :: linesFrom ends [] rest else linesFrom ends (c :: line) rest

def lines (cs : List Char) : List (List Char) :=
  linesFrom endsLine [] cs

/-- Every kind of line break becomes one line feed. -/
def unifyBreaks : List Char → List Char
  | '\r' :: '\n' :: rest => '\n' :: unifyBreaks rest
  | '\r' :: rest => '\n' :: unifyBreaks rest
  | c :: rest => c :: unifyBreaks rest
  | [] => []

end Blank
end PartitionKeys
