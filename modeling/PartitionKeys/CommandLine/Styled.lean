import PartitionKeys.Text.Blank
import PartitionKeys.Text.CellWidth

/-!
# Styled — text with styles on stretches of it, laid out in lines

A styled text is broken into lines of a given number of columns: between words where it can be, and
inside a word that fits on no line when the text may be folded.  Styles do not show, but a stretch
is measured by itself when a line is filled up.

* `Styled.wrap`: the lines of a text;
* `Styled.width`: the columns that its longest line wants;
* `Styled.shaped`: a line cut or filled up to a number of columns.
-/

namespace PartitionKeys

/-- The characters from `start` up to `stop` have a style. -/
structure Span where
  start : Nat
  stop : Nat
  style : String
  deriving Repr

structure Styled where
  text : List Char := []
  spans : List Span := []
  deriving Repr

namespace Styled

/-! ## Parts -/

/-- Controls that move the cursor do not show. -/
def shows (c : Char) : Bool :=
  !([7, 8, 11, 12, 13].contains c.toNat)

def append (s t : Styled) : Styled where
  text := s.text ++ t.text
  spans := s.spans ++ t.spans.map fun p =>
    { p with start := s.text.length + p.start, stop := s.text.length + p.stop }

def slice (s : Styled) (first last : Nat) : Styled where
  text := (s.text.drop first).take (last - first)
  spans := s.spans.filterMap fun p =>
    let start := p.start - first
    let stop := min p.stop last - first
    if start < stop then some { p with start, stop } else none

def slicesFrom (s : Styled) (first : Nat) : List Nat → List Styled
  | [] => [s.slice first s.text.length]
  | last :: rest => s.slice first last :: slicesFrom s last rest

/-- The parts between some positions. -/
def divide (s : Styled) (positions : List Nat) : List Styled :=
  if positions.isEmpty then [s] else slicesFrom s 0 positions

/-- The first characters of a text, and the spans that begin among them. -/
def crop (s : Styled) (length : Nat) : Styled where
  text := s.text.take length
  spans := s.spans.filterMap fun p =>
    if p.start < length then some { p with stop := min p.stop length } else none

/-! ## Line feeds and tabs -/

def linesFrom (s : Styled) (first : Nat) : List (List Char) → List Styled
  | [] => []
  | line :: rest =>
      s.slice first (first + line.length) :: linesFrom s (first + line.length + 1) rest

def lines (s : Styled) : List Styled :=
  if s.text.contains '\n' then linesFrom s 0 (Blank.linesFrom (· == '\n') [] s.text) else [s]

def tabSize : Nat :=
  8

/-- A text with spaces at its end, which have the styles of its last character. -/
def extended (s : Styled) (spaces : Nat) : Styled where
  text := s.text ++ List.replicate spaces ' '
  spans := s.spans.map fun p =>
    if s.text.length ≤ p.stop then { p with stop := p.stop + spaces } else p

/-- Puts parts that end in tabs behind `done`, which ends at `column`. -/
def expandFrom (done : Styled) (column : Nat) : List Styled → Styled
  | [] => done
  | part :: rest =>
      if part.text.getLast? = some '\t' then
        let part := { part with text := part.text.dropLast ++ [' '] }
        let column := column + CellWidth.ofChars part.text
        let gap := (tabSize - column % tabSize) % tabSize
        expandFrom (done.append (part.extended gap)) (column + gap) rest
      else expandFrom (done.append part) (column + CellWidth.ofChars part.text) rest

def tabEnds (position : Nat) : List Char → List Nat
  | [] => []
  | c :: rest =>
      if c = '\t' then (position + 1) :: tabEnds (position + 1) rest
      else tabEnds (position + 1) rest

def expandTabs (s : Styled) : Styled :=
  if s.text.contains '\t' then expandFrom {} 0 (s.divide (tabEnds 0 s.text)) else s

/-! ## Breaking between words -/

/-- The next word with the blanks around it. -/
def word? (cs : List Char) : Option (List Char × List Char) :=
  let before := cs.takeWhile Blank.holds
  let cs := cs.drop before.length
  let inner := cs.takeWhile fun c => !Blank.holds c
  let cs := cs.drop inner.length
  let after := cs.takeWhile Blank.holds
  if inner.isEmpty then none else some (before ++ inner ++ after, cs.drop after.length)

theorem word?_length {cs word rest : List Char} (h : word? cs = some (word, rest)) :
    rest.length < cs.length := by
  simp only [word?] at h
  split at h
  · exact absurd h (by simp)
  · rename_i hinner
    rw [Option.some.injEq, Prod.mk.injEq] at h
    obtain ⟨_, rfl⟩ := h
    have hpos := List.length_pos_iff.mpr (mt List.isEmpty_iff.mpr hinner)
    have hle := (List.takeWhile_sublist (fun c => !Blank.holds c) :
      List.Sublist _ (cs.drop (cs.takeWhile Blank.holds).length)).length_le
    simp only [List.length_drop] at hle ⊢
    omega

/-- What goes on after a word: the columns in use and the positions to break at. -/
structure Break where
  used : Nat
  positions : List Nat

/-- Places a word that begins at `start` on a line with `used` columns. -/
def place (width : Nat) (folding : Bool) (used start : Nat) (word : List Char) : Break :=
  let inner := CellWidth.ofChars (Blank.stripEnd word)
  let whole := CellWidth.ofChars word
  let here := if start = 0 then [] else [start]
  if used + inner ≤ width then ⟨used + whole, []⟩
  else if width < inner then
    if folding then
      let pieces := CellWidth.folded width word
      let starts := pieces.dropLast.foldl (fun (ps : List Nat) n => (ps.headD 0 + n) :: ps) [start]
      let last := word.drop (starts.headD 0 - start)
      ⟨CellWidth.ofChars last, starts.reverse.filter (· != 0)⟩
    else ⟨whole, here⟩
  else if used = 0 then ⟨used, []⟩
  else if start = 0 then ⟨used, []⟩
  else ⟨whole, here⟩

def breaksFrom (width : Nat) (folding : Bool) (used start : Nat) (cs : List Char) : List Nat :=
  match h : word? cs with
  | none => []
  | some (word, rest) =>
      have := word?_length h
      let next := place width folding used start word
      next.positions ++ breaksFrom width folding next.used (start + word.length) rest
termination_by cs.length

/-! ## Lines of a width -/

/-- Blanks at the end are dropped as far as a line is too long. -/
def trimmed (s : Styled) (width : Nat) : Styled :=
  let excess := s.text.length - width
  let blanks := s.text.length - (Blank.stripEnd s.text).length
  if min excess blanks = 0 then s else s.crop (s.text.length - min excess blanks)

def ellipsis : Char := '…'

/-- A line that is too wide is cut.  Where text may not be folded, the cut shows as an ellipsis and
a line that is too narrow is filled up with spaces. -/
def fitted (s : Styled) (width : Nat) (folding : Bool) : Styled :=
  let w := CellWidth.ofChars s.text
  if width < w then
    let text :=
      if folding then CellWidth.fit width s.text
      else CellWidth.fit (width - 1) s.text ++ [ellipsis]
    { s.crop text.length with text }
  else if folding then s
  else { s with text := s.text ++ List.replicate (width - w) ' ' }

def wrapLine (width : Nat) (folding : Bool) (s : Styled) : List Styled :=
  (s.divide (breaksFrom width folding 0 0 s.text)).map fun line =>
    (line.trimmed width).fitted width folding

/-- The lines of a text, no wider than a width. -/
def wrap (width : Nat) (folding : Bool) (s : Styled) : List Styled :=
  s.lines.flatMap fun line => wrapLine width folding line.expandTabs

/-- The columns of the longest line. -/
def width (s : Styled) : Nat :=
  (Blank.lines s.text).foldl (fun w line => max w (CellWidth.ofChars line)) 0

/-! ## Stretches -/

/-- Cuts a text at the positions from `position` on that hold; `stretch` is reversed. -/
def stretchesFrom (holds : Nat → Bool) (position : Nat) (stretch : List Char) :
    List Char → List (List Char)
  | [] => if stretch.isEmpty then [] else [stretch.reverse]
  | c :: rest =>
      if holds position && !stretch.isEmpty then
        stretch.reverse :: stretchesFrom holds (position + 1) [c] rest
      else stretchesFrom holds (position + 1) (c :: stretch) rest

/-- The parts of a text between the ends of its spans. -/
def stretches (s : Styled) : List (List Char) :=
  stretchesFrom (fun i => s.spans.any fun p => p.start == i || p.stop == i) 0 [] s.text

def columns (stretches : List (List Char)) : Nat :=
  stretches.foldl (fun n cs => n + CellWidth.ofChars cs) 0

def cropped (width : Nat) : List (List Char) → List (List Char)
  | [] => []
  | cs :: rest =>
      let w := CellWidth.ofChars cs
      if w < width then cs :: cropped (width - w) rest else [CellWidth.fit width cs]

/-- The stretches of a line, cut at a width. -/
def limited (width : Nat) (s : Styled) : List (List Char) :=
  let parts := s.stretches
  if columns parts ≤ width then parts else cropped width parts

def shaped (width : Nat) (s : Styled) : List Char :=
  let parts := s.limited width
  parts.flatten ++ List.replicate (width - columns parts) ' '

end Styled
end PartitionKeys
