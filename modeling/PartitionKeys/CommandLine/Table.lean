import PartitionKeys.CommandLine.Markup

/-!
# Table — rows of cells in a box

Every column is as wide as its longest line, with one space on either side, as long as the table
fits its page; otherwise the widest columns give way.  A cell that is too wide for its column is
broken between words, and a word that is too long ends in an ellipsis.  The heading has a heavy
frame and the title stands in the middle above.  The box and its widths are a library's; nothing
said of the program depends on them (`Terminal.Documented`).

* `Table.render`: the table with its title;
* `Table.collapse`: widths that fit a limit.
-/

namespace PartitionKeys
namespace Table

/-! ## Widths -/

/-- The columns that a page has. -/
def pageWidth : Nat :=
  400

/-- The spaces on either side of a cell. -/
def margin : Nat :=
  2

def total (ws : List Nat) : Nat :=
  ws.foldl (· + ·) 0

/-- A quotient rounded to the nearest number, and to the even one of two. -/
def roundedQuotient (n d : Nat) : Nat :=
  let q := n / d
  if 2 * (n % d) < d then q
  else if 2 * (n % d) = d ∧ q % 2 = 0 then q
  else q + 1

/-- Takes `excess` off the `count` columns of width `widest`, at most `cap` from each. -/
def reduce (excess count cap widest : Nat) : List Nat → List Nat
  | [] => []
  | w :: ws =>
      if w = widest then
        let d := min cap (roundedQuotient excess count)
        (w - d) :: reduce (excess - d) (count - 1) cap widest ws
      else w :: reduce excess count cap widest ws

/-- The widest columns give way until they are as wide as the next, in at most `fuel` rounds. -/
def collapseFrom (limit : Nat) : Nat → List Nat → List Nat
  | 0, ws => ws
  | fuel + 1, ws =>
      if total ws ≤ limit then ws
      else
        let excess := total ws - limit
        let widest := ws.foldl max 0
        let next := (ws.filter (· != widest)).foldl max 0
        let count := (ws.filter (· == widest)).length
        collapseFrom limit fuel (reduce excess count (min excess (widest - next)) widest ws)

def collapse (limit : Nat) (ws : List Nat) : List Nat :=
  collapseFrom limit (total ws) ws

/-- The widths of columns with their margins; every column has a bar before it, the last one too
after it. -/
def widths (columns : List (List Styled)) : List Nat :=
  let limit := pageWidth - (columns.length + 1)
  collapse limit (columns.map fun cells =>
    cells.foldl (fun w c => max w (min limit (c.width + margin))) 0)

/-! ## Lines -/

/-- A line of a frame: its ends, what joins columns, and what it is drawn with. -/
def ruleLine (left join right fill : Char) (ws : List Nat) : List Char :=
  left :: [join].intercalate (ws.map fun w => List.replicate w fill) ++ [right]

def textLine (bar : Char) (lines : List (List Char)) : List Char :=
  bar :: (lines.map fun line => ' ' :: line ++ [' ', bar]).flatten

/-- The lines of a cell of some width. -/
def cellLines (width : Nat) (cell : Styled) : Except Markup.Fault (List (List Char)) := do
  let lines := cell.wrap (width - margin) false
  lines.forM fun line => line.spans.forM fun p => Markup.checkStyle p.style
  return lines.map (Styled.shaped (width - margin))

/-- A row is as high as its highest cell. -/
def rowLines (bar : Char) (ws : List Nat) (row : List Styled) :
    Except Markup.Fault (List (List Char)) := do
  let cells ← (ws.zip row).mapM fun (w, cell) => cellLines w cell
  let height := cells.foldl (fun n c => max n c.length) 0
  return (List.range height).map fun i =>
    textLine bar ((ws.zip cells).map fun (w, c) => c.getD i (List.replicate (w - margin) ' '))

/-- The smaller half of the space stands before the text. -/
def centered (width : Nat) (line : List Char) : List Char :=
  let space := width - CellWidth.ofChars line
  List.replicate (space / 2) ' ' ++ line ++ List.replicate (space - space / 2) ' '

/-! ## Tables -/

/-- The columns of a table, in which its markup is read. -/
def columns (heading : List String) (rows : List (List String)) :
    Except Markup.Fault (List (List Styled)) :=
  (List.range heading.length).mapM fun i =>
    (heading :: rows).mapM fun row => Markup.read (row.getD i "")

def render (title : String) (heading : List String) (rows : List (List String)) :
    Except Markup.Fault String := do
  let columns ← columns heading rows
  let ws := widths columns
  let row (i : Nat) : List Styled := columns.map fun cells => cells.getD i {}
  let top := ruleLine '┏' '┳' '┓' '━' ws
  let head ← rowLines '┃' ws (row 0)
  let body ← (List.range rows.length).mapM fun i => rowLines '│' ws (row (i + 1))
  let lines :=
    centered top.length title.toList :: top :: head ++ ruleLine '┡' '╇' '┩' '━' ws ::
      body.flatten ++ [ruleLine '└' '┴' '┘' '─' ws]
  return String.ofList (lines.map (· ++ ['\n'])).flatten

end Table
end PartitionKeys
