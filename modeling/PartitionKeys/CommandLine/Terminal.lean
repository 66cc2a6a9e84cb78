import PartitionKeys.CommandLine.Highlight
import PartitionKeys.CommandLine.Markup
import PartitionKeys.CommandLine.Table

/-!
# Terminal — what marked texts are shown with

Reports and tables are handed to a terminal library, which reads the tags in their texts.  The
program needs nothing of it but that a text without tags is shown and that a tag is closed by its
name.  The library that the program runs with is spelled out in `Markup`, `Highlight`, `TagStyle`,
`Styled` and `Table`.

* `Markup.paragraph`: a marked text in lines that fit a page;
* `Terminal`: a library for paragraphs and tables;
* `Terminal.errorMark`: what a report starts with.
-/

namespace PartitionKeys

def Markup.paragraph (marked : String) : Except Markup.Fault (List String) := do
  let lines := (Highlight.apply (← Markup.read marked)).wrap Table.pageWidth true
  lines.forM fun line => line.spans.forM fun p => Markup.checkStyle p.style
  let shown := lines.map fun line => (line.limited Table.pageWidth).flatten
  return (shown.flatMap Blank.lines).map String.ofList

structure Terminal where
  /-- The lines in which a marked text is shown. -/
  paragraph : String → Except Markup.Fault (List String) := Markup.paragraph
  /-- The table of a title, a heading and rows, all of them marked. -/
  table : String → List String → List (List String) → Except Markup.Fault String := Table.render

namespace Terminal

/-- A report starts with its word in a style. -/
def errorMark : String :=
  "[bold red]Error[/bold red]"

end Terminal
end PartitionKeys
