import Mathlib.Data.List.Chain
import PartitionKeys.CommandLine.Terminal
import PartitionKeys.Proofs.CommandLine.Styled
import PartitionKeys.Proofs.Except

/-!
# Markup — texts whose tags cannot be read

A text is unreadable when a tag in it is wrong, or when the style of a tag turns out to be wrong as
soon as the text is shown.  Either takes a bracket with the beginning of a tag right behind it.
Tables and paragraphs fail for nothing else.

* `Markup.TagFree`: characters that begin no tag;
* `Terminal.Documented`: what is taken from the documentation of a terminal library;
* `Markup.Unreadable`: why a text cannot be read;
* `Markup.Unreadable.tagged`: only a text that begins a tag cannot be read;
* `Table.exists_unreadable_of_render`: a table fails for one of its texts;
* `Markup.unreadable_of_paragraph`: a paragraph fails for its text.
-/

namespace PartitionKeys

/-! ## Texts without tags -/

namespace Markup

/-- No bracket has a character right behind it that begins a tag. -/
def TagFree (cs : List Char) : Prop :=
  cs.IsChain fun b c => ¬(b = '[' ∧ opensTag c = true)

end Markup

namespace Terminal

def Untagged (text : String) : Prop :=
  Markup.TagFree text.toList

/-- Tags stand in square brackets and begin with a small letter, a number sign, a slash or an at
sign: texts in which nothing is like that are shown, whatever they are, and the word of a report is
shown in its style, as the tag behind it closes the tag before it. -/
structure Documented (t : Terminal) : Prop where
  table_shown : ∀ title heading rows, Untagged title →
    (∀ row ∈ heading :: rows, ∀ text ∈ row, Untagged text) →
      ∃ output, t.table title heading rows = .ok output
  paragraph_shown : ∀ text, Untagged text → ∃ lines, t.paragraph (errorMark ++ text) = .ok lines

end Terminal

namespace Markup

variable {cs rest : List Char} {text style : String} {shown : Styled} {fault : Fault}

theorem TagFree.append {front back : List Char} (hfront : TagFree front) (hback : TagFree back)
    (hlast : front.getLast? ≠ some '[') : TagFree (front ++ back) := by
  refine List.IsChain.append hfront hback ?_
  rintro b hb c _ ⟨rfl, _⟩
  exact hlast hb

/-! ## Pieces -/

theorem tag?_eq_none (h : ∀ c ∈ rest.head?, opensTag c ≠ true) : tag? rest = none := by
  unfold tag?
  dsimp only
  split
  · rename_i c _ _ htext _
    -- The text of a tag starts where the text behind the bracket does.
    have hhead : c ∈ rest.head? := by
      cases rest with
      | nil => cases htext
      | cons d rest =>
          rw [List.takeWhile_cons] at htext
          split at htext
          · cases htext
            exact rfl
          · cases htext
    rw [if_neg (h c hhead)]
  · rfl

theorem escaped?_tagFree (h : TagFree cs) : escaped? cs = none := by
  unfold escaped?
  dsimp only
  split
  · rename_i rest hdrop
    have hbracket : TagFree ('[' :: rest) := hdrop ▸ List.IsChain.drop h _
    have hnone : tag? rest = none :=
      tag?_eq_none fun c hc hopens => (List.isChain_cons.1 hbracket).1 c hc ⟨rfl, hopens⟩
    rw [hnone]
    rfl
  · rfl

theorem piecesFrom_cons_plain {c : Char} (h : escaped? (c :: rest) = none) (before : List Char)
    (position : Nat) :
    piecesFrom before position (c :: rest) = piecesFrom (c :: before) (position + 1) rest := by
  rw [piecesFrom]
  split
  · rfl
  · rename_i hsome
    rw [h] at hsome
    cases hsome

theorem piecesFrom_tagFree (h : TagFree cs) (before : List Char) (position : Nat) :
    piecesFrom before position cs = plainPiece (before.reverse ++ cs) := by
  induction cs generalizing before position with
  | nil =>
      rw [piecesFrom, List.append_nil]
  | cons c rest ih =>
      have hrest : TagFree rest := List.IsChain.tail h
      rw [piecesFrom_cons_plain (escaped?_tagFree h), ih hrest, List.reverse_cons,
        List.append_assoc]
      rfl

/-! ## Plain texts -/

theorem step_plain (p : Progress) (cs : List Char) :
    ∃ text, step p (.plain cs) = .ok { p with text } :=
  ⟨_, rfl⟩

theorem foldlM_cons_ok {p q : Progress} {piece : Piece} (h : step p piece = .ok q)
    (rest : List Piece) : (piece :: rest).foldlM step p = rest.foldlM step q := by
  rw [List.foldlM_cons, h]
  rfl

theorem foldlM_plainPiece (p : Progress) (cs : List Char) :
    ∃ text, (plainPiece cs).foldlM step p = .ok { p with text } := by
  unfold plainPiece
  split
  · exact ⟨p.text, rfl⟩
  · rcases step_plain p cs with ⟨text, htext⟩
    exact ⟨text, foldlM_cons_ok htext []⟩

/-- Without a tag nothing has a style. -/
theorem read_untagged (h : Terminal.Untagged text) :
    ∃ shown, read text = .ok shown ∧ shown.styles = [] := by
  unfold read
  dsimp only
  split
  · rcases foldlM_plainPiece {} text.toList with ⟨plain, hplain⟩
    rw [pieces, piecesFrom_tagFree h, List.reverse_nil, List.nil_append, hplain]
    refine ⟨⟨plain, List.mergeSort [] _⟩, rfl, ?_⟩
    rw [Styled.styles, List.mergeSort_nil, List.map_nil]
  · exact ⟨_, rfl, rfl⟩

/-! ## Unreadable texts -/

inductive Unreadable (text : String) (fault : Fault) : Prop where
  | tag (h : read text = .error fault)
  | style {shown : Styled} {style : String} (h : read text = .ok shown)
      (hstyle : style ∈ shown.styles) (hfault : checkStyle style = .error fault)

theorem Unreadable.tagged (h : Unreadable text fault) : ¬Terminal.Untagged text := by
  intro hnone
  rcases read_untagged hnone with ⟨plain, hread, hstyles⟩
  cases h with
  | tag h =>
      rw [hread] at h
      cases h
  | style h hstyle _ =>
      rw [hread] at h
      cases h
      rw [hstyles] at hstyle
      cases hstyle

/-- Showing lines of a text asks for no style that the text does not have. -/
theorem exists_style_of_forM {width : Nat} {folding : Bool}
    (h : ((shown.wrap width folding).forM fun line =>
      line.spans.forM fun p => checkStyle p.style) = .error fault) :
    ∃ style ∈ shown.styles, checkStyle style = .error fault := by
  rcases Partial.exists_of_forM_eq_error h with ⟨line, hline, hspans⟩
  rcases Partial.exists_of_forM_eq_error hspans with ⟨p, hp, hfault⟩
  exact ⟨p.style, Styled.styles_wrap hline (List.mem_map_of_mem hp), hfault⟩

end Markup

/-! ## Tables -/

namespace Table

variable {title : String} {heading : List String} {rows : List (List String)} {ws : List Nat}
  {row : List Styled} {cell : Styled} {width : Nat} {fault : Markup.Fault}

theorem exists_style_of_cellLines (h : cellLines width cell = .error fault) :
    ∃ style ∈ cell.styles, Markup.checkStyle style = .error fault := by
  unfold cellLines at h
  rcases Partial.bind_eq_error.1 h with h | ⟨_, _, h⟩
  · exact Markup.exists_style_of_forM h
  · cases h

theorem exists_style_of_rowLines {bar : Char} (h : rowLines bar ws row = .error fault) :
    ∃ cell ∈ row, ∃ style ∈ cell.styles, Markup.checkStyle style = .error fault := by
  unfold rowLines at h
  rcases Partial.bind_eq_error.1 h with h | ⟨_, _, h⟩
  · rcases Partial.exists_of_mapM_eq_error h with ⟨⟨w, cell⟩, hcell, hlines⟩
    exact ⟨cell, (List.of_mem_zip hcell).2, exists_style_of_cellLines hlines⟩
  · cases h

/-- A text at some place of a row, or nothing. -/
theorem unreadable_getD {texts : List String} {i : Nat}
    (h : Markup.Unreadable (texts.getD i "") fault) :
    ∃ text ∈ texts, Markup.Unreadable text fault := by
  rw [List.getD_eq_getElem?_getD] at h
  cases hi : texts[i]? with
  | none =>
      rw [hi] at h
      exact absurd List.IsChain.nil h.tagged
  | some text =>
      rw [hi] at h
      exact ⟨text, List.mem_of_getElem? hi, h⟩

theorem exists_unreadable_of_columns (h : columns heading rows = .error fault) :
    ∃ row ∈ heading :: rows, ∃ text ∈ row, Markup.Unreadable text fault := by
  rcases Partial.exists_of_mapM_eq_error h with ⟨i, _, hcolumn⟩
  rcases Partial.exists_of_mapM_eq_error hcolumn with ⟨row, hrow, hread⟩
  exact ⟨row, hrow, unreadable_getD (.tag hread)⟩

/-- A cell of a table is what a text of one of its rows is read as. -/
theorem exists_text_of_columns {columns : List (List Styled)} {i : Nat}
    (h : Table.columns heading rows = .ok columns)
    (hcell : cell ∈ columns.map fun cells => cells.getD i {}) {style : String}
    (hstyle : style ∈ cell.styles) (hfault : Markup.checkStyle style = .error fault) :
    ∃ row ∈ heading :: rows, ∃ text ∈ row, Markup.Unreadable text fault := by
  rcases List.mem_map.1 hcell with ⟨cells, hcells, rfl⟩
  rcases Partial.exists_of_mem_mapM h hcells with ⟨j, _, hcolumn⟩
  rw [List.getD_eq_getElem?_getD] at hstyle
  cases hi : cells[i]? with
  | none =>
      rw [hi] at hstyle
      cases hstyle
  | some cell =>
      rw [hi] at hstyle
      rcases Partial.exists_of_mem_mapM hcolumn (List.mem_of_getElem? hi) with ⟨row, hrow, hread⟩
      exact ⟨row, hrow, unreadable_getD (.style hread hstyle hfault)⟩

theorem exists_unreadable_of_render (h : render title heading rows = .error fault) :
    ∃ row ∈ heading :: rows, ∃ text ∈ row, Markup.Unreadable text fault := by
  unfold render at h
  rcases Partial.bind_eq_error.1 h with h | ⟨columns, hcolumns, h⟩
  · exact exists_unreadable_of_columns h
  · rcases Partial.bind_eq_error.1 h with h | ⟨_, _, h⟩
    · rcases exists_style_of_rowLines h with ⟨cell, hcell, style, hstyle, hfault⟩
      exact exists_text_of_columns hcolumns hcell hstyle hfault
    · rcases Partial.bind_eq_error.1 h with h | ⟨_, _, h⟩
      · rcases Partial.exists_of_mapM_eq_error h with ⟨i, _, hrow⟩
        rcases exists_style_of_rowLines hrow with ⟨cell, hcell, style, hstyle, hfault⟩
        exact exists_text_of_columns hcolumns hcell hstyle hfault
      · cases h

end Table

/-! ## Paragraphs -/

namespace Markup

variable {marked : String} {fault : Fault}

theorem checkStyle_plain : checkStyle Highlight.plainStyle = .ok () := by
  have hread : TagStyle.read? Highlight.plainStyle = .ok (some {}) := if_pos (by decide)
  rw [checkStyle, hread]
  rfl

/-- Highlighting adds nothing but the plain style. -/
theorem unreadable_of_paragraph (h : paragraph marked = .error fault) :
    Unreadable marked fault := by
  unfold paragraph at h
  rcases Partial.bind_eq_error.1 h with h | ⟨shown, hread, h⟩
  · exact .tag h
  · rcases Partial.bind_eq_error.1 h with h | ⟨_, _, h⟩
    · rcases exists_style_of_forM h with ⟨style, hstyle, hfault⟩
      rw [Styled.styles, Highlight.apply, List.map_append, List.mem_append] at hstyle
      rcases hstyle with hstyle | hstyle
      · exact .style hread hstyle hfault
      · rw [List.map_map] at hstyle
        rcases List.mem_map.1 hstyle with ⟨_, _, rfl⟩
        rw [Function.comp_apply, checkStyle_plain] at hfault
        cases hfault
    · cases h

end Markup
end PartitionKeys
