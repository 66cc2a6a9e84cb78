import PartitionKeys.Proofs.CommandLine.Markup

/-!
# ErrorMark — the terminal library shows texts without tags

A report is printed after a word in a style of its own.  The tags of that word are read whatever
the message is, as long as no bracket in it can begin a tag.  So the library that the program runs
with does what is documented of it.

* `Markup.checkStyle_boldRed`: the style of the mark is a style;
* `Markup.pieces_errorMark`: the mark and the message are taken apart;
* `Markup.tagged_of_unreadable`: a report that cannot be read begins a tag in its message;
* `Terminal.documented_standard`: tables and reports without further tags are shown.
-/

namespace PartitionKeys

/-! ## Styles -/

namespace TagStyle

variable {s : TagStyle} {word : List Char} {rest : List (List Char)}

/-- Words that say what the next word is for. -/
def IsLead (lowered : String) : Prop :=
  lowered = "on" ∨ lowered = "not" ∨ lowered = "link"

theorem readFrom_trait {t : Trait} {lowered : String}
    (hlower : LetterCase.lower (String.ofList word) = lowered) (hlead : ¬IsLead lowered)
    (ht : Trait.find? lowered = some t) :
    readFrom s (word :: rest) = readFrom (s.wish t true) rest := by
  simp only [IsLead, not_or] at hlead
  conv => lhs; unfold readFrom
  simp only [hlower, if_neg hlead.1, if_neg hlead.2.1, if_neg hlead.2.2, ht]

theorem readFrom_colour {colour : Option (List Char)} {lowered : String}
    (hlower : LetterCase.lower (String.ofList word) = lowered) (hlead : ¬IsLead lowered)
    (ht : Trait.find? lowered = none) (hcolour : Colour.read? word = .ok colour) :
    readFrom s [word] = .ok (colour.map fun c => { s with colour := some c }) := by
  simp only [IsLead, not_or] at hlead
  conv => lhs; unfold readFrom
  simp only [hlower, if_neg hlead.1, if_neg hlead.2.1, if_neg hlead.2.2, ht, hcolour]
  cases colour <;> rfl

end TagStyle

namespace Markup

variable {cs : List Char}

def bold : List Char := ['b', 'o', 'l', 'd']

def red : List Char := ['r', 'e', 'd']

def boldRed : List Char := bold ++ ' ' :: red

def boldRedStyle : TagStyle where
  traits := [(.bold, true)]
  colour := some red

set_option maxRecDepth 20000 in
theorem lower_bold : LetterCase.lower (String.ofList bold) = "bold" := by
  decide +kernel

set_option maxRecDepth 20000 in
theorem lower_red : LetterCase.lower (String.ofList red) = "red" := by
  decide +kernel

set_option maxRecDepth 20000 in
theorem lower_boldRed : LetterCase.lower (String.ofList boldRed) = "bold red" := by
  decide +kernel

/-- Whether red is a colour need not be looked up: it is read as itself or as no colour. -/
theorem read?_red : Colour.read? red = .ok none ∨ Colour.read? red = .ok (some red) := by
  unfold Colour.read?
  simp only [lower_red]
  cases Colour.names.contains ("red" : String).toList with
  | true => exact Or.inr rfl
  | false => exact Or.inl rfl

theorem read?_boldRed : TagStyle.read? "bold red" = .ok none ∨
    TagStyle.read? "bold red" = .ok (some boldRedStyle) := by
  have hwords : Blank.words ("bold red" : String).toList = [bold, red] := by
    decide
  have htrait : TagStyle.readFrom {} [bold, red] =
      TagStyle.readFrom (TagStyle.wish {} .bold true) [red] :=
    TagStyle.readFrom_trait lower_bold (by simp [TagStyle.IsLead]) (by decide)
  have hcolour : ∀ {colour}, Colour.read? red = .ok colour →
      TagStyle.read? "bold red" =
        .ok (colour.map fun c => { TagStyle.wish {} .bold true with colour := some c }) := by
    intro colour hread
    rw [TagStyle.read?, if_neg (by decide), hwords, htrait]
    exact TagStyle.readFrom_colour lower_red (by simp [TagStyle.IsLead]) (by decide) hread
  rcases read?_red with hread | hread
  · exact Or.inl (hcolour hread)
  · exact Or.inr (hcolour hread)

theorem normalize_boldRed : normalize boldRed = .ok "bold red" := by
  have hstrip : Blank.strip ("bold red" : String).toList = boldRed := by
    decide
  show (TagStyle.normalize "bold red").mapError _ = _
  rw [TagStyle.normalize]
  rcases read?_boldRed with h | h
  · rw [h]
    show (Except.ok (LetterCase.lower (String.ofList (Blank.strip
      ("bold red" : String).toList)))).mapError _ = _
    rw [hstrip, lower_boldRed]
    rfl
  · rw [h]
    rfl

theorem checkStyle_boldRed : checkStyle "bold red" = .ok () := by
  rcases read?_boldRed with h | h
  · rw [checkStyle, h]
    rfl
  · rw [checkStyle, h]
    rfl

/-! ## Pieces -/

theorem piecesFrom_cons_tag {c : Char} {rest rest' text : List Char}
    (h : escaped? (c :: rest) = some (0, text, rest')) (before : List Char) (position : Nat) :
    piecesFrom before position (c :: rest) =
      plainPiece before.reverse ++
        .tag text position :: piecesFrom [] (position + text.length + 2) rest' := by
  rw [piecesFrom]
  split
  · rename_i hnone
    rw [h] at hnone
    cases hnone
  · rename_i hsome
    rw [h] at hsome
    cases hsome
    simp [plainPiece]

def errorWord : List Char := ['E', 'r', 'r', 'o', 'r']

/-- The word of an error between its tags. -/
def errorMark : List Char :=
  '[' :: boldRed ++ ']' :: errorWord ++ '[' :: '/' :: boldRed ++ [']']

theorem toList_errorMark : Terminal.errorMark.toList = errorMark := by
  decide

theorem pieces_errorMark (h : TagFree cs) :
    pieces (errorMark ++ cs) =
      .tag boldRed 0 :: .plain errorWord :: .tag ('/' :: boldRed) 15 :: plainPiece cs := by
  have hopening : escaped? ('[' :: boldRed ++ ']' :: errorWord ++ '[' :: '/' :: boldRed ++
      ']' :: cs) = some (0, boldRed, errorWord ++ '[' :: '/' :: boldRed ++ ']' :: cs) := rfl
  have hclosing : escaped? ('[' :: '/' :: boldRed ++ ']' :: cs) =
      some (0, '/' :: boldRed, cs) := rfl
  refine (piecesFrom_cons_tag hopening [] 0).trans ?_
  -- The letters of the word are taken one at a time, up to the tag that closes it.
  show _ ++ _ :: piecesFrom [] 10
    ('E' :: 'r' :: 'r' :: 'o' :: 'r' :: ('[' :: '/' :: boldRed ++ ']' :: cs)) = _
  rw [piecesFrom_cons_plain rfl, piecesFrom_cons_plain rfl, piecesFrom_cons_plain rfl,
    piecesFrom_cons_plain rfl, piecesFrom_cons_plain rfl]
  refine (congrArg _ (piecesFrom_cons_tag hclosing _ _)).trans ?_
  rw [piecesFrom_tagFree h]
  rfl

theorem step_opening : step {} (.tag boldRed 0) = .ok { opened := [⟨"bold red", none, 0⟩] } := by
  show (do let name ← normalize boldRed; pure _) = _
  rw [normalize_boldRed]
  rfl

theorem step_closing {p : Progress} (hp : p.opened = [⟨"bold red", none, 0⟩]) :
    step p (.tag ('/' :: boldRed) 15) = .ok (p.close ⟨"bold red", none, 0⟩ []) := by
  have hstrip : Blank.strip boldRed = boldRed := by
    decide
  show closing p _ boldRed 15 = _
  rw [closing]
  simp only [hstrip, normalize_boldRed, hp]
  rfl

/-- The mark is read in order, whatever follows it without a tag. -/
theorem read_errorMark {text : String} {cs : List Char} (htext : text.toList = errorMark ++ cs)
    (h : TagFree cs) : ∃ shown, read text = .ok shown ∧ shown.styles = ["bold red"] := by
  have hbracket : text.toList.contains '[' = true := by
    rw [htext]
    rfl
  -- What the texts between the tags are does not matter, only that the style is closed.
  rcases step_plain { opened := [⟨"bold red", none, 0⟩] } errorWord with ⟨word, hword⟩
  rcases foldlM_plainPiece ⟨word, [], [⟨0, word.length, "bold red"⟩]⟩ cs with ⟨shown, hshown⟩
  have hclosing : step ⟨word, [⟨"bold red", none, 0⟩], []⟩ (.tag ('/' :: boldRed) 15) =
      .ok ⟨word, [], [⟨0, word.length, "bold red"⟩]⟩ := step_closing rfl
  have hfold : (pieces text.toList).foldlM step {} =
      .ok ⟨shown, [], [⟨0, word.length, "bold red"⟩]⟩ := by
    rw [htext, pieces_errorMark h, foldlM_cons_ok step_opening, foldlM_cons_ok hword,
      foldlM_cons_ok hclosing, hshown]
  refine ⟨⟨shown, [⟨0, word.length, "bold red"⟩]⟩, ?_, rfl⟩
  unfold read
  simp only [hbracket, if_pos, hfold]
  show Except.ok (⟨shown, List.mergeSort [⟨0, word.length, "bold red"⟩] _⟩ : Styled) = _
  rw [List.mergeSort_singleton]

/-- Only what could be a tag behind the mark makes a report unreadable. -/
theorem tagged_of_unreadable {text : String} {fault : Fault}
    (h : Unreadable (Terminal.errorMark ++ text) fault) : ¬Terminal.Untagged text := by
  intro hnone
  have htext : (Terminal.errorMark ++ text).toList = errorMark ++ text.toList := by
    rw [String.toList_append, toList_errorMark]
  rcases read_errorMark htext hnone with ⟨shown, hread, hstyles⟩
  cases h with
  | tag h =>
      rw [hread] at h
      cases h
  | style h hstyle hfault =>
      rw [hread] at h
      cases h
      rw [hstyles, List.mem_singleton] at hstyle
      rw [hstyle, checkStyle_boldRed] at hfault
      cases hfault

end Markup

/-! ## The standard terminal -/

theorem Terminal.documented_standard : ({} : Terminal).Documented := by
  refine ⟨?_, ?_⟩
  · intro title heading rows _ hrows
    show ∃ output, Table.render title heading rows = .ok output
    cases htable : Table.render title heading rows with
    | ok output =>
        exact ⟨output, rfl⟩
    | error fault =>
        rcases Table.exists_unreadable_of_render htable with ⟨row, hrow, text, htext, hbad⟩
        exact absurd (hrows row hrow text htext) hbad.tagged
  · intro text htext
    show ∃ lines, Markup.paragraph (errorMark ++ text) = .ok lines
    cases hshown : Markup.paragraph (errorMark ++ text) with
    | ok lines =>
        exact ⟨lines, rfl⟩
    | error fault =>
        have hbad : Markup.Unreadable (errorMark ++ text) fault :=
          Markup.unreadable_of_paragraph hshown
        exact absurd htext (Markup.tagged_of_unreadable hbad)

end PartitionKeys
