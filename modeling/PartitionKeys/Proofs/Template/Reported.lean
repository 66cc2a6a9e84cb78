import PartitionKeys.Proofs.Template.Inside

/-!
# Reported — faults that a check does not report

Whatever is wrong with the text of a template is reported.  So is a character that is missing: from
a text, positions lead to texts only.  A fault that is not reported takes a path that leads
elsewhere, to a member or to an entry by its name, or a width that no text can have.

* `ReportedOnly`: a step that fails with reported faults only;
* `Scan.fault_isReported`: reading a template is such a step;
* `follow_of_positions`: positions lead from texts to texts;
* `Field.LeavesText`, `Field.Overflows`: what it takes for a fault that is not reported;
* `exists_field_of_unreported`: a template that fails so has a field that does one of them.
-/

namespace PartitionKeys
namespace Template

/-- Fails, if at all, with a fault that is reported. -/
def ReportedOnly {α : Type} (r : Except Fault α) : Prop :=
  ∀ e, r = .error e → e.isReported = true

namespace ReportedOnly

variable {α : Type} {e : Fault}

theorem ok (a : α) : ReportedOnly (.ok a) := by
  intro e he
  cases he

theorem error (he : e.isReported = true) : ReportedOnly (.error e : Except Fault α) := by
  intro e' he'
  cases he'
  exact he

end ReportedOnly

/-! ## Reading -/

section

variable {cs : List Char} {e : Fault}

theorem Field.scanPath_reported (inIndex : Bool) (taken cs : List Char) :
    ReportedOnly (Field.scanPath inIndex taken cs) := by
  induction cs generalizing inIndex taken with
  | nil =>
      exact .error rfl
  | cons c rest ih =>
      rw [Field.scanPath]
      split
      · exact ih _ _
      · split
        · exact .error rfl
        · split
          · exact .ok _
          · exact ih _ _

theorem Field.scanFormat_reported (opened : Nat) (taken cs : List Char) :
    ReportedOnly (Field.scanFormat opened taken cs) := by
  induction cs generalizing opened taken with
  | nil =>
      exact .error rfl
  | cons c rest ih =>
      rw [Field.scanFormat]
      split
      · split
        · exact .ok _
        · exact ih _ _
      · exact ih _ _

theorem Field.scan?_reported (cs : List Char) : ReportedOnly (Field.scan? cs) := by
  unfold Field.scan?
  split
  · exact .error (Field.scanPath_reported _ _ _ _ ‹_›)
  · split
    · exact .ok _
    · split
      · split
        · exact .error (Field.scanFormat_reported _ _ _ _ ‹_›)
        · exact .ok _
      · split
        · exact .error rfl
        · exact .error rfl
        · split
          · exact .ok _
          · split
            · split
              · exact .error (Field.scanFormat_reported _ _ _ _ ‹_›)
              · exact .ok _
            · exact .error rfl

theorem Scan.fault_isReported (he : (Scan.ofChars cs).fault = some e) : e.isReported = true := by
  fun_induction Scan.ofChars cs with
  | case1 => cases he
  | case2 rest ih => exact ih he
  | case3 rest ih => exact ih he
  | case4 =>
      cases he
      rfl
  | case5 rest _ _ e' hfield =>
      cases he
      exact Field.scan?_reported rest e hfield
  | case6 rest _ _ f rest' hfield ih => exact ih he
  | case7 =>
      cases he
      rfl
  | case8 c rest _ _ _ _ _ ih => exact ih he

theorem scanNumber_reported (n : Nat) (cs : List Char) : ReportedOnly (scanNumber n cs) := by
  induction cs generalizing n with
  | nil =>
      exact .ok _
  | cons c rest ih =>
      rw [scanNumber]
      split
      · exact .ok _
      · split
        · exact .error rfl
        · exact ih _

theorem scanNumber?_reported (cs : List Char) : ReportedOnly (scanNumber? cs) := by
  unfold scanNumber?
  split
  · exact .ok _
  · split
    · split
      · exact .error (scanNumber_reported _ _ _ ‹_›)
      · exact .ok _
    · exact .ok _

theorem wholeNumber?_reported (cs : List Char) : ReportedOnly (wholeNumber? cs) := by
  unfold wholeNumber?
  split
  · exact .ok _
  · split
    · exact .error (scanNumber_reported _ _ _ ‹_›)
    · exact .ok _

theorem Step.scan_reported (c : Char) (rest : List Char) : ReportedOnly (Step.scan c rest) := by
  unfold Step.scan
  dsimp only
  split
  · split
    · exact .error rfl
    · exact .ok _
  · split
    · split
      · exact .error rfl
      · split
        · exact .error (wholeNumber?_reported _ _ ‹_›)
        · split
          · exact .error rfl
          · exact .ok _
    · exact .error rfl

theorem convert_reported (mark : Option Char) (v : Operand) : ReportedOnly (convert mark v) := by
  unfold convert
  split
  · exact .ok _
  · exact .ok _
  · exact .ok _
  · exact .ok _
  · split
    · exact .ok _
    · exact .error rfl

end

/-! ## Formats of texts -/

namespace FormatSpec

variable {spec : FormatSpec} {format cs : List Char} {e : Fault}

theorem scanSeparator_reported (cs : List Char) : ReportedOnly (scanSeparator cs) := by
  unfold scanSeparator
  split
  · exact .error rfl
  · exact .error rfl
  · exact .ok _
  · exact .ok _
  · exact .ok _

theorem scanPrecision_reported (cs : List Char) : ReportedOnly (scanPrecision cs) := by
  unfold scanPrecision
  split
  · split
    · exact .error (scanNumber?_reported _ _ ‹_›)
    · exact .error rfl
    · exact .ok _
  · exact .ok _

theorem ofChars_reported (standing : Standing) (cs : List Char) :
    ReportedOnly (ofChars standing cs) := by
  -- Width, separator and precision are read in this order, and then what is left is looked at.
  unfold ofChars
  dsimp only
  split
  · exact .error (scanNumber?_reported _ _ ‹_›)
  · split
    · exact .error (scanSeparator_reported _ _ ‹_›)
    · split
      · exact .error (scanPrecision_reported _ _ ‹_›)
      · split
        · exact .error rfl
        · split
          · split
            · exact .ok _
            · exact .error rfl
          · exact .ok _

theorem refusal?_isReported (he : spec.refusal? = some e) : e.isReported = true := by
  unfold refusal? at he
  split at he
  · cases he
    rfl
  · split at he
    · cases he
      rfl
    · cases he
      rfl
    · split at he
      · cases he
        rfl
      · split at he
        · cases he
          rfl
        · split at he
          · cases he
            rfl
          · cases he

/-- The format asks for a width that no text can have. -/
def TooWide (format : List Char) : Prop :=
  ∃ spec, ofChars {} format = .ok spec ∧ longest ≤ spec.width.getD 0

theorem tooWide_of_unreported (he : FormatSpec.format format cs = .error e)
    (hnot : e.isReported = false) : e = .tooLong ∧ TooWide format := by
  unfold FormatSpec.format at he
  split at he
  · cases he
  · cases hspec : ofChars {} format with
    | error e' =>
        rw [hspec] at he
        cases he
        exact absurd (ofChars_reported {} format e hspec) (by simp [hnot])
    | ok spec =>
        simp only [hspec, apply] at he
        cases hrefusal : spec.refusal? with
        | some e' =>
            simp only [hrefusal, Except.error.injEq] at he
            exact absurd (refusal?_isReported hrefusal) (by simp [he, hnot])
        | none =>
            simp only [hrefusal] at he
            split at he
            · cases he
              exact ⟨rfl, spec, hspec, ‹_›⟩
            · cases he

end FormatSpec

/-! ## Paths -/

/-- A step that is taken on a path, after its name. -/
inductive Takes : List Char → Step → Prop where
  | first {c : Char} {rest rest' : List Char} {s : Step}
      (hscan : Step.scan c rest = .ok (s, rest')) : Takes (c :: rest) s
  | later {c : Char} {rest rest' : List Char} {s s' : Step}
      (hscan : Step.scan c rest = .ok (s, rest')) (hs' : Takes rest' s') : Takes (c :: rest) s'

def Step.IsPosition (s : Step) : Prop :=
  ∃ n, s = .element (.position n)

section

variable {cs path : List Char} {v : Operand} {e : Fault} {s : Step} {p : Placeholders} {f : Field}
  {nested : List Char → Except Fault (List Char)}

theorem Step.takenFrom_text (hs : s.IsPosition) (cs : List Char) :
    (∃ cs', s.takenFrom (.text cs) = .ok (.text cs')) ∨
      s.takenFrom (.text cs) = .error (.indexOutOfRange "string") := by
  rcases hs with ⟨n, rfl⟩
  simp only [takenFrom, Operand.elementAt, Operand.itemAt, List.getElem?_map]
  cases hc : cs[n]? with
  | some c => exact Or.inl ⟨[c], by simp⟩
  | none => exact Or.inr (by simp)

/-- Positions lead from texts to texts, as far as there are characters. -/
theorem follow_of_positions (hsteps : ∀ s, Takes path s → s.IsPosition) (cs : List Char) :
    (∃ cs', follow (.text cs) path = .ok (.text cs')) ∨
      ∃ e, follow (.text cs) path = .error e ∧ e.isReported = true := by
  -- A step may take several characters, so the induction is on the length of what is left.
  induction hn : path.length using Nat.strongRecOn generalizing path cs with
  | ind n ih =>
      cases path with
      | nil =>
          exact Or.inl ⟨cs, follow_nil _⟩
      | cons c rest =>
          rw [follow_cons]
          cases hscan : Step.scan c rest with
          | error e =>
              exact Or.inr ⟨e, rfl, Step.scan_reported c rest e hscan⟩
          | ok next =>
              rcases next with ⟨s, rest'⟩
              have hlt : rest'.length < n := by
                have := (Step.scan_eq_ok hscan).1.length_le
                rw [List.length_cons] at hn
                omega
              dsimp only
              rcases Step.takenFrom_text (hsteps s (.first hscan)) cs with ⟨cs', hcs'⟩ | hshort
              · rw [hcs']
                exact ih _ hlt (fun s' hs' => hsteps s' (.later hscan hs')) cs' rfl
              · rw [hshort]
                exact Or.inr ⟨_, rfl, rfl⟩

/-- The path goes on from a text by a member or by the name of an entry. -/
def Field.LeavesText (f : Field) : Prop :=
  ∃ s, Takes (f.path.dropWhile (!endsName ·)) s ∧ ¬s.IsPosition

/-- The format, as it is rendered, asks for a width that no text can have. -/
def Field.Overflows (f : Field) (p : Placeholders) : Prop :=
  ∃ format, (if f.nests then renderTo p 1 f.format else .ok f.format) = .ok format ∧
    FormatSpec.TooWide format

theorem Placeholders.find_of_not_leavesText (hf : ¬f.LeavesText) (p : Placeholders) :
    (∃ cs, p.find f.path = .ok (.text cs)) ∨
      ∃ e, p.find f.path = .error e ∧ e.isReported = true := by
  unfold Placeholders.find
  dsimp only
  split
  · exact Or.inr ⟨_, rfl, wholeNumber?_reported _ _ ‹_›⟩
  · exact Or.inr ⟨_, rfl, rfl⟩
  · split
    · exact Or.inr ⟨_, rfl, rfl⟩
    · split
      · exact Or.inr ⟨_, rfl, rfl⟩
      · apply follow_of_positions
        intro s hs
        by_contra hposition
        exact hf ⟨s, hs, hposition⟩

/-! ## Fields and templates -/

theorem renderField_unreported (he : renderField nested p f = .error e)
    (hnot : e.isReported = false) :
    f.LeavesText ∨ f.nests = true ∧ nested f.format = .error e ∨
      e = .tooLong ∧ ∃ format, (if f.nests then nested f.format else .ok f.format) = .ok format ∧
        FormatSpec.TooWide format := by
  by_cases hleaves : f.LeavesText
  · exact Or.inl hleaves
  · refine Or.inr ?_
    rcases Placeholders.find_of_not_leavesText hleaves p with ⟨cs, hcs⟩ | ⟨e', he', hreported⟩
    · cases hw : convert f.conversion (.text cs) with
      | error e' =>
          rw [renderField, hcs] at he
          simp only [hw, Except.error.injEq] at he
          exact absurd (convert_reported _ _ e' hw) (by simp [he, hnot])
      | ok w =>
          rw [renderField_of_leadsTo ⟨_, hcs, hw⟩] at he
          -- Still a text, so that only its format is left to fail.
          rcases exists_text_of_convert hw with ⟨text, rfl⟩
          cases hformat : (if f.nests then nested f.format else .ok f.format) with
          | error e' =>
              rw [hformat] at he
              cases he
              by_cases hnests : f.nests = true
              · rw [if_pos hnests] at hformat
                exact Or.inl ⟨hnests, hformat⟩
              · rw [if_neg hnests] at hformat
                cases hformat
          | ok format =>
              rw [hformat] at he
              rcases FormatSpec.tooWide_of_unreported he hnot with ⟨hlong, hwide⟩
              exact Or.inr ⟨hlong, format, rfl, hwide⟩
    · rw [renderField, he'] at he
      cases he
      exact absurd hreported (by simp [hnot])

theorem exists_field_of_renderScan_unreported
    (he : renderScan nested p (Scan.ofChars cs) = .error e) (hnot : e.isReported = false) :
    ∃ f ∈ fieldsOf cs, renderField nested p f = .error e := by
  rw [renderScan] at he
  split at he
  · rename_i e' hpieces
    cases he
    rcases exists_field_of_renderPieces hpieces with ⟨f, hf, herr⟩
    exact ⟨f, mem_fieldsOf.2 hf, herr⟩
  · rename_i e' hfault
    cases he
    exact absurd (Scan.fault_isReported hfault) (by simp [hnot])
  · cases he

/-- Of the fields of such a template one leaves texts, or asks for a width that no text can have. -/
theorem exists_field_of_unreported {template : String} (he : render template p = .error e)
    (hnot : e.isReported = false) :
    (∃ f ∈ allFields template, f.LeavesText) ∨
      e = .tooLong ∧ ∃ f ∈ allFields template, f.Overflows p := by
  rcases exists_field_of_renderScan_unreported (render_eq_error.1 he) hnot with ⟨f, hf, herr⟩
  have hown : f ∈ allFields template := mem_allFields.2 (Or.inl hf)
  rcases renderField_unreported herr hnot with hleaves | ⟨hnests, hnested⟩ | ⟨hlong, hwide⟩
  · exact Or.inl ⟨f, hown, hleaves⟩
  · rcases exists_field_of_renderScan_unreported hnested hnot with ⟨g, hg, hgerr⟩
    have hinner : g ∈ allFields template := mem_allFields.2 (Or.inr ⟨f, hf, hnests, hg⟩)
    rcases renderField_unreported hgerr hnot with
      hleaves | ⟨_, hdeep⟩ | ⟨hlong, format, hformat, hwide⟩
    · exact Or.inl ⟨g, hinner, hleaves⟩
    · -- Too deep a nesting is reported.
      cases hdeep
      cases hnot
    · refine Or.inr ⟨hlong, g, hinner, format, ?_, hwide⟩
      by_cases hnests : g.nests = true
      · rw [if_pos hnests] at hformat
        cases hformat
      · rwa [if_neg hnests] at hformat ⊢
  · exact Or.inr ⟨hlong, f, hown, hwide⟩

end

end Template
end PartitionKeys
