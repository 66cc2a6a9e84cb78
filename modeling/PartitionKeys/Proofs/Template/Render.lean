import PartitionKeys.Proofs.Template.Path
import PartitionKeys.Template.Check

/-!
# Render — how far one rendering speaks for all others

A template that was rendered for the sample may be rendered for other placeholders.  All goes as
before, except where a path asks for a character that the other text does not have, and where fields
nested in a format give another format.

* `renderField_eq_error`: how a field fails that was rendered elsewhere;
* `exists_field_of_renderScan`: a template fails at one of its fields;
* `Field.Excuse`: what may go wrong with a field that can be rendered for the sample;
* `render_fails_iff`: a template fails exactly when one of its fields has an excuse.
-/

namespace PartitionKeys
namespace Template

/-! ## Fields -/

section

variable {v v' w : Operand} {mark : Option Char} {format cs cs' out : List Char}

theorem convert_alike (ha : v.Alike False v') (hw : convert mark v = .ok w) :
    ∃ w', convert mark v' = .ok w' ∧ w.Alike False w' := by
  have htext : ∀ cs cs' : List Char, (Operand.text cs).Alike False (.text cs') :=
    fun _ _ => .text False.elim
  unfold convert at hw ⊢
  split at hw
  · cases hw
    exact ⟨v', rfl, ha⟩
  · cases hw
    exact ⟨_, rfl, htext _ _⟩
  · cases hw
    exact ⟨_, rfl, htext _ _⟩
  · cases hw
    exact ⟨_, rfl, htext _ _⟩
  · rename_i c _ _ _
    by_cases hc : c.toNat = 0
    · rw [if_pos hc] at hw ⊢
      cases hw
      exact ⟨v', rfl, ha⟩
    · rw [if_neg hc] at hw
      cases hw

/-- A format that is read and not refused cuts a text and pads it; the empty one leaves it alone. -/
theorem FormatSpec.format_eq_ok :
    FormatSpec.format format cs = .ok out ↔
      format.isEmpty = true ∧ cs = out ∨
        format.isEmpty = false ∧ ∃ spec, FormatSpec.ofChars {} format = .ok spec ∧
          spec.refusal? = none ∧ spec.width.getD 0 < FormatSpec.longest ∧
          FormatSpec.pad spec.fill spec.align (spec.width.getD 0)
            (FormatSpec.cut spec.precision cs) = out := by
  unfold FormatSpec.format
  by_cases hempty : format.isEmpty = true
  · simp [hempty]
  · cases hspec : FormatSpec.ofChars {} format with
    | error e =>
        simp [hempty]
    | ok spec =>
        cases hrefusal : spec.refusal? with
        | some e =>
            simp [hempty, FormatSpec.apply, hrefusal]
        | none =>
            by_cases hwidth : FormatSpec.longest ≤ spec.width.getD 0
            · simp [hempty, FormatSpec.apply, hrefusal, hwidth, Nat.not_lt.2 hwidth]
            · simp [hempty, FormatSpec.apply, hrefusal, hwidth, Nat.lt_of_not_le hwidth]

/-- A format refuses a text for what the format is, not for what the text is. -/
theorem FormatSpec.exists_format (h : FormatSpec.format format cs = .ok out) (cs' : List Char) :
    ∃ out', FormatSpec.format format cs' = .ok out' := by
  rcases FormatSpec.format_eq_ok.1 h with ⟨hempty, _⟩ | ⟨hempty, spec, hspec, hrefusal, hwidth, _⟩
  · exact ⟨cs', FormatSpec.format_eq_ok.2 (Or.inl ⟨hempty, rfl⟩)⟩
  · exact ⟨_, FormatSpec.format_eq_ok.2 (Or.inr ⟨hempty, spec, hspec, hrefusal, hwidth, rfl⟩)⟩

theorem formatOperand_alike (ha : v.Alike False v') (h : formatOperand format v = .ok out) :
    ∃ out', formatOperand format v' = .ok out' := by
  cases ha with
  | same => exact ⟨out, h⟩
  | text _ => exact FormatSpec.exists_format h _
  | bound kind m _ =>
      unfold formatOperand at h ⊢
      dsimp only at h ⊢
      split at h
      · rename_i hempty
        exact ⟨_, if_pos hempty⟩
      · cases h

end

section

variable {nested nested' : List Char → Except Fault (List Char)} {p q : Placeholders} {f : Field}
  {cs : List Char} {e : Fault}

theorem renderField_eq_ok :
    renderField nested p f = .ok cs ↔
      ∃ v, p.find f.path = .ok v ∧ ∃ w, convert f.conversion v = .ok w ∧
        ∃ format, (if f.nests then nested f.format else .ok f.format) = .ok format ∧
          formatOperand format w = .ok cs := by
  rw [renderField]
  cases p.find f.path with
  | error e => simp
  | ok v =>
      simp only [Except.ok.injEq, exists_eq_left']
      cases convert f.conversion v with
      | error e => simp
      | ok w =>
          simp only [Except.ok.injEq, exists_eq_left']
          cases (if f.nests then nested f.format else .ok f.format) with
          | error e => simp
          | ok format => simp

/-- The operand that a field formats. -/
def Field.LeadsTo (f : Field) (p : Placeholders) (w : Operand) : Prop :=
  ∃ v, p.find f.path = .ok v ∧ convert f.conversion v = .ok w

theorem renderField_of_leadsTo {w : Operand} (hw : f.LeadsTo p w) :
    renderField nested p f =
      match if f.nests then nested f.format else .ok f.format with
      | .error e => .error e
      | .ok format => formatOperand format w := by
  rcases hw with ⟨v, hv, hw⟩
  rw [renderField, hv]
  cases (if f.nests then nested f.format else .ok f.format) with
  | error e => simp only [hw]
  | ok format => simp only [hw]

/-- A field that can be rendered for `q` asks for a character that is missing, or has a format that
cannot be rendered or is another one. -/
theorem renderField_eq_error (hs : renderField nested q f = .ok cs)
    (he : renderField nested' p f = .error e) :
    (p.find f.path = .error e ∧ e = .indexOutOfRange "string" ∧ '[' ∈ f.path ∧
        p.ShorterAt q f.path) ∨
      f.nests = true ∧ ∃ w, f.LeadsTo p w ∧
        (nested' f.format = .error e ∨
          ∃ format, nested' f.format = .ok format ∧ nested f.format ≠ .ok format ∧
            formatOperand format w = .error e) := by
  rcases renderField_eq_ok.1 hs with ⟨v, hv, w, hw, format, hf, hcs⟩
  rcases Placeholders.find_alike (p := p) hv with ⟨v', hv', hav⟩ | ⟨hfail, hin, hshort⟩
  · rcases convert_alike hav hw with ⟨w', hw', haw⟩
    have hleads : f.LeadsTo p w' := ⟨v', hv', hw'⟩
    -- The format of `q` would do for the other operand as well.
    have hok : formatOperand format w' ≠ .error e := by
      rcases formatOperand_alike haw hcs with ⟨cs', hcs'⟩
      simp [hcs']
    rw [renderField_of_leadsTo hleads] at he
    by_cases hn : f.nests = true
    · rw [if_pos hn] at hf he
      refine Or.inr ⟨hn, w', hleads, ?_⟩
      cases hf' : nested' f.format with
      | error e' =>
          rw [hf'] at he
          exact Or.inl he
      | ok format' =>
          rw [hf'] at he
          refine Or.inr ⟨format', rfl, ?_, he⟩
          intro hsame
          rw [hf, Except.ok.injEq] at hsame
          exact hok (hsame ▸ he)
    · rw [if_neg hn] at hf he
      cases hf
      exact absurd he hok
  · rw [renderField, hfail] at he
    cases he
    exact Or.inl ⟨hfail, rfl, hin, hshort⟩

/-! ## Templates -/

theorem renderPieces_literal_eq_error {c : Char} {rest : List Piece} :
    renderPieces nested p (.literal c :: rest) = .error e ↔
      renderPieces nested p rest = .error e := by
  rw [renderPieces]
  cases renderPieces nested p rest with
  | error e => simp [Except.map]
  | ok cs => simp [Except.map]

theorem renderPieces_field_eq_error {rest : List Piece} :
    renderPieces nested p (.field f :: rest) = .error e ↔
      renderField nested p f = .error e ∨
        (∃ cs, renderField nested p f = .ok cs) ∧ renderPieces nested p rest = .error e := by
  rw [renderPieces]
  cases renderField nested p f with
  | error e => simp
  | ok cs =>
      cases renderPieces nested p rest with
      | error e => simp [Except.map]
      | ok cs' => simp [Except.map]

theorem exists_field_of_renderPieces {ps : List Piece} (he : renderPieces nested p ps = .error e) :
    ∃ f, .field f ∈ ps ∧ renderField nested p f = .error e := by
  induction ps with
  | nil =>
      cases he
  | cons piece rest ih =>
      have hlater : renderPieces nested p rest = .error e →
          ∃ f, .field f ∈ piece :: rest ∧ renderField nested p f = .error e := by
        intro hrest
        rcases ih hrest with ⟨f, hf, herr⟩
        exact ⟨f, List.mem_cons_of_mem piece hf, herr⟩
      cases piece with
      | literal c =>
          exact hlater (renderPieces_literal_eq_error.1 he)
      | field f =>
          rcases renderPieces_field_eq_error.1 he with hf | ⟨_, hrest⟩
          · exact ⟨f, List.mem_cons_self, hf⟩
          · exact hlater hrest

theorem renderPieces_fails {ps : List Piece} (hf : .field f ∈ ps)
    (he : renderField nested p f = .error e) : ∃ e', renderPieces nested p ps = .error e' := by
  induction ps with
  | nil =>
      cases hf
  | cons piece rest ih =>
      rcases List.mem_cons.1 hf with rfl | hf
      · exact ⟨e, renderPieces_field_eq_error.2 (Or.inl he)⟩
      · rcases ih hf with ⟨e', hrest⟩
        cases piece with
        | literal c =>
            exact ⟨e', renderPieces_literal_eq_error.2 hrest⟩
        | field g =>
            cases hg : renderField nested p g with
            | error e'' => exact ⟨e'', renderPieces_field_eq_error.2 (Or.inl hg)⟩
            | ok cs => exact ⟨e', renderPieces_field_eq_error.2 (Or.inr ⟨⟨cs, hg⟩, hrest⟩)⟩

theorem renderScan_eq_ok {s : Scan} :
    renderScan nested p s = .ok cs ↔ renderPieces nested p s.pieces = .ok cs ∧ s.fault = none := by
  rw [renderScan]
  cases renderPieces nested p s.pieces with
  | error e => simp
  | ok cs' =>
      cases s.fault with
      | some e => simp
      | none => simp

theorem renderScan_fails {s : Scan} (hf : .field f ∈ s.pieces)
    (he : renderField nested p f = .error e) : ∃ e', renderScan nested p s = .error e' := by
  rcases renderPieces_fails hf he with ⟨e', hpieces⟩
  refine ⟨e', ?_⟩
  rw [renderScan, hpieces]

/-- A template that can be rendered for `q` can only fail at a field that can be. -/
theorem exists_field_of_renderScan {s : Scan} (hs : renderScan nested q s = .ok cs)
    (he : renderScan nested' p s = .error e) :
    ∃ f, .field f ∈ s.pieces ∧ (∃ cs, renderField nested q f = .ok cs) ∧
      renderField nested' p f = .error e := by
  rcases renderScan_eq_ok.1 hs with ⟨hpieces, hfault⟩
  have herr : renderPieces nested' p s.pieces = .error e := by
    rw [renderScan, hfault] at he
    cases hp : renderPieces nested' p s.pieces with
    | error e' => simpa [hp] using he
    | ok cs => simp [hp] at he
  rcases exists_field_of_renderPieces herr with ⟨f, hf, hfail⟩
  cases hq : renderField nested q f with
  | ok cs => exact ⟨f, hf, ⟨cs, hq⟩, hfail⟩
  | error e' =>
      -- Had the field failed for `q`, so would have the template.
      rcases renderPieces_fails hf hq with ⟨e'', hfails⟩
      rw [hpieces] at hfails
      cases hfails

end

/-- The fields of a text, in order; those nested in formats are not among them. -/
def fieldsOf (cs : List Char) : List Field :=
  (Scan.ofChars cs).pieces.filterMap fun
    | .literal _ => none
    | .field f => some f

def fields (template : String) : List Field :=
  fieldsOf template.toList

/-- The fields of a template, each with those nested in its format. -/
def allFields (template : String) : List Field :=
  (fields template).flatMap fun f => f :: if f.nests then fieldsOf f.format else []

/-- What may go wrong for `p` with a field that can be rendered for the sample. -/
inductive Field.Excuse (f : Field) (p : Placeholders) (e : Fault) : Prop where
  /-- The path asks for a character beyond the end of a text that is shorter than in the sample. -/
  | short (hfind : p.find f.path = .error e) (he : e = .indexOutOfRange "string")
      (hin : '[' ∈ f.path) (hshort : p.ShorterAt sample f.path)
  /-- So does the path of a field nested in the format. -/
  | shortWithin (w : Operand) (hw : f.LeadsTo p w) (hnests : f.nests = true)
      (hformat : renderTo p 1 f.format = .error e) (g : Field) (hg : g ∈ fieldsOf f.format)
      (he : e = .indexOutOfRange "string") (hin : '[' ∈ g.path) (hshort : p.ShorterAt sample g.path)
  /-- Fields nested in the format give another one than for the sample, and it is refused. -/
  | refused (w : Operand) (hw : f.LeadsTo p w) (hnests : f.nests = true) (format : List Char)
      (hformat : renderTo p 1 f.format = .ok format)
      (hother : renderTo sample 1 f.format ≠ .ok format)
      (hrefused : formatOperand format w = .error e)

/-- A template that has no position in a path and no field in a format. -/
def Uniform (template : String) : Prop :=
  ∀ f ∈ fields template, '[' ∉ f.path ∧ f.nests = false

section

variable {template s : String} {p : Placeholders} {f : Field} {cs : List Char} {e : Fault}

theorem mem_fieldsOf : f ∈ fieldsOf cs ↔ .field f ∈ (Scan.ofChars cs).pieces := by
  rw [fieldsOf, List.mem_filterMap]
  constructor
  · rintro ⟨piece, hmem, hpiece⟩
    cases piece with
    | literal c => cases hpiece
    | field g =>
        cases hpiece
        exact hmem
  · intro hmem
    exact ⟨.field f, hmem, rfl⟩

theorem mem_allFields :
    f ∈ allFields template ↔
      f ∈ fields template ∨ ∃ g ∈ fields template, g.nests = true ∧ f ∈ fieldsOf g.format := by
  simp only [allFields, List.mem_flatMap, List.mem_cons, List.mem_ite_nil_right]
  constructor
  · rintro ⟨g, hg, rfl | hin⟩
    · exact Or.inl hg
    · exact Or.inr ⟨g, hg, hin⟩
  · rintro (hf | ⟨g, hg, hin⟩)
    · exact ⟨f, hf, Or.inl rfl⟩
    · exact ⟨g, hg, Or.inr hin⟩

theorem fields_default :
    fields Template.default = [{ path := "alias".toList }, { path := "name".toList }] := by
  cbv

/-- A format is a template that nests no further. -/
theorem exists_short_of_renderTo {format : List Char} (hs : renderTo sample 1 cs = .ok format)
    (he : renderTo p 1 cs = .error e) :
    ∃ g ∈ fieldsOf cs,
      e = .indexOutOfRange "string" ∧ '[' ∈ g.path ∧ p.ShorterAt sample g.path := by
  rcases exists_field_of_renderScan hs he with ⟨g, hg, ⟨out, hok⟩, herr⟩
  refine ⟨g, mem_fieldsOf.2 hg, ?_⟩
  rcases renderField_eq_error hok herr with ⟨_, hshort⟩ | ⟨hnests, _⟩
  · exact hshort
  · -- A format inside the format would have been too deep for the sample.
    rcases renderField_eq_ok.1 hok with ⟨_, _, _, _, inner, hinner, _⟩
    rw [if_pos hnests] at hinner
    cases hinner

theorem excuse_of_renderField (hs : renderField (renderTo sample 1) sample f = .ok cs)
    (he : renderField (renderTo p 1) p f = .error e) : f.Excuse p e := by
  rcases renderField_eq_error hs he with ⟨hfind, he, hin, hshort⟩ |
    ⟨hnests, w, hw, hnested | ⟨format, hformat, hother, hrefused⟩⟩
  · exact .short hfind he hin hshort
  · rcases renderField_eq_ok.1 hs with ⟨_, _, _, _, format, hformat, _⟩
    rw [if_pos hnests] at hformat
    rcases exists_short_of_renderTo hformat hnested with ⟨g, hg, he, hin, hshort⟩
    exact .shortWithin w hw hnests hnested g hg he hin hshort
  · exact .refused w hw hnests format hformat hother hrefused

theorem Field.Excuse.renderField (hx : f.Excuse p e) :
    Template.renderField (renderTo p 1) p f = .error e := by
  cases hx with
  | short hfind _ _ _ =>
      rw [Template.renderField, hfind]
  | shortWithin w hw hnests hformat _ _ _ _ _ =>
      rw [renderField_of_leadsTo hw, if_pos hnests, hformat]
  | refused w hw hnests format hformat _ hrefused =>
      rw [renderField_of_leadsTo hw, if_pos hnests, hformat]
      exact hrefused

theorem render_eq_error :
    render template p = .error e ↔
      renderScan (renderTo p 1) p (Scan.ofChars template.toList) = .error e := by
  show (renderScan (renderTo p 1) p (Scan.ofChars template.toList)).map _ = _ ↔ _
  cases renderScan (renderTo p 1) p (Scan.ofChars template.toList) with
  | error e => simp [Except.map]
  | ok cs => simp [Except.map]

theorem exists_renderScan_of_render (hs : render template p = .ok s) :
    ∃ cs, renderScan (renderTo p 1) p (Scan.ofChars template.toList) = .ok cs := by
  cases hr : renderScan (renderTo p 1) p (Scan.ofChars template.toList) with
  | ok cs => exact ⟨cs, rfl⟩
  | error e =>
      rw [render_eq_error.2 hr] at hs
      cases hs

theorem exists_excuse_of_render (hs : render template sample = .ok s)
    (he : render template p = .error e) : ∃ f ∈ fields template, f.Excuse p e := by
  rcases exists_renderScan_of_render hs with ⟨cs, hcs⟩
  rcases exists_field_of_renderScan hcs (render_eq_error.1 he) with ⟨f, hf, ⟨cs', hok⟩, herr⟩
  exact ⟨f, mem_fieldsOf.2 hf, excuse_of_renderField hok herr⟩

theorem render_fails_iff (hs : render template sample = .ok s) :
    (∃ e, render template p = .error e) ↔ ∃ f ∈ fields template, ∃ e, f.Excuse p e := by
  constructor
  · rintro ⟨e, he⟩
    rcases exists_excuse_of_render hs he with ⟨f, hf, hx⟩
    exact ⟨f, hf, e, hx⟩
  · rintro ⟨f, hf, e, hx⟩
    rcases renderScan_fails (mem_fieldsOf.1 hf) hx.renderField with ⟨e', he'⟩
    exact ⟨e', render_eq_error.2 he'⟩

theorem not_excuse_of_uniform (hu : Uniform template) (hf : f ∈ fields template) :
    ¬f.Excuse p e := by
  rcases hu f hf with ⟨hpath, hnests⟩
  intro hx
  cases hx with
  | short _ _ hin _ => exact hpath hin
  | shortWithin _ _ hn _ _ _ _ _ _ => simp [hnests] at hn
  | refused _ _ hn _ _ _ _ => simp [hnests] at hn

end

end Template
end PartitionKeys
