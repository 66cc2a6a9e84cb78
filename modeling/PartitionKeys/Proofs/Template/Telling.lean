import Mathlib.Data.List.Forall2
import PartitionKeys.Proofs.Template.Inside

/-!
# Telling — which templates tell type names apart

Two names may have the same rendering although fields of it differ, if what one field lacks another
one makes up for.  That takes a field that renders to more for the first name and one that renders
to more for the second, and no two names have both.  Only a format that holds the name can give way
to the one as well as to the other.

* `Field.output`: what a field renders to;
* `SameFormats`: formats with nested fields come out the same;
* `exists_parts`: two renderings, cut at the fields and literals of their template;
* `render_eq_iff`: names have one rendering exactly when each field renders to one text;
* `Field.IsName`: the whole name, converted or not; such a field tells all names apart.
-/

namespace PartitionKeys
namespace Template

def Field.output (f : Field) (p : Placeholders) : Except Fault (List Char) :=
  renderField (renderTo p 1) p f

/-- No format comes out differently. -/
def SameFormats (template : String) (p q : Placeholders) : Prop :=
  ∀ f ∈ fields template, f.nests = true → renderTo p 1 f.format = renderTo q 1 f.format

/-- No format holds a field of the type name. -/
def NestsNoName (template : String) : Prop :=
  ∀ f ∈ fields template, f.nests = true → ∀ g ∈ fieldsOf f.format, rootOf g.path ≠ "name"

/-- The whole type name, in any conversion and no format. -/
def Field.IsName (f : Field) : Prop :=
  f.path = "name".toList ∧ f.format = []

/-! ## Renderings in parts -/

section

variable {nested nested' : List Char → Except Fault (List Char)} {p q : Placeholders}
  {ps rest : List Piece} {c : Char} {f : Field} {cs cs' : List Char}

/-- What a piece adds to a rendering. -/
def Piece.RendersTo (nested : List Char → Except Fault (List Char)) (p : Placeholders) :
    Piece → List Char → Prop
  | .literal c, out => [c] = out
  | .field f, out => renderField nested p f = .ok out

theorem renderPieces_cons_eq_ok {piece : Piece} :
    renderPieces nested p (piece :: rest) = .ok cs ↔
      ∃ out, piece.RendersTo nested p out ∧
        ∃ more, renderPieces nested p rest = .ok more ∧ out ++ more = cs := by
  cases piece with
  | literal c =>
      simp only [Piece.RendersTo, exists_eq_left', List.singleton_append]
      rw [renderPieces]
      cases renderPieces nested p rest with
      | error e => simp [Except.map]
      | ok more => simp [Except.map]
  | field f =>
      simp only [Piece.RendersTo]
      rw [renderPieces]
      cases renderField nested p f with
      | error e => simp
      | ok out =>
          cases renderPieces nested p rest with
          | error e => simp [Except.map]
          | ok more => simp [Except.map]

/-- Pieces render to the same if fields do. -/
theorem renderPieces_congr
    (hfields : ∀ f, .field f ∈ ps → renderField nested p f = renderField nested' q f) :
    renderPieces nested p ps = renderPieces nested' q ps := by
  induction ps with
  | nil =>
      rfl
  | cons piece rest ih =>
      have hrest := ih fun f hf => hfields f (List.mem_cons_of_mem piece hf)
      cases piece with
      | literal c => rw [renderPieces, renderPieces, hrest]
      | field f => rw [renderPieces, renderPieces, hrest, hfields f List.mem_cons_self]

/-- A path leads to the same place if it starts from the same text. -/
theorem Placeholders.find_congr {path : List Char} (hstart : p.start? path = q.start? path) :
    p.find path = q.find path := by
  unfold Placeholders.start? at hstart
  simp only [Placeholders.find, hstart]

/-- A format comes out the same if its fields start from the same texts. -/
theorem renderTo_one_congr (hstart : ∀ g ∈ fieldsOf cs, p.start? g.path = q.start? g.path) :
    renderTo p 1 cs = renderTo q 1 cs := by
  have hpieces : renderPieces (renderTo p 0) p (Scan.ofChars cs).pieces =
      renderPieces (renderTo q 0) q (Scan.ofChars cs).pieces := by
    apply renderPieces_congr
    intro g hg
    have hfind : p.find g.path = q.find g.path :=
      Placeholders.find_congr (hstart g (mem_fieldsOf.2 hg))
    -- Further formats are out of reach: no template stands that deep.
    simp only [renderField, hfind, renderTo]
  show renderScan (renderTo p 0) p _ = renderScan (renderTo q 0) q _
  unfold renderScan
  rw [hpieces]

/-- Two renderings of the same pieces, cut where the pieces end. -/
theorem exists_parts (h : renderPieces nested p ps = .ok cs)
    (h' : renderPieces nested' q ps = .ok cs') :
    ∃ parts : List (List Char × List Char),
      parts.flatMap Prod.fst = cs ∧ parts.flatMap Prod.snd = cs' ∧
        List.Forall₂ (fun piece part => piece.RendersTo nested p part.1 ∧
          piece.RendersTo nested' q part.2) ps parts := by
  induction ps generalizing cs cs' with
  | nil =>
      cases h
      cases h'
      exact ⟨[], rfl, rfl, .nil⟩
  | cons piece rest ih =>
      rcases renderPieces_cons_eq_ok.1 h with ⟨out, hout, more, hmore, rfl⟩
      rcases renderPieces_cons_eq_ok.1 h' with ⟨out', hout', more', hmore', rfl⟩
      rcases ih hmore hmore' with ⟨parts, rfl, rfl, hparts⟩
      exact ⟨(out, out') :: parts, rfl, rfl, .cons ⟨hout, hout'⟩ hparts⟩

/-- Parts that differ are those of fields, and each field has its part. -/
theorem fields_of_parts {parts : List (List Char × List Char)}
    (hparts : List.Forall₂ (fun piece part => piece.RendersTo nested p part.1 ∧
      piece.RendersTo nested' q part.2) ps parts) :
    (∀ part ∈ parts, part.1 ≠ part.2 → ∃ f, .field f ∈ ps ∧
      renderField nested p f = .ok part.1 ∧ renderField nested' q f = .ok part.2) ∧
    ∀ f, .field f ∈ ps → ∃ part ∈ parts,
      renderField nested p f = .ok part.1 ∧ renderField nested' q f = .ok part.2 := by
  have hlen : ps.length = parts.length := hparts.length_eq
  constructor
  · intro part hpart hne
    rcases List.mem_iff_get.1 hpart with ⟨i, rfl⟩
    have hi : i.1 < ps.length := Nat.lt_of_lt_of_eq i.2 hlen.symm
    have hrenders := hparts.get hi i.2
    have hmem : ps.get ⟨i.1, hi⟩ ∈ ps := List.get_mem ps ⟨i.1, hi⟩
    cases hpiece : ps.get ⟨i.1, hi⟩ with
    | literal c =>
        rw [hpiece] at hrenders
        exact absurd (hrenders.1.symm.trans hrenders.2) hne
    | field f =>
        rw [hpiece] at hrenders hmem
        exact ⟨f, hmem, hrenders⟩
  · intro f hf
    rcases List.mem_iff_get.1 hf with ⟨i, hpiece⟩
    have hi : i.1 < parts.length := Nat.lt_of_lt_of_eq i.2 hlen
    have hrenders := hparts.get i.2 hi
    rw [hpiece] at hrenders
    exact ⟨parts.get ⟨i.1, hi⟩, List.get_mem parts ⟨i.1, hi⟩, hrenders⟩

end

/-! ## Two names -/

section

variable {template queryAlias n n' s s' : String} {cs cs' : List Char} {f : Field}

theorem renderPieces_of_render {p : Placeholders} (hs : render template p = .ok s) :
    renderPieces (renderTo p 1) p (Scan.ofChars template.toList).pieces = .ok s.toList := by
  rcases exists_renderScan_of_render hs with ⟨cs, hcs⟩
  have hscan : (renderScan (renderTo p 1) p (Scan.ofChars template.toList)).map String.ofList =
      .ok s := hs
  rw [hcs] at hscan
  cases hscan
  rw [String.toList_ofList]
  exact (renderScan_eq_ok.1 hcs).1

/-- If formats are the same, no field makes up for another. -/
theorem render_eq_iff (hformats : SameFormats template ⟨queryAlias, n⟩ ⟨queryAlias, n'⟩)
    (hs : render template ⟨queryAlias, n⟩ = .ok s)
    (hs' : render template ⟨queryAlias, n'⟩ = .ok s') :
    s = s' ↔ ∀ f ∈ fields template, f.output ⟨queryAlias, n⟩ = f.output ⟨queryAlias, n'⟩ := by
  have hpieces := renderPieces_of_render hs
  have hpieces' := renderPieces_of_render hs'
  constructor
  · rintro rfl
    rcases exists_parts hpieces hpieces' with ⟨parts, hfst, hsnd, hparts⟩
    rcases fields_of_parts hparts with ⟨hdiffer, hall⟩
    -- A part of a field within its counterpart tells which of the names is shorter.
    have hshorter : ∀ part ∈ parts, part.1 ≠ part.2 →
        (Within part.1 part.2 → n.length < n'.length) ∧
          (Within part.2 part.1 → n'.length < n.length) := by
      intro part hpart hne
      rcases hdiffer part hpart hne with ⟨f, hf, hout, hout'⟩
      have hformat := hformats f (mem_fieldsOf.2 hf)
      exact ⟨fun hin => name_lt_of_within hformat hout hout' hin,
        fun hin => name_lt_of_within (fun hn => (hformat hn).symm) hout' hout hin⟩
    intro f hf
    rcases hall f (mem_fieldsOf.1 hf) with ⟨part, hpart, hout, hout'⟩
    by_cases hsame : part.1 = part.2
    · exact hout.trans (hsame ▸ hout'.symm)
    · -- Then some part lies within its counterpart, and some other around it.
      rcases exists_within_of_ne (hfst.trans hsnd.symm) ⟨part, hpart, hsame⟩ with
        ⟨⟨inner, hinner, hin⟩, outer, houter, hout⟩
      have hlt : n.length < n'.length :=
        (hshorter inner hinner fun heq => Within.irrefl _ (heq ▸ hin)).1 hin
      have hgt : n'.length < n.length :=
        (hshorter outer houter fun heq => Within.irrefl _ (heq ▸ hout)).2 hout
      omega
  · intro hall
    have hsame := renderPieces_congr fun f hf => hall f (mem_fieldsOf.2 hf)
    rw [hpieces, hpieces'] at hsame
    exact String.toList_inj.1 (Except.ok.inj hsame)

theorem sameFormats_of_nestsNoName (hnests : NestsNoName template) :
    SameFormats template ⟨queryAlias, n⟩ ⟨queryAlias, n'⟩ := by
  intro f hf hn
  apply renderTo_one_congr
  intro g hg
  exact Placeholders.start?_congr (fun _ => rfl) fun h => absurd h (hnests f hf hn g hg)

/-! ## The whole name -/

theorem find_name (p : Placeholders) : p.find "name".toList = .ok (.text p.name.toList) := by
  apply Placeholders.find_whole
  rw [String.ofList_toList]
  rfl

theorem Field.IsName.name_eq (hf : f.IsName) (h : f.output ⟨queryAlias, n⟩ = .ok cs)
    (h' : f.output ⟨queryAlias, n'⟩ = .ok cs) : n = n' := by
  rcases hf with ⟨hpath, hformat⟩
  rcases renderField_eq_ok.1 h with ⟨v, hv, w, hw, format, hfm, hcs⟩
  rcases renderField_eq_ok.1 h' with ⟨v', hv', w', hw', format', hfm', hcs'⟩
  rw [hpath, find_name] at hv hv'
  cases hv
  cases hv'
  have hnests : f.nests = false := by
    simp [Field.nests, hformat]
  simp only [hnests, hformat, Bool.false_eq_true, if_false, Except.ok.injEq] at hfm hfm'
  subst hfm hfm'
  rcases exists_text_of_convert hw with ⟨out, rfl⟩
  rcases exists_text_of_convert hw' with ⟨out', rfl⟩
  -- Without a format both are shown as they are.
  have hout : out = cs := Except.ok.inj hcs
  have hout' : out' = cs := Except.ok.inj hcs'
  subst hout hout'
  exact String.toList_inj.1 (eq_of_convert_text hw hw')

/-- A template that shows the whole name somewhere tells names apart. -/
theorem name_eq_of_render (hnests : NestsNoName template)
    (hname : ∃ f ∈ fields template, f.IsName) (hs : render template ⟨queryAlias, n⟩ = .ok s)
    (hs' : render template ⟨queryAlias, n'⟩ = .ok s) : n = n' := by
  rcases hname with ⟨f, hf, hisName⟩
  have hsame := (render_eq_iff (sameFormats_of_nestsNoName hnests) hs hs').1 rfl f hf
  rcases exists_parts (renderPieces_of_render hs) (renderPieces_of_render hs') with
    ⟨_, _, _, hparts⟩
  rcases (fields_of_parts hparts).2 f (mem_fieldsOf.1 hf) with ⟨part, _, hout, _⟩
  exact hisName.name_eq hout (hsame ▸ hout)

end

end Template
end PartitionKeys
