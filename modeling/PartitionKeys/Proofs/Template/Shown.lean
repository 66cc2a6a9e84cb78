import PartitionKeys.Proofs.Template.Check
import PartitionKeys.Proofs.Template.Telling

/-!
# Shown — where the alias of a query reaches its fragment

An accepted template has the sample alias in its sample rendering.  If it goes from there when
another alias is given, some field starts from the alias.  A field may take characters of the alias,
quote it or cut it; one that does none of this puts it into the fragment as it is.

* `render_congr`: only texts that fields start from reach a rendering;
* `FormatSpec.infix_format`: a text stands in its format unless the format cuts it;
* `Field.ShowsAlias`, `Field.IsAlias`: fields that show the alias whole, for one alias and for all;
* `Predicate.alias_in_fragment`: what accepting a template means for its fragments;
* `Predicate.accepted_and_cut`: that it does not mean more.
-/

namespace PartitionKeys
namespace Template

/-! ## Formats that do not cut -/

namespace FormatSpec

variable {format cs out : List Char}

/-- The format does not cut texts of a length. -/
def Keeps (format : List Char) (length : Nat) : Prop :=
  ∀ spec, ofChars {} format = .ok spec → ∀ n, spec.precision = some n → length ≤ n

theorem infix_format (hkeeps : Keeps format cs.length)
    (hout : FormatSpec.format format cs = .ok out) : cs <:+: out := by
  rcases format_eq_ok.1 hout with ⟨_, rfl⟩ | ⟨_, spec, hspec, _, _, rfl⟩
  · exact List.infix_refl cs
  · have hwhole : cut spec.precision cs = cs := by
      cases hprecision : spec.precision with
      | none => rfl
      | some n => exact List.take_of_length_le (hkeeps spec hspec n hprecision)
    rw [hwhole]
    exact infix_pad

theorem keeps_nil (length : Nat) : Keeps [] length := by
  intro spec hspec n hn
  have hempty : ofChars {} [] = .ok {} := rfl
  rw [hempty] at hspec
  cases hspec
  cases hn

end FormatSpec

/-! ## Fields that show the alias -/

/-- The alias itself, quoted only if that leaves it as it is, in a format that does not cut it. -/
def Field.ShowsAlias (f : Field) (p : Placeholders) : Prop :=
  f.path = "alias".toList ∧
    ∃ text, convert f.conversion (.text p.queryAlias.toList) = .ok (.text text) ∧
      p.queryAlias.toList <:+: text ∧
      ∀ format, (if f.nests then renderTo p 1 f.format else .ok f.format) = .ok format →
        FormatSpec.Keeps format text.length

/-- The alias itself, not quoted, in a format that cuts nothing. -/
def Field.IsAlias (f : Field) : Prop :=
  f.path = "alias".toList ∧ (f.conversion = none ∨ f.conversion = some 's') ∧ f.nests = false ∧
    ∀ length, FormatSpec.Keeps f.format length

/-- The sample alias goes from the sample rendering when another alias is given. -/
def FollowsAlias (template : String) : Prop :=
  ∃ queryAlias s, render template ⟨queryAlias, sample.name⟩ = .ok s ∧
    ¬sample.queryAlias.toList <:+: s.toList

section

variable {template s : String} {f : Field} {p q : Placeholders} {cs out : List Char}
  {nested : List Char → Except Fault (List Char)} {ps : List Piece}

theorem Field.IsAlias.showsAlias (hf : f.IsAlias) (p : Placeholders) : f.ShowsAlias p := by
  rcases hf with ⟨hpath, hconversion, hnests, hkeeps⟩
  refine ⟨hpath, p.queryAlias.toList, ?_, List.infix_refl _, ?_⟩
  · rcases hconversion with hnone | hshown
    · rw [hnone]
      rfl
    · rw [hshown]
      rfl
  · intro format hformat
    simp only [hnests, Bool.false_eq_true, if_false, Except.ok.injEq] at hformat
    exact hformat ▸ hkeeps _

theorem Field.ShowsAlias.infix_output (hf : f.ShowsAlias p) (hout : f.output p = .ok out) :
    p.queryAlias.toList <:+: out := by
  rcases hf with ⟨hpath, text, htext, hin, hkeeps⟩
  rcases renderField_eq_ok.1 hout with ⟨v, hv, w, hw, format, hformat, hcs⟩
  have hfind : p.find "alias".toList = .ok (.text p.queryAlias.toList) := by
    apply Placeholders.find_whole
    rw [String.ofList_toList]
    rfl
  -- The path leads to the alias, and the conversion to the text that has it inside.
  rw [hpath, hfind] at hv
  cases hv
  cases htext.symm.trans hw
  exact hin.trans (FormatSpec.infix_format (hkeeps format hformat) hcs)

/-! ## Renderings -/

theorem infix_of_renderPieces (hf : .field f ∈ ps) (hcs : renderPieces nested p ps = .ok cs) :
    ∃ out, renderField nested p f = .ok out ∧ out <:+: cs := by
  induction ps generalizing cs with
  | nil =>
      cases hf
  | cons piece rest ih =>
      rcases renderPieces_cons_eq_ok.1 hcs with ⟨out, hout, more, hmore, rfl⟩
      rcases List.mem_cons.1 hf with rfl | hf
      · exact ⟨out, hout, (List.prefix_append out more).isInfix⟩
      · rcases ih hf hmore with ⟨out', hout', hin⟩
        exact ⟨out', hout', hin.trans (List.suffix_append out more).isInfix⟩

theorem infix_of_showsAlias (hf : f ∈ fields template) (hshows : f.ShowsAlias p)
    (hs : render template p = .ok s) : p.queryAlias.toList <:+: s.toList := by
  rcases infix_of_renderPieces (mem_fieldsOf.1 hf) (renderPieces_of_render hs) with
    ⟨out, hout, hin⟩
  exact (hshows.infix_output hout).trans hin

/-- What no field starts from, own or nested, does not reach the rendering. -/
theorem render_congr (hstart : ∀ f ∈ allFields template, p.start? f.path = q.start? f.path) :
    render template p = render template q := by
  have hpieces : renderPieces (renderTo p 1) p (Scan.ofChars template.toList).pieces =
      renderPieces (renderTo q 1) q (Scan.ofChars template.toList).pieces := by
    apply renderPieces_congr
    intro f hf
    have hown : f ∈ fields template := mem_fieldsOf.2 hf
    have hfind : p.find f.path = q.find f.path :=
      Placeholders.find_congr (hstart f (mem_allFields.2 (Or.inl hown)))
    rw [renderField, renderField, hfind]
    by_cases hnests : f.nests = true
    · -- What the format becomes is decided by the fields nested in it.
      have hformat : renderTo p 1 f.format = renderTo q 1 f.format :=
        renderTo_one_congr fun g hg =>
          hstart g (mem_allFields.2 (Or.inr ⟨f, hown, hnests, hg⟩))
      simp only [if_pos hnests, hformat]
    · simp only [if_neg hnests]
  show (renderScan (renderTo p 1) p _).map _ = (renderScan (renderTo q 1) q _).map _
  unfold renderScan
  rw [hpieces]

theorem exists_root_alias_of_check (hc : check template = .ok ())
    (hfollows : FollowsAlias template) : ∃ f ∈ allFields template, rootOf f.path = "alias" := by
  rcases hfollows with ⟨queryAlias, s, hs, hnot⟩
  rcases check_eq_ok_iff.1 hc with ⟨s', hs', hin⟩
  by_contra hnone
  push Not at hnone
  -- Otherwise the other rendering is the sample rendering.
  have hsame : render template ⟨queryAlias, sample.name⟩ = render template sample :=
    render_congr fun f hf =>
      Placeholders.start?_congr (fun h => absurd h (hnone f hf)) fun _ => rfl
  rw [hsame, hs'] at hs
  cases hs
  exact hnot hin

end

end Template

namespace Predicate

open Template

variable {template : String}

/-- Some field of an accepted template starts from the alias, if the sample alias does not stay
when the alias goes.  A fragment has the alias in it as soon as one field shows it whole; so do all
fragments, under any alias, of an accepted template the alias fields of which show it whole. -/
theorem alias_in_fragment (hc : check template = .ok ()) :
    (FollowsAlias template → ∃ f ∈ allFields template, rootOf f.path = "alias") ∧
    (∀ name queryAlias s, fragment ⟨name, template⟩ queryAlias = .ok s →
      (∃ f ∈ fields template, f.ShowsAlias ⟨queryAlias, name⟩) →
        queryAlias.toList <:+: s.toList) ∧
    (FollowsAlias template →
      (∀ f ∈ allFields template, rootOf f.path = "alias" → f ∈ fields template ∧ f.IsAlias) →
        ∀ name queryAlias s, fragment ⟨name, template⟩ queryAlias = .ok s →
          queryAlias.toList <:+: s.toList) := by
  refine ⟨exists_root_alias_of_check hc, ?_, ?_⟩
  · rintro name queryAlias s hs ⟨f, hf, hshows⟩
    exact infix_of_showsAlias hf hshows hs
  · intro hfollows hall name queryAlias s hs
    rcases exists_root_alias_of_check hc hfollows with ⟨f, hf, hroot⟩
    rcases hall f hf hroot with ⟨hown, hisAlias⟩
    exact infix_of_showsAlias hown (hisAlias.showsAlias _) hs

theorem allFields_default : allFields Template.default = fields Template.default := by
  rw [allFields, fields_default]
  rfl

theorem followsAlias_default : FollowsAlias Template.default :=
  ⟨"e", "TYPE(e) = Sample", by cbv, by decide⟩

/-- Every fragment of the default template has the alias in it. -/
theorem alias_in_fragment_default :
    check Template.default = .ok () ∧ FollowsAlias Template.default ∧
      ∀ name queryAlias s, fragment ⟨name, Template.default⟩ queryAlias = .ok s →
        queryAlias.toList <:+: s.toList := by
  have hc : check Template.default = .ok () := by
    cbv
  refine ⟨hc, followsAlias_default, (alias_in_fragment hc).2.2 followsAlias_default ?_⟩
  intro f hf hroot
  rw [allFields_default] at hf
  refine ⟨hf, ?_⟩
  rw [fields_default] at hf
  rcases List.mem_pair.1 hf with rfl | rfl
  · exact ⟨rfl, Or.inl rfl, rfl, FormatSpec.keeps_nil⟩
  · exact absurd hroot (by decide)

/-- The first template has room for the sample alias and not for the one asked with; the second one
quotes the alias, and not every alias stays as it is in quotes. -/
theorem accepted_and_cut :
    check "\x7balias:.9\x7d" = .ok () ∧
      fragment ⟨"Mail", "\x7balias:.9\x7d"⟩ "transaction" = .ok "transacti" ∧
      ¬"transaction".toList <:+: "transacti".toList ∧
    check "\x7balias!r\x7d" = .ok () ∧
      fragment ⟨"Mail", "\x7balias!r\x7d"⟩ "a\\b" = .ok "'a\\\\b'" ∧
      ¬"a\\b".toList <:+: "'a\\\\b'".toList ∧
    ¬∀ template, check template = .ok () →
      ∀ name queryAlias s, fragment ⟨name, template⟩ queryAlias = .ok s →
        queryAlias.toList <:+: s.toList := by
  have hcheck : check "\x7balias:.9\x7d" = .ok () := by
    cbv
  have hcut : fragment ⟨"Mail", "\x7balias:.9\x7d"⟩ "transaction" = .ok "transacti" := by
    cbv
  have hnot : ¬"transaction".toList <:+: "transacti".toList := by
    decide
  have hquoted : check "\x7balias!r\x7d" = .ok () :=
    check_eq_ok_iff.2 ⟨"'__alias__'", by decide +kernel, by decide⟩
  exact ⟨hcheck, hcut, hnot, hquoted, by decide +kernel, by decide,
    fun hall => hnot (hall _ hcheck _ _ _ hcut)⟩

end Predicate
end PartitionKeys
