import PartitionKeys.Proofs.Settings.Basic
import PartitionKeys.Proofs.Template.Reported

/-!
# Unusable — what becomes of a template that cannot be used

A template is checked when it is given to settings and when keys are built with it.  Most of what
can be wrong with it is reported as such.  A fault that is not reported ends the check as it ended
the rendering, and it ends settings and the building of keys the same way.

* `Template.check_eq_error`: how a check fails;
* `Settings.read_of_template`: settings by what the check of their template says;
* `KeyRing.ofCatalog_eq_error_iff`: keys of a covered catalog fail as the check does;
* `Template.unusable_told`: all of it for one template;
* `Template.unusable_untold`: a template that nothing reports.
-/

namespace PartitionKeys

variable {template : String} {f : Failure}

/-! ## Checks -/

namespace Template

theorem check_eq_error (hf : check template = .error f) :
    f.report? = some (.invalidConfig (.text "predicate_template") (.text template)
        (.text f.message)) ∨
      ∃ e, f = .rendering e ∧ render template sample = .error e ∧ e.isReported = false := by
  rw [check] at hf
  split at hf
  · rename_i e hrender
    split at hf
    · cases hf
      exact Or.inl rfl
    · rename_i hnot
      cases hf
      exact Or.inr ⟨e, rfl, hrender, by simpa using hnot⟩
  · split at hf
    · cases hf
    · cases hf
      exact Or.inl rfl

end Template

/-! ## Settings -/

namespace Settings

variable {s : Sources} {given : Fields}

/-- Of the names with a value the one that is looked up has its own. -/
theorem get?_filterMap (g : String → Option Value) (ns : List String) (name : String) :
    Fields.get? (ns.filterMap fun n => (g n).map fun v => (n, v)) name =
      if name ∈ ns then g name else none := by
  induction ns with
  | nil =>
      rfl
  | cons n ns ih =>
      unfold Fields.get? at ih ⊢
      by_cases hn : name = n
      · subst hn
        cases hg : g name with
        | none => simp [hg, ih]
        | some v => simp [hg]
      · cases hg : g n with
        | none => simp [hg, ih, hn]
        | some v => simp [hg, ih, hn, List.lookup_cons, beq_eq_false_iff_ne.2 hn]

theorem template_of_argument
    (hs : argument? s.arguments "predicate_template" = some (.text template)) :
    Templated (gather s) template := by
  have hgiven : (gather s).get? "predicate_template" = some (.text template) := by
    unfold gather
    dsimp only
    rw [get?_filterMap, if_pos (by decide), hs]
    rfl
  have hplace : (complete (gather s)).get? "predicate_template" =
      some (((gather s).get? "predicate_template").getD (.text Template.default)) := rfl
  rw [Templated, hplace, hgiven]
  rfl

theorem templateIssues_of_report {r : Report} (hf : Template.check template = .error f)
    (hr : f.report? = some r) :
    templateIssues (.text template) = .ok [⟨["predicate_template"], .refused f.message⟩] := by
  simp [templateIssues, hf, hr]

theorem templateIssues_of_unreported (hf : Template.check template = .error f)
    (hr : f.report? = none) : templateIssues (.text template) = .error f := by
  simp [templateIssues, hf, hr]

theorem ofFields_of_error (htemplate : Templated given template)
    (hf : templateIssues (.text template) = .error f) : ofFields given = .error f := by
  unfold Templated at htemplate
  unfold ofFields
  simp only [htemplate, hf]

/-- Settings that are not given up at are accepted, or rejected with what the template is refused
for among the issues. -/
theorem ofFields_of_refusals {refusals : List Issue}
    (htemplate : Templated given template)
    (hrefusals : templateIssues (.text template) = .ok refusals) :
    (refusals = [] ∧ ∃ t, ofFields given = .ok t ∧ t.predicateTemplate = template) ∨
      ∃ issues, ofFields given = .error (.invalid issues) ∧ refusals ⊆ issues := by
  -- The refusals stand among the issues where the template stands among the settings.
  rcases exists_template_mem_complete given with ⟨v, hv⟩
  have hamong : refusals ⊆ (complete given).flatMap fun f =>
      fieldIssues f.1 f.2 ++ if f.1 == "predicate_template" then refusals else [] := by
    intro issue hissue
    exact List.mem_flatMap.2 ⟨_, hv, List.mem_append_right _ hissue⟩
  unfold Templated at htemplate
  unfold ofFields
  simp only [htemplate, hrefusals]
  split
  · -- Accepted settings have no issues, and so no refusals.
    rename_i template' _ _ hissues htext _ _
    cases htext
    rw [hissues] at hamong
    exact Or.inl ⟨List.subset_nil.1 hamong, _, rfl, rfl⟩
  · exact Or.inr ⟨_, rfl, hamong⟩

end Settings

/-! ## Keys -/

namespace KeyRing

variable {h : Hierarchy} {b : AttributeBindings} {c : Coverage} {listing : Traced Listing}
  {l : Listing}

theorem ofCoverage_eq_error_iff :
    (ofCoverage h (some b) template c).result = .error f ↔ Template.check template = .error f := by
  unfold ofCoverage
  cases Template.check template with
  | error g => simp [Traced.fail]
  | ok u => simp

theorem ofCatalog_eq_error_iff (hl : listing.result = .ok l)
    (hc : (Coverage.ofCatalog l.hierarchy l.types).result = .ok c) :
    (ofCatalog (some listing) b template).result = .error f ↔
      Template.check template = .error f := by
  rw [← ofCoverage_eq_error_iff (h := l.hierarchy) (b := b) (c := c)]
  unfold ofCatalog derive
  rw [Traced.result_bind_ok _ hl, Traced.result_bind_ok _ hc, Traced.result_bind_eq_error]
  -- Keys that have been built are only told after that.
  refine or_iff_left ?_
  rintro ⟨ring, _, hlast⟩
  rcases Traced.result_bind_eq_error.1 hlast with htold | ⟨_, _, hdone⟩
  · cases htold
  · cases hdone

end KeyRing

/-! ## Unusable templates -/

namespace Template

/-- A failed check reports the template, or it fails with the sample rendering itself, and then some
field leaves texts or asks for a width that no text can have.  What is reported is an issue of
settings with the template and a failure of keys built with it; what is not ends both as it ended
the check. -/
theorem unusable_told (template : String) :
    (∀ f, check template = .error f →
      f.report? = some (.invalidConfig (.text "predicate_template") (.text template)
          (.text f.message)) ∨
        ∃ e, f = .rendering e ∧ render template sample = .error e ∧ e.isReported = false ∧
          ((∃ g ∈ allFields template, g.LeavesText) ∨
            e = .tooLong ∧ ∃ g ∈ allFields template, g.Overflows sample)) ∧
    (∀ s : Settings.Sources,
      Settings.argument? s.arguments "predicate_template" = some (.text template) →
        (check template = .ok () →
          (∃ t, Settings.read s = .ok t ∧ t.predicateTemplate = template) ∨
            ∃ issues, Settings.read s = .error (.invalid issues)) ∧
        ∀ f, check template = .error f →
          (∀ r, f.report? = some r → ∃ issues, Settings.read s = .error (.invalid issues) ∧
            ⟨["predicate_template"], .refused f.message⟩ ∈ issues) ∧
          (f.report? = none → Settings.read s = .error f)) ∧
    (∀ h b c f, (KeyRing.ofCoverage h (some b) template c).result = .error f ↔
      check template = .error f) ∧
    ∀ (listing : Traced KeyRing.Listing) l c b f, listing.result = .ok l →
      (Coverage.ofCatalog l.hierarchy l.types).result = .ok c →
        ((KeyRing.ofCatalog (some listing) b template).result = .error f ↔
          check template = .error f) := by
  refine ⟨?_, ?_, fun h b c f => KeyRing.ofCoverage_eq_error_iff,
    fun listing l c b f hl hc => KeyRing.ofCatalog_eq_error_iff hl hc⟩
  · intro f hf
    rcases check_eq_error hf with hreport | ⟨e, rfl, hrender, hnot⟩
    · exact Or.inl hreport
    · exact Or.inr ⟨e, rfl, hrender, hnot, exists_field_of_unreported hrender hnot⟩
  · intro s hs
    have htemplate := Settings.template_of_argument hs
    constructor
    · intro hc
      rcases Settings.ofFields_of_refusals htemplate (Settings.templateIssues_of_check hc) with
        ⟨_, haccepted⟩ | ⟨issues, hissues, _⟩
      · exact Or.inl haccepted
      · exact Or.inr ⟨issues, hissues⟩
    · intro f hf
      constructor
      · intro r hr
        rcases Settings.ofFields_of_refusals htemplate (Settings.templateIssues_of_report hf hr)
          with ⟨hnone, _⟩ | ⟨issues, hissues, hin⟩
        · cases hnone
        · exact ⟨issues, hissues, hin List.mem_cons_self⟩
      · intro hr
        exact Settings.ofFields_of_error htemplate (Settings.templateIssues_of_unreported hf hr)

/-- A text used as an index of the alias is not reported, and settings and keys fail with it. -/
theorem unusable_untold :
    check "\x7balias[x]\x7d" = .error (.rendering (.textAsIndex "string")) ∧
      (Failure.rendering (.textAsIndex "string")).report? = none ∧
      Settings.read { arguments := [("predicate_template", .text "\x7balias[x]\x7d")] } =
        .error (.rendering (.textAsIndex "string")) ∧
      (KeyRing.ofCatalog (some (Traced.done ⟨Coverage.notices, Coverage.noticesListed⟩)) {}
        "\x7balias[x]\x7d").result = .error (.rendering (.textAsIndex "string")) ∧
    ¬∀ template f, check template = .error f →
      f.report? = some (.invalidConfig (.text "predicate_template") (.text template)
        (.text f.message)) := by
  have hcheck : check "\x7balias[x]\x7d" = .error (.rendering (.textAsIndex "string")) := by
    cbv
  have hreport : (Failure.rendering (.textAsIndex "string")).report? = none := rfl
  refine ⟨hcheck, hreport, ?_, ?_, ?_⟩
  · have hname : LetterCase.lower "predicate_template" = "predicate_template" := by
      decide +kernel
    have hargument : Settings.argument? [("predicate_template", .text "\x7balias[x]\x7d")]
        "predicate_template" = some (.text "\x7balias[x]\x7d") := by
      simp [Settings.argument?, hname]
    exact Settings.ofFields_of_error (Settings.template_of_argument hargument)
      (Settings.templateIssues_of_unreported hcheck hreport)
  · exact (KeyRing.ofCatalog_eq_error_iff rfl Coverage.ofCatalog_notices).2 hcheck
  · intro hall
    have hsome := hall _ _ hcheck
    rw [hreport] at hsome
    cases hsome

end Template
end PartitionKeys
