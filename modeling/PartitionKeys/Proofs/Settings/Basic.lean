import PartitionKeys.Proofs.Key.Settings

/-!
# Settings — what settings have been accepted for

* `Settings.check_of_ofFields`: the template of accepted settings passes its check;
* `Settings.Checkable`, `Settings.invalid_of_ofFields`: settings are rejected with issues, if their
  template is one that its check accepts or reports;
* `Settings.bindings_eq_error`: why settings may have no bindings;
* `Settings.gather_variable`: one variable of the environment is one setting;
* `Settings.ofFields_accepted`, `Settings.ofFields_rejected`: settings beside an accepted template;
* `Settings.read_nothing`: without sources every setting has its conventional value.
-/

namespace PartitionKeys
namespace Settings

variable {w : World} {s : Settings} {c : CategorySettings} {given : Fields} {f : Failure}

/-! ## Templates -/

theorem check_of_templateIssues {template : String}
    (h : templateIssues (.text template) = .ok []) : Template.check template = .ok () := by
  unfold templateIssues at h
  cases hc : Template.check template with
  | ok u => rfl
  | error f =>
      simp only [hc] at h
      split at h
      · cases h
      · cases h

/-- The template has a place among the settings, given or not. -/
theorem exists_template_mem_complete (given : Fields) :
    ∃ v, ("predicate_template", v) ∈ complete given := by
  refine ⟨_, List.mem_map.2 ⟨("predicate_template", .text Template.default), ?_, rfl⟩⟩
  simp [toFields]

theorem check_of_ofFields (h : ofFields given = .ok s) :
    Template.check s.predicateTemplate = .ok () := by
  unfold ofFields at h
  dsimp only at h
  split at h
  · cases h
  · rename_i refusals hrefusals
    split at h
    · rename_i template policy level hissues htemplate hpolicy hlevel
      cases h
      -- Without issues at all there are none at the template.
      rcases exists_template_mem_complete given with ⟨v, hv⟩
      have hnone : refusals = [] :=
        (List.append_eq_nil_iff.1 (List.flatMap_eq_nil_iff.1 hissues _ hv)).2
      rw [htemplate, hnone] at hrefusals
      exact check_of_templateIssues hrefusals
    · cases h

/-- The template of the settings, given or conventional. -/
def Templated (given : Fields) (template : String) : Prop :=
  ((complete given).get? "predicate_template").getD .null = .text template

/-- The template, if its check refuses it, is refused with a report. -/
def Checkable (given : Fields) : Prop :=
  ∀ template, Templated given template → ∀ f, Template.check template = .error f →
    ∃ report, f.report? = some report

theorem templateIssues_of_checkable (hchecked : Checkable given) :
    ∃ refusals,
      templateIssues (((complete given).get? "predicate_template").getD .null) = .ok refusals := by
  cases htemplate : ((complete given).get? "predicate_template").getD .null with
  | text template =>
      unfold templateIssues
      dsimp only
      cases hc : Template.check template with
      | ok u => exact ⟨[], rfl⟩
      | error f =>
          rcases hchecked template htemplate f hc with ⟨report, hreport⟩
          simp [hreport]
  | _ => exact ⟨[], rfl⟩

theorem invalid_of_ofFields (hchecked : Checkable given) (h : ofFields given = .error f) :
    ∃ issues, f = .invalid issues := by
  rcases templateIssues_of_checkable hchecked with ⟨refusals, hrefusals⟩
  unfold ofFields at h
  dsimp only at h
  rw [hrefusals] at h
  dsimp only at h
  split at h
  · cases h
  · cases h
    exact ⟨_, rfl⟩

/-! ## Bindings -/

/-- An import path whose module half is empty, or relative. -/
def Unrooted (mapping : String) : Prop :=
  ∃ moduleName name, World.splitPath? mapping = some (moduleName, name) ∧
    (moduleName = "" ∨ moduleName.toList.head? = some '.')

/-- What cannot be resolved is told by its text, or is a path that starts at no module. -/
theorem told_or_unrooted {mapping : String} {fault : MapperFault}
    (h : w.resolve (.text mapping) = .error fault) :
    fault.spec? = some mapping ∨ fault.spec? = none ∧ Unrooted mapping := by
  have htext : w.resolveText mapping = .error fault := h
  unfold World.resolveText at htext
  split at htext
  · cases htext
  · split at htext
    · cases htext
      exact Or.inl rfl
    · rename_i moduleName name hpath
      unfold World.importMapper at htext
      split at htext
      · rename_i hempty
        cases htext
        exact Or.inr ⟨rfl, moduleName, name, hpath, Or.inl hempty⟩
      · split at htext
        · rename_i hdot
          cases htext
          exact Or.inr ⟨rfl, moduleName, name, hpath, Or.inr hdot⟩
        · -- What cannot be imported, or not be called, is reported by its path.
          split at htext
          · cases htext
            exact Or.inl rfl
          · split at htext
            · cases htext
              exact Or.inl rfl
            · cases htext
              exact Or.inl rfl
            · cases htext

theorem ofFields_bindingFields_eq_error
    (h : (CategoryBindings.ofFields w (bindingFields c)).toExcept = .error f) :
    (∃ r, f.report? = some r) ∨ Unrooted c.stateMapping := by
  cases hresolve : w.resolve (.text c.stateMapping) with
  | ok m =>
      rw [ofFields_bindingFields hresolve] at h
      cases h
  | error fault =>
      rcases told_or_unrooted hresolve with hspec | ⟨_, hunrooted⟩
      · -- Only a path without a module is refused as a value, and it has no path to tell.
        have hrefusal : fault.isRefusal = false := by
          cases fault with
          | emptyModule => cases hspec
          | _ => rfl
        have hmapper : w.resolve (CategoryBindings.mapping (bindingFields c)) = .error fault :=
          hresolve
        rw [CategoryBindings.ofFields_error hmapper, hrefusal, if_neg Bool.false_ne_true] at h
        cases h
        exact Or.inl ⟨_, congrArg (Option.map _) hspec⟩
      · exact Or.inr hunrooted

/-- Without bindings there is a report, or the state mapping of a category is a path that starts at
no module. -/
theorem bindings_eq_error (h : s.bindings w = .error f) :
    (∃ r, f.report? = some r) ∨
      ∃ category, category ≠ .neither ∧ Unrooted (s.ofCategory category).stateMapping := by
  unfold bindings at h
  cases htrigger : (CategoryBindings.ofFields w (bindingFields s.trigger)).toExcept with
  | error g =>
      rw [htrigger] at h
      cases h
      exact (ofFields_bindingFields_eq_error htrigger).imp_right fun hu =>
        ⟨.jobTrigger, by decide, hu⟩
  | ok trigger =>
      cases hinstances : (CategoryBindings.ofFields w (bindingFields s.instances)).toExcept with
      | error g =>
          rw [htrigger, hinstances] at h
          cases h
          exact (ofFields_bindingFields_eq_error hinstances).imp_right fun hu =>
            ⟨.jobInstance, by decide, hu⟩
      | ok instances =>
          rw [htrigger, hinstances] at h
          cases h

/-! ## Sources -/

theorem values_empty (environment : List (String × String)) :
    EnvFile.values environment "" = [] := by
  have hnone : EnvFile.assignments "" = [] := by
    cbv
  rw [EnvFile.values, hnone]
  rfl

theorem gather_nothing : gather {} = [] := by
  unfold gather
  dsimp only
  rw [List.map_nil, values_empty, List.filterMap_eq_nil_iff]
  intro name _
  rfl

theorem lookupAnyCase_singleton {mark name : String} (value : String)
    (hmark : LetterCase.lower mark = namespaceMark ++ name) (n : String) :
    lookupAnyCase [(mark, some value)] n = (Option.guard (· == name) n).map fun _ => value := by
  have hsame : (namespaceMark ++ name == namespaceMark ++ n) = (n == name) := by
    rw [Bool.eq_iff_iff, beq_iff_eq, beq_iff_eq, String.append_right_inj, eq_comm]
  unfold lookupAnyCase
  cases hn : n == name <;> simp [Option.guard, hmark, hsame, hn]

/-- One variable gives one setting. -/
theorem gather_variable {mark name : String} (value : String) (hname : name ∈ names)
    (hmark : LetterCase.lower mark = namespaceMark ++ name) :
    gather { environment := [(mark, value)] } = [(name, .text value)] := by
  have heach : (fun n => ((argument? [] n).or (((lookupAnyCase [(mark, some value)] n).or
      (lookupAnyCase [] n)).map .text)).map fun v => (n, v)) =
      fun n => (Option.guard (· == name) n).map fun n => (n, Value.text value) := by
    funext n
    rw [lookupAnyCase_singleton value hmark]
    cases hn : n == name with
    | true =>
        rw [Option.guard, if_pos hn]
        rfl
    | false =>
        rw [Option.guard, if_neg (by simp [hn])]
        rfl
  -- Every other setting is given by none of the sources.
  have hone : names.count name = 1 := List.count_eq_one_of_mem (by decide) hname
  unfold gather
  dsimp only
  rw [values_empty, List.map_cons, List.map_nil, heach, ← List.map_filterMap,
    List.filterMap_eq_filter, List.filter_beq, hone]
  rfl

/-! ## Accepted templates -/

variable {template : String}

/-- The issues of the settings beside the template. -/
def plainIssues (given : Fields) : List Issue :=
  (complete given).flatMap fun f =>
    fieldIssues f.1 f.2 ++ if f.1 == "predicate_template" then [] else []

theorem templateIssues_of_check (hc : Template.check template = .ok ()) :
    templateIssues (.text template) = .ok [] := by
  simp [templateIssues, hc]

theorem ofFields_accepted {policy : Policy} {level : String} (htemplate : Templated given template)
    (hcheck : Template.check template = .ok ()) (hissues : plainIssues given = [])
    (hpolicy : Policy.find? (((complete given).get? "ambiguity_policy").getD .null) = some policy)
    (hlevel : ((complete given).get? "log_level").getD .null = .text level) :
    ofFields given =
      .ok
        { trigger := categoryOfFields (complete given) "trigger"
          instances := categoryOfFields (complete given) "instance"
          predicateTemplate := template
          ambiguityPolicy := policy
          logLevel := level } := by
  unfold Templated at htemplate
  unfold plainIssues at hissues
  unfold ofFields
  simp only [htemplate, templateIssues_of_check hcheck, hissues, hpolicy, hlevel]

theorem ofFields_rejected (htemplate : Templated given template)
    (hcheck : Template.check template = .ok ()) (hissues : plainIssues given ≠ []) :
    ofFields given = .error (.invalid (plainIssues given)) := by
  unfold Templated at htemplate
  unfold plainIssues at hissues ⊢
  unfold ofFields
  simp only [htemplate, templateIssues_of_check hcheck]
  split
  · exact absurd ‹_› hissues
  · rfl

theorem read_nothing : read {} = .ok {} := by
  have htemplate : Templated [] Template.default := rfl
  rw [read, gather_nothing,
    ofFields_accepted htemplate KeyRing.check_default (by decide) rfl rfl]
  rfl

/-- Any text is accepted for a level. -/
theorem ofFields_level (level : String) :
    ofFields [("log_level", .text level)] = .ok { logLevel := level } := by
  have htemplate : Templated [("log_level", .text level)] Template.default := rfl
  rw [ofFields_accepted htemplate KeyRing.check_default rfl rfl rfl]
  rfl

/-- An accepted template is taken as it is. -/
theorem ofFields_template (hcheck : Template.check template = .ok ()) :
    ofFields [("predicate_template", .text template)] = .ok { predicateTemplate := template } := by
  have htemplate : Templated [("predicate_template", .text template)] template := rfl
  rw [ofFields_accepted htemplate hcheck rfl rfl rfl]
  rfl

/-- A policy of no known name is rejected. -/
theorem ofFields_policy {policy : String} (h : Policy.find? (.text policy) = none) :
    ofFields [("ambiguity_policy", .text policy)] =
      .error (.invalid [⟨["ambiguity_policy"], .notPolicy⟩]) := by
  have htemplate : Templated [("ambiguity_policy", .text policy)] Template.default := rfl
  have hpolicy : fieldIssues "ambiguity_policy" (.text policy) =
      [⟨["ambiguity_policy"], .notPolicy⟩] := by
    rw [fieldIssues, if_pos (by decide), h]
    rfl
  have hissues : plainIssues [("ambiguity_policy", .text policy)] =
      (fieldIssues "ambiguity_policy" (.text policy) ++ []) ++ [] := rfl
  rw [List.append_nil, List.append_nil, hpolicy] at hissues
  rw [ofFields_rejected htemplate KeyRing.check_default (by simp [hissues]), hissues]

end Settings
end PartitionKeys
