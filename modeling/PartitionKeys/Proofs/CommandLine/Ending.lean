import PartitionKeys.Proofs.CommandLine.ErrorMark
import PartitionKeys.Proofs.CommandLine.Records
import PartitionKeys.Proofs.Hierarchy.Fault

/-!
# Ending — the ways in which the keys command ends

For a target that loads, the command prints its keys, or tells the report that stopped it, or is
left with something that is no report.  The last happens for settings that are rejected, for an
unknown level and for a predicate that cannot be rendered.  Nothing is said of templates whose check
gives no report, of state mappings without a module of their own, and of texts that the terminal may
take for tags.

* `CommandLine.Orderly`, `CommandLine.Unmarked`: the runs that something is said of;
* `CommandLine.Cause`: why the command may be left;
* `CommandLine.Ends`: the three ways;
* `CommandLine.derive_eq_error`: a derivation stops with a report, or at a state mapping;
* `CommandLine.run_ends`: the command ends in one of the three ways, as JSON or as a table.
-/

namespace PartitionKeys

/-! ## Failures of a derivation -/

namespace ClassCatalog

theorem report_of_listing {c : ClassCatalog} {f : Failure} (h : c.listing.result = .error f) :
    ∃ r, f.report? = some r := by
  rcases ambiguous_of_listing h with ⟨p, rfl⟩
  exact ⟨_, rfl⟩

theorem report_of_registryOf {base : Base} {f : Failure} (h : registryOf base = .error f) :
    ∃ r, f.report? = some r := by
  unfold registryOf at h
  split at h
  · cases h
  · cases h
    exact ⟨_, rfl⟩
  · cases h
    exact ⟨_, rfl⟩

end ClassCatalog

namespace KeyRing

variable {listing : Traced Listing} {b : AttributeBindings} {template : String} {f : Failure}

/-- With an accepted template, whatever stops a derivation is reported. -/
theorem report_of_ofCatalog (ht : Template.check template = .ok ())
    (hlisting : ∀ g, listing.result = .error g → ∃ r, g.report? = some r)
    (h : (ofCatalog (some listing) b template).result = .error f) : ∃ r, f.report? = some r := by
  unfold ofCatalog at h
  rcases Traced.result_bind_eq_error.1 h with hl | ⟨l, hl, _⟩
  · exact hlisting f hl
  · rcases Coverage.ofCatalog_eq_error.1 ((ofCatalog_eq_error hl ht).1 h) with ⟨x, _, rfl⟩
    rcases Hierarchy.Fault.report?_failure l.hierarchy x with ⟨r, hr, _⟩
    exact ⟨r, hr⟩

end KeyRing

namespace CommandLine

variable {s : Surroundings} {r : KeysRequest} {base : ClassCatalog.Base} {settings : Settings}
  {ring : KeyRing} {f : Failure}

/-- Accepted settings leave the state mapping as the only thing that stops without a report. -/
theorem derive_eq_error (hsettings : Settings.read s.sources = .ok settings)
    (h : (derive s settings base).result = .error f) :
    (∃ report, f.report? = some report) ∨
      settings.bindings s.world = .error f ∧
        ∃ category, category ≠ .neither ∧
          Settings.Unrooted (settings.ofCategory category).stateMapping := by
  unfold derive at h
  -- The registry is asked for first, then the bindings, then the coverage of the catalog.
  rcases Traced.result_bind_eq_error.1 h with hregistry | ⟨registry, _, h⟩
  · exact Or.inl (ClassCatalog.report_of_registryOf hregistry)
  · unfold KeyRing.ofSettings at h
    rcases Traced.result_bind_eq_error.1 h with hb | ⟨b, _, h⟩
    · have hb : settings.bindings s.world = .error f := hb
      exact (Settings.bindings_eq_error hb).imp_right fun hpath => ⟨hb, hpath⟩
    · exact Or.inl (KeyRing.report_of_ofCatalog (Settings.check_of_ofFields hsettings)
        (fun _ => ClassCatalog.report_of_listing) h)

/-! ## The runs that something is said of -/

/-- What is configured is used or refused in the documented way: a template is refused with a
report, and a state mapping is a name or has a module of its own. -/
structure Orderly (s : Surroundings) : Prop where
  template : Settings.Checkable (Settings.gather s.sources)
  mappings : ∀ settings, Settings.read s.sources = .ok settings → ∀ category, category ≠ .neither →
    ¬Settings.Unrooted (settings.ofCategory category).stateMapping

/-- Nothing that is printed for a request can hold a tag: neither the message of a report nor, in a
table, what is shown of a key. -/
structure Unmarked (s : Surroundings) (r : KeysRequest) (base : ClassCatalog.Base) : Prop where
  message : ∀ settings f report, Settings.read s.sources = .ok settings →
    (derive s settings base).result = .error f → f.report? = some report →
      Terminal.Untagged report.shown
  cells : r.asJson = false → ∀ settings ring, Settings.read s.sources = .ok settings →
    (derive s settings base).result = .ok ring → ∀ k ∈ ring.keys, ∀ row,
      keyRow r.queryAlias k = .ok row → ∀ text ∈ row, Terminal.Untagged text

/-! ## The three ways -/

/-- The level is unknown, which shows when it is set up. -/
def UnknownLevel (s : Surroundings) (fault : LevelFault) : Prop :=
  ∃ settings, Settings.read s.sources = .ok settings ∧
    Threshold.ofName (.text settings.logLevel) = .error fault

/-- What the command may be left with, and why. -/
inductive Cause (s : Surroundings) (r : KeysRequest) (base : ClassCatalog.Base) :
    Escape → Prop where
  | settings {issues : List Issue} (h : Settings.read s.sources = .error (.invalid issues)) :
      Cause s r base (.failure (.invalid issues))
  | level {fault : LevelFault} (hjson : r.asJson = false) (h : UnknownLevel s fault) :
      Cause s r base (.failure (.level fault))
  | rendering {settings : Settings} {ring : KeyRing} {k : PartitionKey} {fault : Template.Fault}
      (hsettings : Settings.read s.sources = .ok settings)
      (hring : (derive s settings base).result = .ok ring) (hk : k ∈ ring.keys)
      (h : k.predicateFor r.queryAlias = .error fault) :
      Cause s r base (.failure (.rendering fault))

/-- What stands before the end: the lines of the settings file that were skipped, and notices of the
journal. -/
def notices (s : Surroundings) (lines : List Journal.Line) : List Message :=
  (s.sources.reader.skipped s.sources.file).map skippedMessage ++ lines.map .line

/-- The keys are printed, a report is told, or the command is left for a cause. -/
inductive Ends (s : Surroundings) (r : KeysRequest) (base : ClassCatalog.Base) :
    Outcome → Prop where
  | printed {settings : Settings} {ring : KeyRing} {output : String} {lines : List Journal.Line}
      (hsettings : Settings.read s.sources = .ok settings)
      (hring : (derive s settings base).result = .ok ring)
      (h : shown s.terminal r ring = .ok output) :
      Ends s r base { exitCode := 0, output, messages := notices s lines, escaped := none }
  | told {settings : Settings} {f : Failure} {report : Report} {lines : List Journal.Line}
      {told : List String} (hsettings : Settings.read s.sources = .ok settings)
      (hf : (derive s settings base).result = .error f) (hreport : f.report? = some report)
      (h : s.terminal.paragraph (reportText report) = .ok told) :
      Ends s r base
        { exitCode := 1, output := "", messages := notices s lines ++ told.map .text
          escaped := none }
  | left {e : Escape} {messages : List Message} (h : Cause s r base e) :
      Ends s r base { exitCode := 1, output := "", messages, escaped := some e }

/-! ## Failures of showing -/

variable {k : PartitionKey} {keys : List PartitionKey} {queryAlias : String} {e : Escape}

theorem keyRecord_eq_error {fault : Template.Fault} :
    keyRecord queryAlias k = .error fault ↔ k.predicateFor queryAlias = .error fault :=
  Partial.bind_ok_eq_error

theorem keyRow_eq_error {fault : Template.Fault} :
    keyRow queryAlias k = .error fault ↔ k.predicateFor queryAlias = .error fault :=
  Partial.bind_ok_eq_error

theorem renderedJson_eq_error (h : renderedJson queryAlias keys = .error e) :
    ∃ k ∈ keys, ∃ fault, k.predicateFor queryAlias = .error fault ∧
      e = .failure (.rendering fault) := by
  unfold renderedJson at h
  split at h
  · rename_i fault hrecords
    cases h
    rcases Partial.exists_of_mapM_eq_error hrecords with ⟨k, hk, hrecord⟩
    exact ⟨k, hk, fault, keyRecord_eq_error.1 hrecord, rfl⟩
  · cases h

theorem untagged_heading : ∀ text ∈ tableHeading, Terminal.Untagged text := by
  unfold Terminal.Untagged Markup.TagFree
  decide

/-- A table without tags is shown if its predicates can be rendered. -/
theorem renderedTable_eq_error {t : Terminal} (ht : t.Documented)
    (hcells : ∀ k ∈ keys, ∀ row, keyRow queryAlias k = .ok row →
      ∀ text ∈ row, Terminal.Untagged text)
    (h : renderedTable t queryAlias keys = .error e) :
    ∃ k ∈ keys, ∃ fault, k.predicateFor queryAlias = .error fault ∧
      e = .failure (.rendering fault) := by
  unfold renderedTable at h
  split at h
  · rename_i fault hrows
    cases h
    rcases Partial.exists_of_mapM_eq_error hrows with ⟨k, hk, hrow⟩
    exact ⟨k, hk, fault, keyRow_eq_error.1 hrow, rfl⟩
  · rename_i rows hrows
    have hplain : ∀ row ∈ tableHeading :: rows, ∀ text ∈ row, Terminal.Untagged text := by
      refine List.forall_mem_cons.2 ⟨untagged_heading, ?_⟩
      intro row hrow
      rcases Partial.exists_of_mem_mapM hrows hrow with ⟨k, hk, hkey⟩
      exact hcells k hk row hkey
    have htitle : Terminal.Untagged tableTitle := by
      unfold Terminal.Untagged Markup.TagFree
      decide
    rcases ht.table_shown tableTitle tableHeading rows htitle hplain with ⟨output, htable⟩
    rw [htable] at h
    cases h

theorem cause_of_shown (hterminal : s.terminal.Documented) (hunmarked : Unmarked s r base)
    (hsettings : Settings.read s.sources = .ok settings)
    (hring : (derive s settings base).result = .ok ring)
    (h : shown s.terminal r ring = .error e) : Cause s r base e := by
  have hrendering : ∃ k ∈ ring.keys, ∃ fault, k.predicateFor r.queryAlias = .error fault ∧
      e = .failure (.rendering fault) := by
    unfold shown at h
    split at h
    · exact renderedJson_eq_error h
    · rename_i hjson
      exact renderedTable_eq_error hterminal
        (hunmarked.cells (Bool.eq_false_iff.2 hjson) settings ring hsettings hring) h
  rcases hrendering with ⟨k, hk, fault, hfault, rfl⟩
  exact .rendering hsettings hring hk hfault

/-! ## Runs -/

theorem level_of_configure {asJson : Bool} {logLevel : String} {j : Journal} {fault : LevelFault}
    (h : ({} : Journal).configure (journalOptions asJson logLevel) false = (j, some fault)) :
    asJson = false ∧ Threshold.ofName (.text logLevel) = .error fault := by
  cases asJson with
  | true =>
      rw [configure_json] at h
      cases h
  | false =>
      have hoption : (journalOptions false logLevel).level = .text logLevel := rfl
      unfold Journal.configure Journal.Options.setup at h
      rw [hoption] at h
      cases hlevel : Threshold.ofName (.text logLevel) with
      | ok threshold =>
          rw [hlevel] at h
          cases h
      | error g =>
          rw [hlevel] at h
          cases h
          exact ⟨rfl, rfl⟩

theorem runKeys_rejected (r : KeysRequest) (h : Settings.read s.sources = .error f) :
    runKeys s r =
      .escapes (.failure f) ((s.sources.reader.skipped s.sources.file).map skippedMessage) := by
  simp only [runKeys, h]

theorem runKeys_unrendered {target : String} (hsettings : Settings.read s.sources = .ok settings)
    (htarget : loadTarget s target = .ok base)
    (hring : (derive s settings base).result = .ok ring)
    (h : renderedJson queryAlias ring.keys = .error e) :
    (runKeys s { target, asJson := true, queryAlias }).escaped = some e := by
  have hshown : shown s.terminal { target, asJson := true, queryAlias } ring = .error e := h
  simp only [runKeys, hsettings, configure_json, htarget, hring, hshown, Outcome.escapes]

theorem runKeys_unleveled {target : String} {fault : LevelFault}
    (hsettings : Settings.read s.sources = .ok settings)
    (hlevel : Threshold.ofName (.text settings.logLevel) = .error fault) :
    runKeys s { target, asJson := false, queryAlias } =
      .escapes (.failure (.level fault))
        ((s.sources.reader.skipped s.sources.file).map skippedMessage) := by
  have hoption : (journalOptions false settings.logLevel).level = .text settings.logLevel := rfl
  have hjournal : ({} : Journal).configure (journalOptions false settings.logLevel) false =
      ({ service := .text "jobspine-cli" }, some fault) := by
    rw [Journal.configure, Journal.Options.setup, hoption, hlevel]
    rfl
  simp only [runKeys, hsettings, hjournal]

/-- Any report ends the command with the same code, shown or not. -/
theorem reportOutcome_exitCode (t : Terminal) (report : Report) (messages : List Message) :
    (reportOutcome t report messages).exitCode = 1 := by
  unfold reportOutcome
  cases t.paragraph (reportText report) <;> rfl

theorem ends_reportOutcome {report : Report} {lines : List Journal.Line}
    (hterminal : s.terminal.Documented) (hsettings : Settings.read s.sources = .ok settings)
    (hf : (derive s settings base).result = .error f) (hreport : f.report? = some report)
    (hmessage : Terminal.Untagged report.shown) :
    Ends s r base (reportOutcome s.terminal report (notices s lines)) := by
  have hcategory : Markup.TagFree (" (" ++ report.category.value ++ "): ").toList ∧
      (" (" ++ report.category.value ++ "): ").toList.getLast? ≠ some '[' := by
    unfold Markup.TagFree
    cases report.category <;> decide
  have hplain : Terminal.Untagged (" (" ++ report.category.value ++ "): " ++ report.shown) := by
    rw [Terminal.Untagged, String.toList_append]
    exact hcategory.1.append hmessage hcategory.2
  rcases hterminal.paragraph_shown _ hplain with ⟨told, htold⟩
  have houtcome : reportOutcome s.terminal report (notices s lines) =
      { exitCode := 1, messages := notices s lines ++ told.map .text } := by
    unfold reportOutcome reportText
    rw [htold]
  rw [houtcome]
  exact .told hsettings hf hreport htold

theorem runKeys_ends (r : KeysRequest) (hterminal : s.terminal.Documented)
    (htarget : loadTarget s r.target = .ok base) (horderly : Orderly s)
    (hunmarked : Unmarked s r base) : Ends s r base (runKeys s r) := by
  unfold runKeys
  dsimp only
  cases hsettings : Settings.read s.sources with
  | error f =>
      rcases Settings.invalid_of_ofFields horderly.template hsettings with ⟨issues, rfl⟩
      exact .left (.settings hsettings)
  | ok settings =>
      dsimp only
      split
      · rename_i hfault
        rcases level_of_configure hfault with ⟨hjson, hlevel⟩
        exact .left (.level hjson ⟨settings, hsettings, hlevel⟩)
      · rw [htarget]
        dsimp only
        split
        · rename_i f hf
          rcases derive_eq_error hsettings hf with ⟨report, hreport⟩ | ⟨_, category, hcat, hpath⟩
          · rw [hreport]
            exact ends_reportOutcome hterminal hsettings hf hreport
              (hunmarked.message settings f report hsettings hf hreport)
          · exact absurd hpath (horderly.mappings settings hsettings category hcat)
        · rename_i ring hring
          split
          · rename_i e he
            exact .left (cause_of_shown hterminal hunmarked hsettings hring he)
          · rename_i output houtput
            exact .printed hsettings hring houtput

/-! ## JSON and tables -/

variable {target : String} {args args' : List String}

/-- The command ends well only after its keys are shown. -/
theorem exists_ring_of_exitCode (htarget : loadTarget s r.target = .ok base)
    (hcode : (runKeys s r).exitCode = 0) :
    ∃ settings ring output, Settings.read s.sources = .ok settings ∧
      (derive s settings base).result = .ok ring ∧ shown s.terminal r ring = .ok output := by
  unfold runKeys at hcode
  dsimp only at hcode
  cases hsettings : Settings.read s.sources with
  | error f =>
      rw [hsettings] at hcode
      cases hcode
  | ok settings =>
      rw [hsettings] at hcode
      dsimp only at hcode
      split at hcode
      · cases hcode
      · rw [htarget] at hcode
        dsimp only at hcode
        cases hring : (derive s settings base).result with
        | error f =>
            rw [hring] at hcode
            dsimp only at hcode
            cases hreport : f.report? with
            | none =>
                rw [hreport] at hcode
                cases hcode
            | some report =>
                rw [hreport] at hcode
                cases (reportOutcome_exitCode _ _ _).symm.trans hcode
        | ok ring =>
            rw [hring] at hcode
            dsimp only at hcode
            cases hshown : shown s.terminal r ring with
            | error e =>
                rw [hshown] at hcode
                cases hcode
            | ok output =>
                exact ⟨settings, ring, output, rfl, hring, hshown⟩

theorem run_eq (hargs : Request.ofArgs args = .keys r) : run s args = runKeys s r := by
  rw [run, hargs]

/-- Keys that are shown one by one have predicates that can be rendered. -/
theorem predicateFor_of_mapM {γ : Type} {shownAs : PartitionKey → Except Template.Fault γ}
    {parts : List γ}
    (hshown : ∀ {k fault}, shownAs k = .error fault ↔ k.predicateFor queryAlias = .error fault)
    (h : keys.mapM shownAs = .ok parts) (hk : k ∈ keys) :
    ∃ p, k.predicateFor queryAlias = .ok p := by
  rcases Partial.exists_ok_of_mapM h hk with ⟨part, hpart⟩
  cases hp : k.predicateFor queryAlias with
  | ok p => exact ⟨p, rfl⟩
  | error fault => cases hpart.symm.trans (hshown.2 hp)

theorem predicateFor_of_renderedTable {t : Terminal} {output : String}
    (h : renderedTable t queryAlias keys = .ok output) (hk : k ∈ keys) :
    ∃ p, k.predicateFor queryAlias = .ok p := by
  unfold renderedTable at h
  split at h
  · cases h
  · rename_i rows hrows
    exact predicateFor_of_mapM keyRow_eq_error hrows hk

theorem predicateFor_of_renderedJson {output : String}
    (h : renderedJson queryAlias keys = .ok output) (hk : k ∈ keys) :
    ∃ p, k.predicateFor queryAlias = .ok p := by
  unfold renderedJson at h
  split at h
  · cases h
  · rename_i records hrecords
    exact predicateFor_of_mapM keyRecord_eq_error hrecords hk

/-- What a table shows, JSON shows as well. -/
theorem json_of_table (htarget : loadTarget s target = .ok base)
    (h : (runKeys s { target, asJson := false, queryAlias }).exitCode = 0) :
    (runKeys s { target, asJson := true, queryAlias }).exitCode = 0 := by
  rcases exists_ring_of_exitCode htarget h with ⟨settings, ring, _, hsettings, hring, htable⟩
  rcases read?_renderedJson fun k hk => predicateFor_of_renderedTable htable hk with
    ⟨output, _, hjson, _⟩
  rw [runKeys_json hsettings htarget hring hjson]

/-- What JSON shows, a table without tags shows as well, but for the level. -/
theorem table_of_json (hterminal : s.terminal.Documented)
    (htarget : loadTarget s target = .ok base)
    (hunmarked : Unmarked s { target, asJson := false, queryAlias } base)
    (h : (runKeys s { target, asJson := true, queryAlias }).exitCode = 0)
    (hne : (runKeys s { target, asJson := false, queryAlias }).exitCode ≠ 0) :
    ∃ fault, UnknownLevel s fault ∧
      (runKeys s { target, asJson := false, queryAlias }).escaped =
        some (.failure (.level fault)) := by
  rcases exists_ring_of_exitCode htarget h with ⟨settings, ring, _, hsettings, hring, hjson⟩
  cases hjournal : ({} : Journal).configure (journalOptions false settings.logLevel) false with
  | mk j fault =>
      cases fault with
      | some fault =>
          have hlevel := (level_of_configure hjournal).2
          refine ⟨fault, ⟨settings, hsettings, hlevel⟩, ?_⟩
          rw [runKeys_unleveled hsettings hlevel]
          rfl
      | none =>
          cases htable : renderedTable s.terminal queryAlias ring.keys with
          | ok output =>
              rw [runKeys_of_shown { target, asJson := false, queryAlias } hsettings hjournal
                htarget hring htable] at hne
              exact absurd rfl hne
          | error e =>
              -- JSON would have failed for the same key.
              rcases renderedTable_eq_error hterminal
                (hunmarked.cells rfl settings ring hsettings hring) htable with
                ⟨k, hk, fault, hfault, _⟩
              rcases predicateFor_of_renderedJson hjson hk with ⟨p, hp⟩
              cases hp.symm.trans hfault

/-! ## The jobs with one variable -/

/-- The jobs, with one variable in the environment. -/
def jobsWith (mark value : String) : Surroundings :=
  { jobSurroundings with sources := { environment := [(mark, value)] } }

theorem loadTarget_jobsWith (mark value : String) :
    loadTarget (jobsWith mark value) "models:Base" = .ok (.registry "main") :=
  loadTarget_jobs

theorem ofArgs_table :
    Request.ofArgs ["keys", "models:Base", "--alias", "j"] =
      .keys { target := "models:Base", asJson := false, queryAlias := "j" } := by
  decide

theorem ofArgs_json :
    Request.ofArgs ["keys", "models:Base", "--json", "--alias", "j"] =
      .keys { target := "models:Base", asJson := true, queryAlias := "j" } := by
  decide

set_option maxRecDepth 20000 in
theorem lower_policyMark :
    LetterCase.lower "JOB_STORAGE_AMBIGUITY_POLICY" =
      Settings.namespaceMark ++ "ambiguity_policy" := by
  decide +kernel

set_option maxRecDepth 20000 in
theorem lower_levelMark :
    LetterCase.lower "JOB_STORAGE_LOG_LEVEL" = Settings.namespaceMark ++ "log_level" := by
  decide +kernel

set_option maxRecDepth 20000 in
theorem lower_templateMark :
    LetterCase.lower "JOB_STORAGE_PREDICATE_TEMPLATE" =
      Settings.namespaceMark ++ "predicate_template" := by
  decide +kernel

set_option maxRecDepth 20000 in
theorem upper_verbose : LetterCase.upper "verbose" = "VERBOSE" := by
  decide +kernel

theorem read_policy {policy : String} (h : Policy.find? (.text policy) = none) :
    Settings.read (jobsWith "JOB_STORAGE_AMBIGUITY_POLICY" policy).sources =
      .error (.invalid [⟨["ambiguity_policy"], .notPolicy⟩]) := by
  have hgather : Settings.gather (jobsWith "JOB_STORAGE_AMBIGUITY_POLICY" policy).sources =
      [("ambiguity_policy", .text policy)] :=
    Settings.gather_variable policy (by decide) lower_policyMark
  rw [Settings.read, hgather, Settings.ofFields_policy h]

theorem gather_level (level : String) :
    Settings.gather (jobsWith "JOB_STORAGE_LOG_LEVEL" level).sources =
      [("log_level", .text level)] :=
  Settings.gather_variable level (by decide) lower_levelMark

theorem read_level (level : String) :
    Settings.read (jobsWith "JOB_STORAGE_LOG_LEVEL" level).sources = .ok { logLevel := level } := by
  rw [Settings.read, gather_level, Settings.ofFields_level]

theorem ofName_verbose : Threshold.ofName (.text "verbose") = .error (.unknown "VERBOSE") := by
  rw [Threshold.ofName, upper_verbose]
  rfl

theorem derive_level (level : String) :
    (derive (jobsWith "JOB_STORAGE_LOG_LEVEL" level) { logLevel := level }
      (.registry "main")).result = .ok jobRing :=
  (derive_result rfl).trans (ofSettings_jobs KeyRing.check_default)

/-- An accepted template that asks for the second character of an alias. -/
def positionTemplate : String :=
  "\x7balias\x7d\x7balias[1]\x7d\x7bname\x7d"

theorem check_positionTemplate : Template.check positionTemplate = .ok () := by
  cbv

theorem read_positionTemplate :
    Settings.read (jobsWith "JOB_STORAGE_PREDICATE_TEMPLATE" positionTemplate).sources =
      .ok { predicateTemplate := positionTemplate } := by
  have hgather :
      Settings.gather (jobsWith "JOB_STORAGE_PREDICATE_TEMPLATE" positionTemplate).sources =
        [("predicate_template", .text positionTemplate)] :=
    Settings.gather_variable positionTemplate (by decide) lower_templateMark
  rw [Settings.read, hgather, Settings.ofFields_template check_positionTemplate]

theorem derive_positionTemplate :
    (derive (jobsWith "JOB_STORAGE_PREDICATE_TEMPLATE" positionTemplate)
      { predicateTemplate := positionTemplate } (.registry "main")).result =
        .ok (jobRingBy positionTemplate) :=
  (derive_result rfl).trans (ofSettings_jobs check_positionTemplate)

theorem renderedJson_positionTemplate :
    renderedJson "j" (jobRingBy positionTemplate).keys =
      .error (.failure (.rendering (.indexOutOfRange "string"))) := by
  cbv

/-- With any level, the jobs are printed as JSON. -/
theorem runKeys_level (level : String) :
    (runKeys (jobsWith "JOB_STORAGE_LOG_LEVEL" level)
      { target := "models:Base", asJson := true, queryAlias := "j" }).exitCode = 0 := by
  rcases read?_renderedJson predicateFor_jobs with ⟨output, _, houtput, _⟩
  rw [runKeys_json (read_level level) (loadTarget_jobsWith _ level) (derive_level level) houtput]

/-! ## The command -/

/-- For a target that loads, with a terminal as it is documented, the command prints the keys and
ends well, tells a report and ends with one, or is left for a cause: as long as the template and the
state mappings are used or refused in the documented way and nothing printed can be taken for a tag.
A table that is shown is shown as JSON as well; the other way around, without tags, only the level
stands between them. -/
theorem run_ends (s : Surroundings) (target queryAlias : String) (base : ClassCatalog.Base)
    (hterminal : s.terminal.Documented) (htarget : loadTarget s target = .ok base) :
    (∀ asJson args, Request.ofArgs args = .keys { target, asJson, queryAlias } →
      Orderly s → Unmarked s { target, asJson, queryAlias } base →
      Ends s { target, asJson, queryAlias } base (run s args)) ∧
    ∀ args args', Request.ofArgs args = .keys { target, asJson := false, queryAlias } →
      Request.ofArgs args' = .keys { target, asJson := true, queryAlias } →
        ((run s args).exitCode = 0 → (run s args').exitCode = 0) ∧
        (Unmarked s { target, asJson := false, queryAlias } base →
          (run s args').exitCode = 0 → (run s args).exitCode ≠ 0 →
          ∃ fault, UnknownLevel s fault ∧
            (run s args).escaped = some (.failure (.level fault))) := by
  constructor
  · intro asJson args hargs horderly hunmarked
    rw [run_eq hargs]
    exact runKeys_ends _ hterminal htarget horderly hunmarked
  · intro args args' hargs hargs'
    rw [run_eq hargs, run_eq hargs']
    exact ⟨json_of_table htarget, table_of_json hterminal htarget⟩

theorem orderly_level (level : String) : Orderly (jobsWith "JOB_STORAGE_LOG_LEVEL" level) := by
  refine ⟨?template, ?mappings⟩
  case template =>
    intro template htemplate f hf
    rw [gather_level] at htemplate
    -- No template is given, and the conventional one is accepted.
    cases htemplate
    cases KeyRing.check_default.symm.trans hf
  case mappings =>
    intro settings hsettings category _
    cases (read_level level).symm.trans hsettings
    have hmapping : (({ logLevel := level } : Settings).ofCategory category).stateMapping =
        "identity" := by
      cases category <;> rfl
    have hpath : World.splitPath? "identity" = none := by
      decide
    simp [hmapping, Settings.Unrooted, hpath]

/-- No text that is shown of the jobs has a bracket. -/
theorem unmarked_level (level : String) (asJson : Bool) :
    Unmarked (jobsWith "JOB_STORAGE_LOG_LEVEL" level)
      { target := "models:Base", asJson, queryAlias := "j" } (.registry "main") := by
  refine ⟨?message, ?cells⟩
  case message =>
    intro settings f _ hsettings hf _
    -- The derivation does not fail, so no report is told.
    cases (read_level level).symm.trans hsettings
    cases (derive_level level).symm.trans hf
  case cells =>
    intro _ settings ring hsettings hring k hk row hrow text htext
    cases (read_level level).symm.trans hsettings
    cases (derive_level level).symm.trans hring
    have hrows : jobRing.keys.mapM (keyRow "j") =
        .ok [["Digest", "trigger", "Digest", "-"],
          ["Mail", "trigger", "Mail, Digest", "TYPE(j) = Mail"]] := by
      cbv
    have hall : ∀ row ∈ [["Digest", "trigger", "Digest", "-"],
        ["Mail", "trigger", "Mail, Digest", "TYPE(j) = Mail"]],
          ∀ text ∈ row, Terminal.Untagged text := by
      unfold Terminal.Untagged Markup.TagFree
      decide
    exact hall row (Partial.mem_of_mapM hrows hk hrow) text htext

/-- With an unknown level the jobs are printed as JSON and not as a table. -/
theorem run_ends_jobs :
    (jobsWith "JOB_STORAGE_LOG_LEVEL" "verbose").terminal.Documented ∧
      loadTarget (jobsWith "JOB_STORAGE_LOG_LEVEL" "verbose") "models:Base" =
        .ok (.registry "main") ∧
      Orderly (jobsWith "JOB_STORAGE_LOG_LEVEL" "verbose") ∧
      (∀ asJson, Unmarked (jobsWith "JOB_STORAGE_LOG_LEVEL" "verbose")
        { target := "models:Base", asJson, queryAlias := "j" } (.registry "main")) ∧
      Ends (jobsWith "JOB_STORAGE_LOG_LEVEL" "verbose")
        { target := "models:Base", asJson := true, queryAlias := "j" } (.registry "main")
        (run (jobsWith "JOB_STORAGE_LOG_LEVEL" "verbose")
          ["keys", "models:Base", "--json", "--alias", "j"]) ∧
      (run (jobsWith "JOB_STORAGE_LOG_LEVEL" "verbose")
        ["keys", "models:Base", "--json", "--alias", "j"]).exitCode = 0 ∧
      ∃ fault, UnknownLevel (jobsWith "JOB_STORAGE_LOG_LEVEL" "verbose") fault ∧
        (run (jobsWith "JOB_STORAGE_LOG_LEVEL" "verbose")
          ["keys", "models:Base", "--alias", "j"]).escaped = some (.failure (.level fault)) := by
  have hterminal : (jobsWith "JOB_STORAGE_LOG_LEVEL" "verbose").terminal.Documented :=
    Terminal.documented_standard
  have htarget := loadTarget_jobsWith "JOB_STORAGE_LOG_LEVEL" "verbose"
  have hunmarked := unmarked_level "verbose"
  have hjson : (run (jobsWith "JOB_STORAGE_LOG_LEVEL" "verbose")
      ["keys", "models:Base", "--json", "--alias", "j"]).exitCode = 0 := by
    rw [run_eq ofArgs_json]
    exact runKeys_level "verbose"
  have htable : (run (jobsWith "JOB_STORAGE_LOG_LEVEL" "verbose")
      ["keys", "models:Base", "--alias", "j"]).exitCode ≠ 0 := by
    rw [run_eq ofArgs_table, runKeys_unleveled (read_level "verbose") ofName_verbose]
    exact Nat.one_ne_zero
  rcases run_ends _ "models:Base" "j" (.registry "main") hterminal htarget with ⟨hends, hagree⟩
  exact ⟨hterminal, htarget, orderly_level "verbose", hunmarked,
    hends true _ ofArgs_json (orderly_level "verbose") (hunmarked true), hjson,
    (hagree _ _ ofArgs_table ofArgs_json).2 (hunmarked false) hjson htable⟩

/-- Rejected settings leave the command, as JSON or as a table; an unknown level leaves it unless
JSON is asked for; an accepted template that cannot be rendered for the alias leaves it. -/
theorem run_escapes :
    loadTarget (jobsWith "JOB_STORAGE_AMBIGUITY_POLICY" "first_wins") "models:Base" =
        .ok (.registry "main") ∧
      (∀ args ∈ [["keys", "models:Base", "--alias", "j"],
          ["keys", "models:Base", "--json", "--alias", "j"]],
        (run (jobsWith "JOB_STORAGE_AMBIGUITY_POLICY" "first_wins") args).escaped =
          some (.failure (.invalid [⟨["ambiguity_policy"], .notPolicy⟩]))) ∧
      loadTarget (jobsWith "JOB_STORAGE_LOG_LEVEL" "verbose") "models:Base" =
        .ok (.registry "main") ∧
      (run (jobsWith "JOB_STORAGE_LOG_LEVEL" "verbose")
        ["keys", "models:Base", "--alias", "j"]).escaped =
          some (.failure (.level (.unknown "VERBOSE"))) ∧
      (run (jobsWith "JOB_STORAGE_LOG_LEVEL" "verbose")
        ["keys", "models:Base", "--alias", "j"]).exitCode = 1 ∧
      (run (jobsWith "JOB_STORAGE_LOG_LEVEL" "verbose")
        ["keys", "models:Base", "--json", "--alias", "j"]).exitCode = 0 ∧
      loadTarget (jobsWith "JOB_STORAGE_PREDICATE_TEMPLATE" positionTemplate) "models:Base" =
        .ok (.registry "main") ∧
      (run (jobsWith "JOB_STORAGE_PREDICATE_TEMPLATE" positionTemplate)
        ["keys", "models:Base", "--json", "--alias", "j"]).escaped =
          some (.failure (.rendering (.indexOutOfRange "string"))) := by
  have hpolicy : Settings.read (jobsWith "JOB_STORAGE_AMBIGUITY_POLICY" "first_wins").sources =
      .error (.invalid [⟨["ambiguity_policy"], .notPolicy⟩]) :=
    read_policy rfl
  refine ⟨loadTarget_jobsWith _ _, ?_, loadTarget_jobsWith _ _, ?_, ?_, ?_,
    loadTarget_jobsWith _ _, ?_⟩
  · refine List.forall_mem_cons.2 ⟨?_, List.forall_mem_singleton.2 ?_⟩
    · rw [run_eq ofArgs_table, runKeys_rejected _ hpolicy]
      rfl
    · rw [run_eq ofArgs_json, runKeys_rejected _ hpolicy]
      rfl
  · rw [run_eq ofArgs_table, runKeys_unleveled (read_level "verbose") ofName_verbose]
    rfl
  · rw [run_eq ofArgs_table, runKeys_unleveled (read_level "verbose") ofName_verbose]
    rfl
  · rw [run_eq ofArgs_json]
    exact runKeys_level "verbose"
  · rw [run_eq ofArgs_json]
    exact runKeys_unrendered read_positionTemplate (loadTarget_jobsWith _ _)
      derive_positionTemplate renderedJson_positionTemplate

end CommandLine
end PartitionKeys
