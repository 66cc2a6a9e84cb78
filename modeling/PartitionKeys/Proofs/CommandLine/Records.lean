import PartitionKeys.CommandLine.Run
import PartitionKeys.Proofs.ClassGraph.Mapping
import PartitionKeys.Proofs.CommandLine.Arguments
import PartitionKeys.Proofs.Except
import PartitionKeys.Proofs.Key.Fragment
import PartitionKeys.Proofs.Log.Journal
import PartitionKeys.Proofs.Settings.Basic
import PartitionKeys.Proofs.Value.Json

/-!
# Records — the keys that are printed are the keys that are derived

With JSON asked for, the journal starts at warnings, so the output is one text and nothing is told
beside it.  Reading the text gives a record for each key of the ring, triggers first.

* `CommandLine.Tells`: a record tells everything about a key, for an alias;
* `CommandLine.records_of_rendered`: the records of keys whose predicates can be rendered;
* `CommandLine.run_json`: what is printed is the derived key ring.
-/

namespace PartitionKeys
namespace CommandLine

variable {s : Surroundings} {settings : Settings} {base : ClassCatalog.Base} {registry : String}
  {ring : KeyRing} {target queryAlias : String} {k : PartitionKey} {keys : List PartitionKey}

/-! ## Records of keys -/

/-- A record has these fields, in this order, and the predicate as it is for the alias. -/
structure Tells (queryAlias : String) (k : PartitionKey) (fields : Fields) : Prop where
  names : fields.map (·.1) =
    [ "name", "category", "id_attribute", "schedule_attribute", "last_execution_attribute",
      "partition_attribute", "state_attribute", "covered_types", "predicate" ]
  name : fields.get? "name" = some (.text k.name)
  category : fields.get? "category" = some (.text k.category.value)
  idAttribute : fields.get? "id_attribute" = some (.text k.bindings.idAttribute)
  scheduleAttribute : fields.get? "schedule_attribute" = some (.text k.bindings.scheduleAttribute)
  lastExecutionAttribute :
    fields.get? "last_execution_attribute" = some (.text k.bindings.lastExecutionAttribute)
  partitionAttribute :
    fields.get? "partition_attribute" = some (.text k.bindings.partitionAttribute)
  stateAttribute : fields.get? "state_attribute" = some (.text k.bindings.stateAttribute)
  covered : fields.get? "covered_types" = some (.list (k.covered.map .text))
  unpredicated : k.predicate = none → fields.get? "predicate" = some .null
  predicated : ∀ p, k.predicate = some p →
    ∃ rendered, p.fragment queryAlias = .ok rendered ∧
      fields.get? "predicate" = some (.text rendered)

theorem tells_of_predicateFor {predicate : Option String}
    (h : k.predicateFor queryAlias = .ok predicate) :
    ∃ fields, keyRecord queryAlias k = .ok (.record fields) ∧ Tells queryAlias k fields ∧
      Json.Plain (.record fields) := by
  refine ⟨_, by rw [keyRecord, h]; rfl, ?_, ?_⟩
  · refine ⟨rfl, rfl, rfl, rfl, rfl, rfl, rfl, rfl, rfl, ?_, ?_⟩
    · intro hnone
      rw [PartitionKey.predicateFor, hnone] at h
      cases h
      rfl
    · intro p hp
      rw [PartitionKey.predicateFor, hp] at h
      dsimp only at h
      cases hrendered : p.fragment queryAlias with
      | error e =>
          rw [hrendered] at h
          cases h
      | ok rendered =>
          rw [hrendered] at h
          cases h
          exact ⟨rendered, rfl, rfl⟩
  · have hpredicate : Json.Plain (Value.ofText? predicate) := by
      cases predicate with
      | none => exact Json.Plain.null
      | some rendered => exact Json.Plain.text rendered
    have hcovered : Json.Plain (.list (k.covered.map .text)) := by
      refine Json.Plain.list ?_
      intro v hv
      rcases List.mem_map.1 hv with ⟨n, _, rfl⟩
      exact Json.Plain.text n
    refine Json.Plain.record (by simp) ?_
    simp only [List.forall_mem_cons, List.not_mem_nil, false_implies, implies_true, and_true]
    exact ⟨.text _, .text _, .text _, .text _, .text _, .text _, .text _, hcovered, hpredicate⟩

/-- Keys are recorded one by one. -/
theorem records_of_rendered (h : ∀ k ∈ keys, ∃ p, k.predicateFor queryAlias = .ok p) :
    ∃ records, keys.mapM (keyRecord queryAlias) = .ok records ∧
      List.Forall₂ (fun k v => ∃ fields, v = .record fields ∧ Tells queryAlias k fields)
        keys records ∧ ∀ v ∈ records, Json.Plain v := by
  induction keys with
  | nil =>
      exact ⟨[], rfl, List.Forall₂.nil, List.forall_mem_nil _⟩
  | cons k keys ih =>
      rcases h k List.mem_cons_self with ⟨p, hp⟩
      rcases tells_of_predicateFor hp with ⟨fields, hrecord, htells, hplain⟩
      rcases ih fun k' hk' => h k' (List.mem_cons_of_mem k hk') with
        ⟨records, hrecords, hall, hplains⟩
      exact ⟨.record fields :: records,
        Partial.mapM_eq_ok.2 (List.Forall₂.cons hrecord (Partial.mapM_eq_ok.1 hrecords)),
        List.Forall₂.cons ⟨fields, rfl, htells⟩ hall, List.forall_mem_cons.2 ⟨hplain, hplains⟩⟩

theorem read?_renderedJson (h : ∀ k ∈ keys, ∃ p, k.predicateFor queryAlias = .ok p) :
    ∃ output records, renderedJson queryAlias keys = .ok output ∧
      Json.read? output = some (.list records) ∧
      List.Forall₂ (fun k v => ∃ fields, v = .record fields ∧ Tells queryAlias k fields)
        keys records := by
  rcases records_of_rendered h with ⟨records, hrecords, hall, hplain⟩
  refine ⟨_, records, by rw [renderedJson, hrecords], ?_, hall⟩
  exact (Json.Plain.list hplain).read?_indented

/-! ## The journal beside them -/

set_option maxRecDepth 20000 in
theorem upper_warning : LetterCase.upper "WARNING" = "WARNING" := by
  decide +kernel

theorem threshold_warning : Threshold.ofName (.text "WARNING") = .ok Level.warning.rank := by
  rw [Threshold.ofName, upper_warning]
  rfl

/-- The journal of a run that prints JSON. -/
def quiet : Journal where
  service := .text "jobspine-cli"
  setup := { threshold := Level.warning.rank, structured := true }

theorem configure_json (logLevel : String) :
    ({} : Journal).configure (journalOptions true logLevel) false = (quiet, none) := by
  have hlevel : (journalOptions true logLevel).level = .text "WARNING" := rfl
  rw [Journal.configure, Journal.Options.setup, hlevel, threshold_warning]
  rfl

theorem emit_quiet (now : String) (events : List Event) : (quiet.emit now events).2 = [] :=
  Journal.emit_below ⟨rfl, by simp [quiet]⟩ fun e _ => e.rank_level_lt_warning

/-! ## Runs -/

theorem derive_result (hregistry : ClassCatalog.registryOf base = .ok registry) :
    (derive s settings base).result = (KeyRing.ofSettings s.world
      (some (ClassCatalog.ofRegistry s.classes registry settings.ambiguityPolicy).listing)
      settings).result :=
  Traced.result_bind_ok _ hregistry

theorem runKeys_of_shown (r : KeysRequest) {j : Journal} {output : String}
    (hsettings : Settings.read s.sources = .ok settings)
    (hjournal : ({} : Journal).configure (journalOptions r.asJson settings.logLevel) false =
      (j, none))
    (htarget : loadTarget s r.target = .ok base)
    (hring : (derive s settings base).result = .ok ring)
    (hshown : shown s.terminal r ring = .ok output) :
    runKeys s r =
      { output
        messages := (s.sources.reader.skipped s.sources.file).map skippedMessage ++
          (j.emit s.now (derive s settings base).events).2.map .line } := by
  simp only [runKeys, hsettings, hjournal, htarget, hring, hshown]

theorem runKeys_json {output : String} (hsettings : Settings.read s.sources = .ok settings)
    (htarget : loadTarget s target = .ok base)
    (hring : (derive s settings base).result = .ok ring)
    (h : renderedJson queryAlias ring.keys = .ok output) :
    runKeys s { target, asJson := true, queryAlias } =
      { output, messages := (s.sources.reader.skipped s.sources.file).map skippedMessage } := by
  rw [runKeys_of_shown { target, asJson := true, queryAlias } hsettings
    (configure_json settings.logLevel) htarget hring h, emit_quiet, List.map_nil, List.append_nil]

/-- A derived ring whose predicates can be rendered is printed as it is: the program ends well, its
output is read as a record for each key, triggers first, and beside it stands nothing but what was
skipped of the settings file.  A command line asks for this with any target that is not taken for
an option, and with any at all after the end of the options. -/
theorem run_json (s : Surroundings) (target queryAlias : String) :
    (∀ args, Request.ofArgs args = .keys { target, asJson := true, queryAlias } →
      ∀ settings base registry ring, Settings.read s.sources = .ok settings →
        loadTarget s target = .ok base → ClassCatalog.registryOf base = .ok registry →
        (KeyRing.ofSettings s.world
          (some (ClassCatalog.ofRegistry s.classes registry settings.ambiguityPolicy).listing)
          settings).result = .ok ring →
        (∀ k ∈ ring.keys, ∃ p, k.predicateFor queryAlias = .ok p) →
          (run s args).exitCode = 0 ∧ (run s args).escaped = none ∧
          (run s args).messages = (s.sources.reader.skipped s.sources.file).map skippedMessage ∧
          ∃ records, Json.read? (run s args).output = some (.list records) ∧
            List.Forall₂ (fun k v => ∃ fields, v = .record fields ∧ Tells queryAlias k fields)
              (ring.triggers ++ ring.instances) records) ∧
    (Request.isOption target = false →
      Request.ofArgs ["keys", target, "--json", "--alias", queryAlias] =
        .keys { target, asJson := true, queryAlias }) ∧
    Request.ofArgs ["keys", "--json", "--alias", queryAlias, "--", target] =
      .keys { target, asJson := true, queryAlias } := by
  refine ⟨?_, fun h => Request.ofArgs_before h true queryAlias,
    Request.ofArgs_after target true queryAlias⟩
  intro args hargs settings base registry ring hsettings htarget hregistry hring hrendered
  rcases read?_renderedJson hrendered with ⟨output, records, houtput, hread, hall⟩
  have hderived : (derive s settings base).result = .ok ring :=
    (derive_result hregistry).trans hring
  have hrun : run s args =
      { output, messages := (s.sources.reader.skipped s.sources.file).map skippedMessage } := by
    rw [run, hargs]
    exact runKeys_json hsettings htarget hderived houtput
  rw [hrun]
  exact ⟨rfl, rfl, rfl, records, hread, hall⟩

/-! ## The jobs -/

/-- The registry of the jobs stands in a module of its own; nothing is configured. -/
def jobSurroundings : Surroundings where
  targets := [("models", [("Base", .registry "main")])]
  classes := ClassCatalog.jobLineages

/-- Digests are mails; nothing that is a job is not one of them. -/
def jobRingBy (template : String) : KeyRing :=
  KeyRing.ofEntries ClassCatalog.jobListing.hierarchy {} template [⟨2, [2]⟩, ⟨1, [1, 2]⟩]

def jobRing : KeyRing :=
  jobRingBy Template.default

theorem ofSettings_jobs {template : String} (hcheck : Template.check template = .ok ()) :
    (KeyRing.ofSettings World.standard
      (some (ClassCatalog.ofRegistry ClassCatalog.jobLineages "main" .reject).listing)
      { predicateTemplate := template }).result = .ok (jobRingBy template) := by
  have hlisting : (ClassCatalog.ofRegistry ClassCatalog.jobLineages "main" .reject).listing.result =
      .ok ClassCatalog.jobListing := by
    cbv
  have hcoverage : (Coverage.ofCatalog ClassCatalog.jobListing.hierarchy
      ClassCatalog.jobListing.types).result = .ok ⟨[⟨2, [2]⟩, ⟨1, [1, 2]⟩]⟩ := by
    cbv
  exact KeyRing.ofSettings_eq_ok.2 ⟨{}, rfl, (KeyRing.ofCatalog_eq_ok hlisting).2
    ⟨_, hcoverage, hcheck, rfl⟩⟩

theorem predicateFor_jobs : ∀ k ∈ jobRing.keys, ∃ p, k.predicateFor "j" = .ok p := by
  have hall : (jobRing.keys.mapM fun k => k.predicateFor "j") =
      .ok [none, some "TYPE(j) = Mail"] := by
    cbv
  exact fun k hk => Partial.exists_ok_of_mapM hall hk

theorem loadTarget_jobs : loadTarget jobSurroundings "models:Base" = .ok (.registry "main") := by
  have hpath : World.splitPath? "models:Base" = some ("models", "Base") := by
    cbv
  rw [loadTarget, hpath]
  rfl

/-- Both keys of the jobs are printed. -/
theorem run_json_jobs :
    Request.isOption "models:Base" = false ∧ Settings.read jobSurroundings.sources = .ok {} ∧
      loadTarget jobSurroundings "models:Base" = .ok (.registry "main") ∧
      (jobRing.triggers ++ jobRing.instances).map (·.name) = ["Digest", "Mail"] ∧
      (run jobSurroundings ["keys", "models:Base", "--json", "--alias", "j"]).exitCode = 0 ∧
      ∃ records,
        Json.read? (run jobSurroundings
          ["keys", "models:Base", "--json", "--alias", "j"]).output = some (.list records) ∧
        List.Forall₂ (fun k v => ∃ fields, v = .record fields ∧ Tells "j" k fields)
          (jobRing.triggers ++ jobRing.instances) records := by
  rcases run_json jobSurroundings "models:Base" "j" with ⟨hrun, hbefore, _⟩
  rcases hrun _ (hbefore (by decide)) {} (.registry "main") "main" jobRing Settings.read_nothing
    loadTarget_jobs rfl (ofSettings_jobs KeyRing.check_default) predicateFor_jobs with ⟨hcode, _, _, hrecords⟩
  exact ⟨by decide, Settings.read_nothing, loadTarget_jobs, by cbv, hcode, hrecords⟩

end CommandLine
end PartitionKeys
