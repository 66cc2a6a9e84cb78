import Mathlib.Data.List.Forall2
import PartitionKeys.Proofs.Log.Line
import PartitionKeys.Proofs.Log.Session

/-!
# Refusal — what a refused configuration leaves behind

A configuration names the service first and is refused for its level afterwards.  So a refused one
leaves the setup as it was, every threshold with it, but its name for the service stays: until the
next configuration each line whose service has no other name is told under the name that was
refused.  Nothing else changes, and nothing at all if the refused name is the one in force.

* `Journal.Renamed`, `Line.Renamed`, `Answer.Renamed`: the same but for the name of the service;
* `Journal.Renamed.answer`: one request keeps the likeness, and its answers are alike;
* `Journal.Renamed.session`: so do all requests of a session;
* `Journal.Renamed.session_configure`, `Journal.answers_renamed_iff`: when the likeness ends, and
  when it shows;
* `Journal.refused_configuration_renames`: what is the same after a refusal, and when everything is;
* `Journal.renamed_by_refusal`: a refused configuration that shows.
-/

namespace PartitionKeys
namespace Journal

variable {j j' : Journal} {service service' : Value} {id : LoggerId} {now : String} {c : Call}

/-! ## Names of the service -/

/-- The same journal under another name of its service. -/
def renamed (j : Journal) (service : Value) : Journal :=
  { j with service }

/-- Both lines are the same, or the service is named in both where no field has taken its name. -/
inductive Line.Renamed (service service' : Value) : Line → Line → Prop where
  | same (line : Line) : Renamed service service' line line
  | named (structured : Bool) {fields : Fields} (hfree : fields.get? "service.name" = none) :
      Renamed service service' ⟨structured, fields.put "service.name" service⟩
        ⟨structured, fields.put "service.name" service'⟩

/-- Both answers are the same, or they are as many lines that differ in that name only. -/
inductive Answer.Renamed (service service' : Value) : Answer → Answer → Prop where
  | same (a : Answer) : Renamed service service' a a
  | wrote {lines lines' : List Line}
      (hlines : List.Forall₂ (Line.Renamed service service') lines lines') :
      Renamed service service' (.wrote lines) (.wrote lines')

/-- The second journal is the first, or the first under another name of its service. -/
def Renamed (service service' : Value) (j j' : Journal) : Prop :=
  j' = j ∨ j.service = service ∧ j' = j.renamed service'

/-! ## Lines -/

theorem line_renamed (j : Journal) (service : Value) (setup : Setup) (now : String)
    (logger : Value) (c : Call) :
    Line.Renamed j.service service ⟨setup.structured, j.lineFields setup now logger c⟩
      ⟨setup.structured, (j.renamed service).lineFields setup now logger c⟩ := by
  have hunserved : (j.renamed service).unservedFields setup now logger c =
      j.unservedFields setup now logger c :=
    rfl
  rw [lineFields_eq, lineFields_eq, hunserved]
  -- A field under the service's name keeps both names of the service out.
  cases hthere : (j.unservedFields setup now logger c).get? "service.name" with
  | some v =>
      have hkept (name : Value) : putNew (j.unservedFields setup now logger c) "service.name" name =
          j.unservedFields setup now logger c := by
        simp [putNew, hthere]
      rw [hkept, hkept]
      exact .same _
  | none =>
      have hput (name : Value) : putNew (j.unservedFields setup now logger c) "service.name" name =
          (j.unservedFields setup now logger c).put "service.name" name := by
        simp [putNew, hthere]
      rw [hput, hput]
      exact .named setup.structured hthere

/-! ## Writing -/

theorem used_renamed (j : Journal) (service : Value) (id : LoggerId) :
    (j.renamed service).used id = (j.used id).renamed service := by
  cases hkeeping : j.setup.keeping with
  | true => simp [used, renamed, hkeeping]
  | false => simp [used, renamed, hkeeping]

theorem write_renamed (j : Journal) (service : Value) (now : String) (id : LoggerId) (c : Call) :
    ((j.renamed service).write now id c).1 = (j.write now id c).1.renamed service ∧
      List.Forall₂ (Line.Renamed j.service service) (j.write now id c).2.toList
        ((j.renamed service).write now id c).2.toList := by
  refine ⟨used_renamed j service id, ?_⟩
  have hsetup : (j.renamed service).setupOf id = j.setupOf id := rfl
  unfold write
  rw [hsetup]
  by_cases hreaches : (j.setupOf id).threshold ≤ c.level.rank
  · simp only [if_pos hreaches, Option.toList_some]
    exact .cons (line_renamed j service (j.setupOf id) now _ c) .nil
  · simp only [if_neg hreaches, Option.toList_none]
    exact .nil

theorem log_renamed (j : Journal) (service : Value) (now : String) (id : LoggerId) (c : Call) :
    ((j.renamed service).log now id c).1 = (j.log now id c).1.renamed service ∧
      Answer.Renamed j.service service (.ofWritten (j.log now id c).2)
        (.ofWritten ((j.renamed service).log now id c).2) := by
  rcases write_renamed j service now id c with ⟨hstate, hlines⟩
  have hsetup : (j.renamed service).setupOf id = j.setupOf id := rfl
  unfold log
  rw [hsetup]
  -- The names of the fields are refused, or not, under either name of the service.
  cases c.fault? (decide ((j.setupOf id).threshold ≤ c.level.rank)) with
  | some f => exact ⟨hstate, .same _⟩
  | none => exact ⟨hstate, .wrote hlines⟩

theorem tell_renamed (j : Journal) (service : Value) (now : String) (e : Event) :
    ((j.renamed service).tell now e).1 = (j.tell now e).1.renamed service ∧
      List.Forall₂ (Line.Renamed j.service service) (j.tell now e).2.toList
        ((j.renamed service).tell now e).2.toList := by
  have hsource : (j.renamed service).standingLogger e.logger =
      ((j.standingLogger e.logger).1, (j.standingLogger e.logger).2.renamed service) := by
    cases hstanding : j.standing.lookup e.logger with
    | some id => simp [standingLogger, renamed, hstanding]
    | none => simp [standingLogger, renamed, openLogger, hstanding]
  have hservice : (j.standingLogger e.logger).2.service = j.service :=
    (sameButLoggers_standingLogger j e.logger).service
  unfold tell
  rw [hsource, ← hservice]
  exact write_renamed _ service now _ (.ofEvent e)

theorem emit_renamed (j : Journal) (service : Value) (now : String) (events : List Event) :
    ((j.renamed service).emit now events).1 = (j.emit now events).1.renamed service ∧
      List.Forall₂ (Line.Renamed j.service service) (j.emit now events).2
        ((j.renamed service).emit now events).2 := by
  induction events generalizing j with
  | nil => exact ⟨rfl, .nil⟩
  | cons e rest ih =>
      rcases tell_renamed j service now e with ⟨hstate, hline⟩
      rcases ih (j.tell now e).1 with ⟨hlast, hlines⟩
      rw [(sameButLoggers_tell j now e).service] at hlines
      rw [emit_cons, emit_cons, hstate]
      exact ⟨hlast, List.rel_append hline hlines⟩

/-! ## Sessions -/

/-- A configuration names the service anew, so it leaves no trace of another name. -/
theorem configure_renamed (j : Journal) (service : Value) (o : Options) (onTerminal : Bool) :
    (j.renamed service).configure o onTerminal = j.configure o onTerminal :=
  rfl

theorem Renamed.answer (h : Renamed service service' j j') (r : Request) :
    Renamed service service' (j.answer r).1 (j'.answer r).1 ∧
      Answer.Renamed service service' (j.answer r).2 (j'.answer r).2 := by
  rcases h with rfl | ⟨rfl, rfl⟩
  · exact ⟨Or.inl rfl, .same _⟩
  · cases r with
    | configure o onTerminal =>
        simp only [Journal.answer, configure_renamed]
        exact ⟨Or.inl rfl, .same _⟩
    | openLogger name => exact ⟨Or.inr ⟨rfl, rfl⟩, .same _⟩
    | bind fields => exact ⟨Or.inr ⟨rfl, rfl⟩, .same _⟩
    | clear => exact ⟨Or.inr ⟨rfl, rfl⟩, .same _⟩
    | log now id c =>
        rcases log_renamed j service' now id c with ⟨hstate, halike⟩
        have hservice : (j.log now id c).1.service = j.service := by
          rw [log_fst]
          exact (sameButLoggers_used j id).service
        exact ⟨Or.inr ⟨hservice, hstate⟩, halike⟩
    | emit now events =>
        rcases emit_renamed j service' now events with ⟨hstate, hlines⟩
        exact ⟨Or.inr ⟨(sameButLoggers_emit j now events).service, hstate⟩, .wrote hlines⟩

theorem Renamed.session (h : Renamed service service' j j') (requests : List Request) :
    Renamed service service' (j.session requests).1 (j'.session requests).1 ∧
      List.Forall₂ (Answer.Renamed service service') (j.session requests).2
        (j'.session requests).2 := by
  -- By induction on the requests; one request keeps the journals alike.
  induction requests generalizing j j' with
  | nil => exact ⟨h, .nil⟩
  | cons r rest ih =>
      rcases h.answer r with ⟨hstate, halike⟩
      rcases ih hstate with ⟨hlast, hrest⟩
      exact ⟨hlast, .cons halike hrest⟩

/-- The next configuration ends the likeness: from then on the journals are one. -/
theorem Renamed.session_configure (h : Renamed service service' j j') (later : List Request)
    (o : Options) (onTerminal : Bool) :
    (j'.session (later ++ [.configure o onTerminal])).1 =
      (j.session (later ++ [.configure o onTerminal])).1 := by
  have hconfigure (k : Journal) : (k.session (later ++ [.configure o onTerminal])).1 =
      ((k.session later).1.configure o onTerminal).1 :=
    congrArg Prod.fst (session_concat k later _)
  rw [hconfigure, hconfigure]
  rcases (h.session later).1 with hsame | ⟨_, hrenamed⟩
  · rw [hsame]
  · rw [hrenamed, configure_renamed]

/-! ## Refusals -/

theorem configure_of_refused {o : Options} {onTerminal : Bool} {f : LevelFault}
    (h : (j.configure o onTerminal).2 = some f) :
    (j.configure o onTerminal).1 = j.renamed o.service := by
  cases hsetup : o.setup j.setup onTerminal with
  | error g => exact congrArg Prod.fst (configure_of_error hsetup)
  | ok setup =>
      rw [configure_of_ok hsetup] at h
      cases h

/-- Where a call writes a line, the same call writes it under another name of the service. -/
theorem log_wrote_renamed {line : Line} (h : (j.answer (.log now id c)).2 = .wrote [line])
    (service : Value) :
    ((j.renamed service).answer (.log now id c)).2 = .wrote [⟨line.structured,
      putNew (j.unservedFields (j.setupOf id) now (j.loggers.getD id default).name c)
        "service.name" service⟩] := by
  rcases of_log_wrote h with ⟨hreaches, hfault, rfl⟩
  have hsame : (j.renamed service).setupOf id = j.setupOf id := rfl
  have hreaches' : ((j.renamed service).setupOf id).threshold ≤ c.level.rank := by
    rw [hsame]
    exact hreaches
  have hwritten : ((j.renamed service).log now id c).2 = .ok (some ⟨(j.setupOf id).structured,
      (j.renamed service).lineFields (j.setupOf id) now (j.loggers.getD id default).name c⟩) :=
    log_reaching hreaches' hfault
  rw [lineFields_eq] at hwritten
  exact congrArg Answer.ofWritten hwritten

/-- A most urgent call without fields, on a new logger, after all that was bound is cleared. -/
def probe (j : Journal) : List Request :=
  [.clear, .openLogger .null, .log "" j.loggers.size { level := .critical, event := .null }]

theorem exists_line_of_probe (hlibrary : j.library.Documented)
    (hj : j.setup.threshold ≤ Level.critical.rank) :
    ∃ line, (j.session j.probe).2 = [.done, .opened j.loggers.size, .wrote [line]] ∧
      line.fields.get? "service.name" = some j.service := by
  let c : Call := { level := .critical, event := .null }
  let k : Journal := (j.clear.openLogger .null).2
  have hopened : k.loggers.getD j.loggers.size default = { name := .null } := by
    simp [k, openLogger, clear, Array.getD]
  have hsetup : k.setupOf j.loggers.size = j.setup := by
    rw [setupOf, hopened]
    rfl
  have hreaches : (k.setupOf j.loggers.size).threshold ≤ c.level.rank := by
    rw [hsetup]
    exact hj
  have hfault : c.fault? true = none := by decide
  have hwritten : (k.log "" j.loggers.size c).2 =
      .ok (some ⟨j.setup.structured, k.lineFields j.setup "" .null c⟩) := by
    rw [log_reaching hreaches hfault, hsetup, hopened]
  refine ⟨⟨j.setup.structured, k.lineFields j.setup "" .null c⟩, ?_, ?_⟩
  · have hanswer : Answer.ofWritten (k.log "" j.loggers.size c).2 =
        .wrote [⟨j.setup.structured, k.lineFields j.setup "" .null c⟩] := by
      rw [hwritten]
      rfl
    exact congrArg (fun a => [.done, .opened j.loggers.size, a]) hanswer
  · have hother : "service.name" ∉ ["stack_info", "stack"] := by decide
    have hdocumented : k.library.Documented := hlibrary
    have hfree : (k.unservedFields j.setup "" .null c).get? "service.name" = none := by
      rw [unservedFields_eq, hdocumented.showPlace_only c.stack _ _ hother,
        get?_leveledFields hdocumented "" (by decide) (fun _ => by decide)]
      rfl
    have hfallback : Fields.get? [("service.name", k.service)] "service.name" = some j.service :=
      Fields.get?_cons_self _ _ _
    rw [lineFields_eq, get?_putNew, hfree, hfallback]
    rfl

/-- Every other name shows: there is a call that is written whatever was configured. -/
theorem answers_renamed_iff (hlibrary : j.library.Documented)
    (hj : j.setup.threshold ≤ Level.critical.rank) :
    (∀ later, ((j.renamed service).session later).2 = (j.session later).2) ↔
      service = j.service := by
  constructor
  · intro hsame
    have hrenamed : (j.renamed service).setup.threshold ≤ Level.critical.rank := hj
    have hdocumented : (j.renamed service).library.Documented := hlibrary
    rcases exists_line_of_probe hlibrary hj with ⟨line, hprobe, hline⟩
    rcases exists_line_of_probe hdocumented hrenamed with ⟨line', hprobe', hline'⟩
    -- The probe of a journal depends on its loggers only.
    have hone : (j.renamed service).probe = j.probe := rfl
    rw [hone] at hprobe'
    have hanswers := hprobe'.symm.trans ((hsame j.probe).trans hprobe)
    simp only [List.cons.injEq, Answer.wrote.injEq, and_true, true_and] at hanswers
    have hnames : some service = some j.service :=
      calc some service = line'.fields.get? "service.name" := hline'.symm
        _ = line.fields.get? "service.name" := by rw [hanswers.2]
        _ = some j.service := hline
    exact Option.some.inj hnames
  · intro hservice later
    rw [hservice]
    rfl

/-- After a refused configuration each logger works under the setup that it worked under before,
and everything later is answered as if the configuration had not been tried, except that lines may
name the service as it was refused.  A call whose fields leave the service unnamed does so, until
the next configuration.  Just when the name refused is the one in force there is no difference. -/
theorem refused_configuration_renames (earlier : List Request) {o : Options} {onTerminal : Bool}
    {f : LevelFault}
    (hf : ((after earlier).configure o onTerminal).2 = some f) :
    let before := after earlier
    let refused := (before.configure o onTerminal).1
    (∀ id, refused.setupOf id = before.setupOf id) ∧
      (∀ later, List.Forall₂ (Answer.Renamed before.service o.service) (before.session later).2
        (refused.session later).2) ∧
      (∀ now id c line, (before.answer (.log now id c)).2 = .wrote [line] →
        (refused.answer (.log now id c)).2 = .wrote [⟨line.structured,
          putNew (before.unservedFields (before.setupOf id) now
            (before.loggers.getD id default).name c) "service.name" o.service⟩]) ∧
      (∀ later o' onTerminal', (refused.session (later ++ [.configure o' onTerminal'])).1 =
        (before.session (later ++ [.configure o' onTerminal'])).1) ∧
      ((∀ later, (refused.session later).2 = (before.session later).2) ↔
        o.service = before.service) := by
  intro before refused
  have hrefused : refused = before.renamed o.service := configure_of_refused hf
  have halike : Renamed before.service o.service before refused := Or.inr ⟨rfl, hrefused⟩
  have hreached : before.setup.threshold ≤ Level.critical.rank :=
    threshold_session_le (by decide) earlier
  refine ⟨?_, fun later => (halike.session later).2, ?_, halike.session_configure, ?_⟩
  · intro id
    rw [hrefused]
    rfl
  · intro now id c line hline
    rw [hrefused]
    exact log_wrote_renamed hline o.service
  · rw [hrefused]
    have hlibrary : before.library.Documented := by
      rw [library_after]
      exact Library.documented_standard
    exact answers_renamed_iff hlibrary hreached

/-! ## A refusal that shows -/

/-- There is no such level. -/
def loudOptions : Options :=
  { ordersOptions with level := .text "loud", service := .text "billing" }

theorem upper_loud : LetterCase.upper "loud" = "LOUD" := by
  decide +kernel

theorem configure_loudOptions :
    ordersJournal.configure loudOptions false =
      (ordersJournal.renamed (.text "billing"), some (.unknown "LOUD")) := by
  have hlevel : loudOptions.level = .text "loud" := rfl
  have hsetup : loudOptions.setup ordersJournal.setup false = .error (.unknown "LOUD") := by
    rw [Options.setup, hlevel, Threshold.ofName, upper_loud]
    rfl
  exact configure_of_error hsetup

/-- After the refused level the orders are written from the level that they were written from, but
not all as they were. -/
theorem refused_configuration_renames_orders :
    (ordersJournal.configure loudOptions false).2 = some (.unknown "LOUD") ∧
      ((ordersJournal.configure loudOptions false).1.setupOf 0).threshold = Level.info.rank ∧
      ¬∀ later, ((ordersJournal.configure loudOptions false).1.session later).2 =
        (ordersJournal.session later).2 := by
  have hrefused : (ordersJournal.configure loudOptions false).2 = some (.unknown "LOUD") :=
    congrArg Prod.snd configure_loudOptions
  have hservice : ordersJournal.service = .text "orders" := congrArg service ordersJournal_eq
  have hthreshold : (ordersJournal.setupOf 0).threshold = Level.info.rank := by
    rw [ordersJournal_eq]
    rfl
  rcases refused_configuration_renames ordersRequests hrefused with ⟨hsetup, _, _, _, hsame⟩
  refine ⟨hrefused, ?_, ?_⟩
  · exact (congrArg Setup.threshold (hsetup 0)).trans hthreshold
  · intro hall
    have hnames : loudOptions.service = ordersJournal.service := hsame.1 hall
    rw [hservice] at hnames
    simp [loudOptions] at hnames

/-- A call on the logger of the mails names the orders.  After a configuration that is refused for
its level, the same call names the service of that configuration. -/
theorem renamed_by_refusal :
    (ordersJournal.configure loudOptions false).2 = some (.unknown "LOUD") ∧
      (ordersJournal.answer (.log "" 0 mailSent)).2 = .wrote [⟨true,
        [("logger_name", .text "mail"), ("count", .int 2), ("event", .text "sent"),
          ("level", .text "error"), ("service.name", .text "orders")]⟩] ∧
      ((ordersJournal.configure loudOptions false).1.answer (.log "" 0 mailSent)).2 =
        .wrote [⟨true,
          [("logger_name", .text "mail"), ("count", .int 2), ("event", .text "sent"),
            ("level", .text "error"), ("service.name", .text "billing")]⟩] ∧
      ((ordersJournal.configure loudOptions false).1.answer (.log "" 0 mailSent)).2 ≠
        (ordersJournal.answer (.log "" 0 mailSent)).2 := by
  have hbefore : (ordersJournal.answer (.log "" 0 mailSent)).2 = .wrote [⟨true,
      [("logger_name", .text "mail"), ("count", .int 2), ("event", .text "sent"),
        ("level", .text "error"), ("service.name", .text "orders")]⟩] := by
    rw [ordersJournal_eq]
    rfl
  have hafter : ((ordersJournal.configure loudOptions false).1.answer (.log "" 0 mailSent)).2 =
      .wrote [⟨true,
        [("logger_name", .text "mail"), ("count", .int 2), ("event", .text "sent"),
          ("level", .text "error"), ("service.name", .text "billing")]⟩] := by
    rw [configure_loudOptions, ordersJournal_eq]
    rfl
  refine ⟨congrArg Prod.snd configure_loudOptions, hbefore, hafter, ?_⟩
  rw [hbefore, hafter]
  simp

end Journal
end PartitionKeys
