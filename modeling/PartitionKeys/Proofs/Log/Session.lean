import Mathlib.Data.List.Basic
import PartitionKeys.Log.Session

/-!
# Session — what requests leave of a journal

A session is as long as it is asked to be, and what each request keeps it keeps too.  Apart from
configurations no request changes the name of the service or the setup, and only binding and
clearing change the bound fields: all else that happens, happens to the loggers.

* `Journal.session_append`, `Journal.session_concat`: sessions one after the other;
* `Journal.after`: the journal after a session;
* `Journal.session_invariant`: a session keeps what each of its requests keeps;
* `Journal.SameButLoggers`: journals that differ in their loggers only;
* `Journal.answer_unconfigured`: service and setup change by configurations only;
* `Journal.library_after`: the library that lines are made with does not change;
* `Journal.threshold_session_le`: every session leaves the most urgent calls to be written.
-/

namespace PartitionKeys
namespace Journal

variable {j j' j'' : Journal} {id : LoggerId} {now : String} {r : Request}
  {requests : List Request}

/-! ## Sessions in a row -/

theorem session_append (j : Journal) (front back : List Request) :
    j.session (front ++ back) =
      (((j.session front).1.session back).1,
        (j.session front).2 ++ ((j.session front).1.session back).2) := by
  induction front generalizing j with
  | nil => rfl
  | cons r rest ih =>
      rw [List.cons_append, session, session, ih (j.answer r).1]
      rfl

theorem session_concat (j : Journal) (front : List Request) (r : Request) :
    j.session (front ++ [r]) =
      (((j.session front).1.answer r).1,
        (j.session front).2 ++ [((j.session front).1.answer r).2]) :=
  session_append j front [r]

theorem length_session (j : Journal) (requests : List Request) :
    (j.session requests).2.length = requests.length := by
  induction requests generalizing j with
  | nil => rfl
  | cons r rest ih => exact congrArg (· + 1) (ih (j.answer r).1)

/-- The journal after a session that begins with nothing configured. -/
def after (requests : List Request) : Journal :=
  (({} : Journal).session requests).1

theorem after_concat (requests : List Request) (r : Request) :
    after (requests ++ [r]) = ((after requests).answer r).1 :=
  congrArg Prod.fst (session_concat {} requests r)

theorem session_invariant {P : Journal → Prop} (hj : P j)
    (hstep : ∀ r ∈ requests, ∀ j, P j → P (j.answer r).1) : P (j.session requests).1 := by
  induction requests generalizing j with
  | nil => exact hj
  | cons r rest ih =>
      have hnext : P (j.answer r).1 := hstep r List.mem_cons_self j hj
      exact ih hnext fun r' hr' => hstep r' (List.mem_cons_of_mem r hr')

/-! ## Calls -/

theorem log_fst (j : Journal) (now : String) (id : LoggerId) (c : Call) :
    (j.log now id c).1 = j.used id := by
  unfold log
  cases c.fault? (decide ((j.setupOf id).threshold ≤ c.level.rank)) with
  | some f => rfl
  | none => rfl

theorem log_misnamed {c : Call} {f : Signature.Fault}
    (hfault : c.fault? (decide ((j.setupOf id).threshold ≤ c.level.rank)) = some f) :
    (j.log now id c).2 = .error f := by
  unfold log
  rw [hfault]

theorem log_reaching {c : Call} (hreaches : (j.setupOf id).threshold ≤ c.level.rank)
    (hfault : c.fault? true = none) :
    (j.log now id c).2 = .ok (some ⟨(j.setupOf id).structured,
      j.lineFields (j.setupOf id) now (j.loggers.getD id default).name c⟩) := by
  unfold log write
  rw [decide_eq_true hreaches, hfault]
  simp only [if_pos hreaches]

theorem log_below {c : Call} (hbelow : c.level.rank < (j.setupOf id).threshold)
    (hfault : c.fault? false = none) : (j.log now id c).2 = .ok none := by
  have hmissed : ¬(j.setupOf id).threshold ≤ c.level.rank := Nat.not_le.2 hbelow
  unfold log write
  rw [decide_eq_false hmissed, hfault]
  simp only [if_neg hmissed]

/-- A call that writes a line reaches the threshold of its logger, under names it can use. -/
theorem of_log_wrote {c : Call} {line : Line}
    (h : (j.answer (.log now id c)).2 = .wrote [line]) :
    (j.setupOf id).threshold ≤ c.level.rank ∧ c.fault? true = none ∧
      line = ⟨(j.setupOf id).structured,
        j.lineFields (j.setupOf id) now (j.loggers.getD id default).name c⟩ := by
  cases hfault : c.fault? (decide ((j.setupOf id).threshold ≤ c.level.rank)) with
  | some f =>
      simp only [answer, log_misnamed hfault, Answer.ofWritten, reduceCtorEq] at h
  | none =>
      by_cases hreaches : (j.setupOf id).threshold ≤ c.level.rank
      · rw [decide_eq_true hreaches] at hfault
        simp only [answer, log_reaching hreaches hfault, Answer.ofWritten, Option.toList_some,
          Answer.wrote.injEq, List.cons.injEq, and_true] at h
        exact ⟨hreaches, hfault, h.symm⟩
      · rw [decide_eq_false hreaches] at hfault
        simp only [answer, log_below (Nat.not_le.1 hreaches) hfault, Answer.ofWritten,
          Option.toList_none, Answer.wrote.injEq, List.nil_eq, reduceCtorEq] at h

/-! ## Events -/

/-- An event is a call on the standing logger of its source. -/
def tell (j : Journal) (now : String) (e : Event) : Journal × Option Line :=
  let source := j.standingLogger e.logger
  source.2.write now source.1 (.ofEvent e)

theorem emit_cons (j : Journal) (now : String) (e : Event) (rest : List Event) :
    j.emit now (e :: rest) =
      (((j.tell now e).1.emit now rest).1,
        (j.tell now e).2.toList ++ ((j.tell now e).1.emit now rest).2) :=
  rfl

/-! ## What happens to loggers only -/

structure SameButLoggers (j j' : Journal) : Prop where
  library : j'.library = j.library
  service : j'.service = j.service
  setup : j'.setup = j.setup
  bound : j'.bound = j.bound

theorem SameButLoggers.refl (j : Journal) : SameButLoggers j j :=
  ⟨rfl, rfl, rfl, rfl⟩

theorem SameButLoggers.trans (h : SameButLoggers j j') (h' : SameButLoggers j' j'') :
    SameButLoggers j j'' :=
  ⟨h'.library.trans h.library, h'.service.trans h.service, h'.setup.trans h.setup,
    h'.bound.trans h.bound⟩

theorem sameButLoggers_standingLogger (j : Journal) (source : String) :
    SameButLoggers j (j.standingLogger source).2 := by
  unfold standingLogger
  cases j.standing.lookup source with
  | some id => exact .refl j
  | none => exact ⟨rfl, rfl, rfl, rfl⟩

theorem sameButLoggers_used (j : Journal) (id : LoggerId) : SameButLoggers j (j.used id) := by
  unfold used
  split
  · exact ⟨rfl, rfl, rfl, rfl⟩
  · exact .refl j

theorem sameButLoggers_tell (j : Journal) (now : String) (e : Event) :
    SameButLoggers j (j.tell now e).1 :=
  (sameButLoggers_standingLogger j e.logger).trans (sameButLoggers_used _ _)

theorem sameButLoggers_emit (j : Journal) (now : String) (events : List Event) :
    SameButLoggers j (j.emit now events).1 := by
  induction events generalizing j with
  | nil => exact .refl j
  | cons e rest ih =>
      rw [emit_cons]
      exact (sameButLoggers_tell j now e).trans (ih _)

/-! ## Configurations -/

def Request.options? : Request → Option Options
  | .configure o _ => some o
  | _ => none

theorem configure_of_ok {o : Options} {onTerminal : Bool} {setup : Setup}
    (h : o.setup j.setup onTerminal = .ok setup) :
    j.configure o onTerminal = ({ j with service := o.service, setup }, none) := by
  unfold configure
  simp only [h]

/-- The service is named before the level is looked up. -/
theorem configure_of_error {o : Options} {onTerminal : Bool} {f : LevelFault}
    (h : o.setup j.setup onTerminal = .error f) :
    j.configure o onTerminal = ({ j with service := o.service }, some f) := by
  unfold configure
  simp only [h]

theorem setup_eq_ok {o : Options} {before setup : Setup} {onTerminal : Bool}
    (h : o.setup before onTerminal = .ok setup) :
    Threshold.ofName o.level = .ok setup.threshold := by
  unfold Options.setup at h
  cases hlevel : Threshold.ofName o.level with
  | error f =>
      rw [hlevel] at h
      cases h
  | ok threshold =>
      rw [hlevel] at h
      cases h
      rfl

theorem answer_unconfigured (hr : r.options? = none) :
    (j.answer r).1.service = j.service ∧ (j.answer r).1.setup = j.setup := by
  cases r with
  | configure o onTerminal => cases hr
  | openLogger name => exact ⟨rfl, rfl⟩
  | bind fields => exact ⟨rfl, rfl⟩
  | clear => exact ⟨rfl, rfl⟩
  | log now id c =>
      have hsame : SameButLoggers j (j.log now id c).1 := by
        rw [log_fst]
        exact sameButLoggers_used j id
      exact ⟨hsame.service, hsame.setup⟩
  | emit now events =>
      have hsame : SameButLoggers j (j.emit now events).1 := sameButLoggers_emit j now events
      exact ⟨hsame.service, hsame.setup⟩

/-- No request changes the library that lines are made with. -/
theorem library_answer (j : Journal) (r : Request) : (j.answer r).1.library = j.library := by
  cases r with
  | configure o onTerminal =>
      cases hsetup : o.setup j.setup onTerminal with
      | error f => exact congrArg (library ∘ Prod.fst) (configure_of_error hsetup)
      | ok setup => exact congrArg (library ∘ Prod.fst) (configure_of_ok hsetup)
  | openLogger name => rfl
  | bind fields => rfl
  | clear => rfl
  | log now id c =>
      have hsame : SameButLoggers j (j.log now id c).1 := by
        rw [log_fst]
        exact sameButLoggers_used j id
      exact hsame.library
  | emit now events => exact (sameButLoggers_emit j now events).library

theorem library_after (requests : List Request) : (after requests).library = {} := by
  refine session_invariant (P := fun j => j.library = {}) rfl ?_
  intro r _ j hj
  rw [library_answer, hj]

/-! ## Thresholds -/

theorem threshold_ofName_le {v : Value} {threshold : Nat} (h : Threshold.ofName v = .ok threshold) :
    threshold ≤ Level.critical.rank := by
  cases v with
  | text s =>
      simp only [Threshold.ofName, Threshold.ofUpper] at h
      split at h
      · rename_i r hfound
        cases h
        have hknown : ∀ known ∈ Threshold.ranks, known.2 ≤ Level.critical.rank := by decide
        rcases List.lookup_eq_some_iff.1 hfound with ⟨front, back, hranks, _⟩
        exact hknown (LetterCase.upper s, threshold) (by simp [hranks])
      · split at h
        · cases h
        · split at h
          · cases h
          · cases h
  | _ => cases h

theorem threshold_configure_le (hj : j.setup.threshold ≤ Level.critical.rank) (o : Options)
    (onTerminal : Bool) : (j.configure o onTerminal).1.setup.threshold ≤ Level.critical.rank := by
  cases hsetup : o.setup j.setup onTerminal with
  | error f =>
      rw [configure_of_error hsetup]
      exact hj
  | ok setup =>
      rw [configure_of_ok hsetup]
      exact threshold_ofName_le (setup_eq_ok hsetup)

theorem threshold_session_le (hj : j.setup.threshold ≤ Level.critical.rank)
    (requests : List Request) :
    (j.session requests).1.setup.threshold ≤ Level.critical.rank := by
  refine session_invariant (P := fun j => j.setup.threshold ≤ Level.critical.rank) hj ?_
  intro r _ j hj
  cases hr : r.options? with
  | none =>
      rw [(answer_unconfigured hr).2]
      exact hj
  | some o =>
      cases r with
      | configure o' onTerminal => exact threshold_configure_le hj o' onTerminal
      | _ => cases hr

/-! ## A journal of orders -/

def ordersOptions : Options where
  level := .text "info"
  structured := .bool true
  service := .text "orders"
  stamped := .bool false
  keeping := .bool false

def ordersSetup : Setup where
  threshold := Level.info.rank
  structured := true
  stamped := false

def ordersRequests : List Request :=
  [.configure ordersOptions false, .openLogger (.text "mail")]

/-- The journal of the orders with a logger for the mails. -/
def ordersJournal : Journal :=
  after ordersRequests

def mailSent : Call where
  level := .error
  event := .text "sent"
  fields := [("count", .int 2)]

theorem upper_info : LetterCase.upper "info" = "INFO" := by
  decide +kernel

theorem ofName_info : Threshold.ofName (.text "info") = .ok Level.info.rank := by
  rw [Threshold.ofName, upper_info]
  rfl

theorem setup_ordersOptions : ordersOptions.setup {} false = .ok ordersSetup := by
  have hlevel : ordersOptions.level = .text "info" := rfl
  rw [Options.setup, hlevel, ofName_info]
  rfl

theorem session_ordersRequests :
    ({} : Journal).session ordersRequests =
      ({ service := .text "orders"
         setup := ordersSetup
         loggers := #[{ name := .text "mail" }] }, [.done, .opened 0]) := by
  have hconfigured : ({} : Journal).configure ordersOptions false =
      ({ service := .text "orders", setup := ordersSetup }, none) :=
    configure_of_ok setup_ordersOptions
  simp only [ordersRequests, session, answer, hconfigured]
  rfl

theorem ordersJournal_eq :
    ordersJournal =
      { service := .text "orders"
        setup := ordersSetup
        loggers := #[{ name := .text "mail" }] } :=
  congrArg Prod.fst session_ordersRequests

end Journal
end PartitionKeys
