import PartitionKeys.Log.Journal
import PartitionKeys.Proofs.Value.Fields

/-!
# Line — what a line says under each name

A name may have fields from the call, from its logger and from what has been bound.  Of these the
call's comes first and the bound one last.  Four names are the journal's own: the level is that of
the call whatever else is given, the name of the service is a fallback, and a wish for the place of
the call is replaced by that place.

* `Journal.get?_putNew`, `Journal.get?_putAllNew`: fields that give way to those there already;
* `Journal.Step.distinct_inTurn`: no name gets a second field from steps that give it none;
* `Journal.Library.Documented`: what is taken from the documentation of a logging library;
* `Journal.Library.documented_standard`: the library that journals run with is so;
* `Journal.source?`: the three sources of a name in their order;
* `Journal.unservedFields`: a line before the service is named;
* `Line.Tells`: what a line says under each name;
* `Journal.tells_lineFields`: with a documented library, lines without a time stamp say just that.
-/

namespace PartitionKeys
namespace Journal

variable {fields : Fields} {key : String}

/-! ## Fields that give way -/

/-- What is there already stays, and a new field is found under its own name only. -/
theorem get?_putNew (fields : Fields) (key : String) (value : Value) (name : String) :
    (putNew fields key value).get? name =
      (fields.get? name).or (Fields.get? [(key, value)] name) := by
  by_cases hname : name = key
  · subst hname
    cases hthere : fields.get? name with
    | some v =>
        have hkept : putNew fields name value = fields := by
          simp [putNew, hthere]
        rw [hkept, hthere, Option.some_or]
    | none =>
        have hput : putNew fields name value = fields.put name value := by
          simp [putNew, hthere]
        rw [hput, Fields.get?_put_self, Option.none_or, Fields.get?_cons_self]
  · have hnew : Fields.get? [(key, value)] name = none := Fields.get?_cons_of_ne hname value []
    have hsame : (putNew fields key value).get? name = fields.get? name := by
      unfold putNew
      split
      · rfl
      · exact Fields.get?_put_of_ne hname
    rw [hsame, hnew, Option.or_none]

theorem get?_putAllNew (fields others : Fields) (name : String) :
    (putAllNew fields others).get? name = (fields.get? name).or (others.get? name) := by
  induction others generalizing fields with
  | nil => exact (Option.or_none).symm
  | cons e rest ih =>
      calc (putAllNew fields (e :: rest)).get? name
          = (putAllNew (putNew fields e.1 e.2) rest).get? name := rfl
        _ = ((putNew fields e.1 e.2).get? name).or (Fields.get? rest name) := ih _
        _ = ((fields.get? name).or (Fields.get? [e] name)).or (Fields.get? rest name) := by
              rw [get?_putNew]
        _ = (fields.get? name).or (Fields.get? (e :: rest) name) := by
              rw [Option.or_assoc, ← Fields.get?_append]
              rfl

theorem distinct_putNew (h : fields.Distinct) (key : String) (value : Value) :
    (putNew fields key value).Distinct := by
  unfold putNew
  split
  · exact h
  · exact h.put key value

theorem distinct_putAllNew (h : fields.Distinct) (others : Fields) :
    (putAllNew fields others).Distinct := by
  induction others generalizing fields with
  | nil => exact h
  | cons e rest ih => exact ih (distinct_putNew h e.1 e.2)

/-! ## The place of a call -/

theorem get?_withStack_wish (fields : Fields) (stack : String) :
    (withStack fields stack).get? "stack_info" = none := by
  have herased : (fields.erase "stack_info").get? "stack_info" = none :=
    Fields.get?_erase_self fields "stack_info"
  unfold withStack
  split
  · have hne : "stack_info" ≠ "stack" := by decide
    rw [Fields.get?_put_of_ne hne, herased]
  · exact herased

theorem get?_withStack_place (fields : Fields) (stack : String) :
    (withStack fields stack).get? "stack" =
      if (fields.get? "stack_info").any Value.isTruthy then some (.text stack)
      else fields.get? "stack" := by
  have hne : "stack" ≠ "stack_info" := by decide
  unfold withStack
  split
  · exact Fields.get?_put_self _ "stack" _
  · exact Fields.get?_erase_of_ne fields hne

theorem get?_withStack_of_ne (hwish : key ≠ "stack_info") (hplace : key ≠ "stack")
    (stack : String) : (withStack fields stack).get? key = fields.get? key := by
  have herased : (fields.erase "stack_info").get? key = fields.get? key :=
    Fields.get?_erase_of_ne fields hwish
  unfold withStack
  split
  · rw [Fields.get?_put_of_ne hplace, herased]
  · exact herased

theorem distinct_withStack (h : fields.Distinct) (stack : String) :
    (withStack fields stack).Distinct := by
  have herased : (fields.erase "stack_info").Distinct := h.erase "stack_info"
  unfold withStack
  split
  · exact herased.put "stack" _
  · exact herased

/-! ## Steps -/

/-- A step under which other names keep their fields. -/
def Step.Only (names : List String) (step : Step) : Prop :=
  ∀ fields, ∀ key ∉ names, (step fields).get? key = fields.get? key

/-- A step that gives no name a second field. -/
def Step.Tidy (step : Step) : Prop :=
  ∀ fields, fields.Distinct → (step fields).Distinct

theorem Step.inTurn_append (front back : List Step) (fields : Fields) :
    inTurn (front ++ back) fields = inTurn back (inTurn front fields) :=
  List.foldl_append

theorem Step.distinct_inTurn {steps : List Step} (hsteps : ∀ step ∈ steps, step.Tidy)
    (hfields : fields.Distinct) : (inTurn steps fields).Distinct := by
  induction steps generalizing fields with
  | nil => exact hfields
  | cons step rest ih =>
      have hstep : (step fields).Distinct := hsteps step List.mem_cons_self fields hfields
      exact ih (fun later hlater => hsteps later (List.mem_cons_of_mem step hlater)) hstep

/-- What is taken from the documentation of a logging library: what each of its steps says under
which names, and that the others keep their fields. -/
structure Library.Documented (library : Library) : Prop where
  stamp_only : ∀ now, Step.Only ["timestamp"] (library.stamp now)
  mergeBound : ∀ bound fields key,
    (library.mergeBound bound fields).get? key = (fields.get? key).or (bound.get? key)
  addLevel : ∀ level fields,
    (library.addLevel level fields).get? "level" = some (.text level.name)
  addLevel_only : ∀ level, Step.Only ["level"] (library.addLevel level)
  showPlace_wish : ∀ stack fields, (library.showPlace stack fields).get? "stack_info" = none
  showPlace : ∀ stack fields, (library.showPlace stack fields).get? "stack" =
    if (fields.get? "stack_info").any Value.isTruthy then some (.text stack)
    else fields.get? "stack"
  showPlace_only : ∀ stack, Step.Only ["stack_info", "stack"] (library.showPlace stack)
  stamp_tidy : ∀ now, (library.stamp now).Tidy
  mergeBound_tidy : ∀ bound, (library.mergeBound bound).Tidy
  addLevel_tidy : ∀ level, (library.addLevel level).Tidy
  showPlace_tidy : ∀ stack, (library.showPlace stack).Tidy

theorem Step.only_put (name : String) (value : Value) :
    Step.Only [name] fun fields => fields.put name value :=
  fun _ _ hkey => Fields.get?_put_of_ne (mt List.mem_singleton.2 hkey)

theorem Library.documented_standard : ({} : Library).Documented where
  stamp_only now := Step.only_put "timestamp" (.text now)
  mergeBound bound fields key := get?_putAllNew fields bound key
  addLevel _ fields := Fields.get?_put_self fields "level" _
  addLevel_only level := Step.only_put "level" (.text level.name)
  showPlace_wish stack fields := get?_withStack_wish fields stack
  showPlace stack fields := get?_withStack_place fields stack
  showPlace_only stack _ key hkey := by
    simp only [List.mem_cons, List.not_mem_nil, or_false, not_or] at hkey
    exact get?_withStack_of_ne hkey.1 hkey.2 stack
  stamp_tidy now _ h := h.put "timestamp" (.text now)
  mergeBound_tidy bound _ h := distinct_putAllNew h bound
  addLevel_tidy level _ h := h.put "level" (.text level.name)
  showPlace_tidy stack _ h := distinct_withStack h stack

/-! ## Sources -/

/-- What a call is about. -/
def Call.eventFields (c : Call) : Fields :=
  if c.event.isNull then [] else [("event", c.event)]

/-- That a call reports an exception. -/
def Call.reportFields (c : Call) : Fields :=
  if c.withException then [("exc_info", .bool true)] else []

/-- What a call says itself: its event, the last field given under a name, its report. -/
def Call.own? (c : Call) (key : String) : Option Value :=
  (c.eventFields.get? key).or ((c.fields.last? key).or (c.reportFields.get? key))

def loggerFields (name : Value) : Fields :=
  if name.isNull then [] else [("logger_name", name)]

/-- The call comes before its logger, and both before what has been bound. -/
def source? (c : Call) (logger : Value) (bound : String → Option Value) (key : String) :
    Option Value :=
  (c.own? key).or (((loggerFields logger).get? key).or (bound key))

/-- A logger has no field under the name of the report, so these two can change places. -/
theorem get?_loggerFields_or_reportFields (c : Call) (logger : Value) (key : String) :
    ((loggerFields logger).get? key).or (c.reportFields.get? key) =
      (c.reportFields.get? key).or ((loggerFields logger).get? key) := by
  by_cases hkey : key = "logger_name"
  · have hreport : c.reportFields.get? key = none := by
      subst hkey
      unfold Call.reportFields
      split
      · exact Fields.get?_cons_of_ne (by decide) _ _
      · rfl
    rw [hreport, Option.or_none, Option.none_or]
  · have hlogger : (loggerFields logger).get? key = none := by
      unfold loggerFields
      split
      · rfl
      · exact Fields.get?_cons_of_ne hkey _ _
    rw [hlogger, Option.or_none, Option.none_or]

/-- The fields of a call and its logger, without the event. -/
def Call.eventless (c : Call) (logger : Value) : Fields :=
  let given := (loggerFields logger).putAll c.fields
  if c.withException then putNew given "exc_info" (.bool true) else given

theorem ownFields_eq (c : Call) (logger : Value) :
    ownFields logger c =
      if c.event.isNull then c.eventless logger else (c.eventless logger).put "event" c.event :=
  rfl

/-- The report of an exception gives way to a field of its name. -/
theorem get?_eventless (c : Call) (logger : Value) (key : String) :
    (c.eventless logger).get? key =
      (c.fields.last? key).or ((c.reportFields.get? key).or ((loggerFields logger).get? key)) := by
  have hgiven : ((loggerFields logger).putAll c.fields).get? key =
      (c.fields.last? key).or ((loggerFields logger).get? key) :=
    Fields.get?_putAll _ _ _
  have hreported : (c.eventless logger).get? key =
      (((loggerFields logger).putAll c.fields).get? key).or (c.reportFields.get? key) := by
    unfold Call.eventless Call.reportFields
    cases c.withException with
    | true => exact get?_putNew _ _ _ _
    | false => exact (Option.or_none).symm
  rw [hreported, hgiven, Option.or_assoc, get?_loggerFields_or_reportFields]

theorem get?_ownFields (c : Call) (logger : Value) (key : String) :
    (ownFields logger c).get? key = (c.own? key).or ((loggerFields logger).get? key) := by
  have hevent : (ownFields logger c).get? key =
      (c.eventFields.get? key).or ((c.eventless logger).get? key) := by
    rw [ownFields_eq]
    unfold Call.eventFields
    cases c.event.isNull with
    | true => rfl
    | false => exact Fields.get?_put _ _ _ _
  rw [hevent, get?_eventless, Call.own?, Option.or_assoc, Option.or_assoc]

theorem distinct_ownFields (c : Call) (logger : Value) : (ownFields logger c).Distinct := by
  have hlogger : (loggerFields logger).Distinct := by
    unfold loggerFields
    split
    · exact List.nodup_nil
    · exact List.nodup_singleton _
  have hgiven : ((loggerFields logger).putAll c.fields).Distinct := hlogger.putAll c.fields
  have heventless : (c.eventless logger).Distinct := by
    unfold Call.eventless
    split
    · exact distinct_putNew hgiven _ _
    · exact hgiven
  rw [ownFields_eq]
  split
  · exact heventless
  · exact heventless.put "event" c.event

/-! ## Lines -/

/-- The fields of a line before the service is named. -/
def unservedFields (j : Journal) (setup : Setup) (now : String) (logger : Value) (c : Call) :
    Fields :=
  Step.inTurn (j.librarySteps setup now c) (ownFields logger c)

theorem lineFields_eq (j : Journal) (setup : Setup) (now : String) (logger : Value) (c : Call) :
    j.lineFields setup now logger c =
      putNew (j.unservedFields setup now logger c) "service.name" j.service :=
  Step.inTurn_append (j.librarySteps setup now c) [addService j.service] (ownFields logger c)

theorem distinct_unservedFields {j : Journal} (hlibrary : j.library.Documented) (setup : Setup)
    (now : String) (logger : Value) (c : Call) :
    (j.unservedFields setup now logger c).Distinct := by
  apply Step.distinct_inTurn _ (distinct_ownFields c logger)
  intro step hstep
  rcases List.mem_append.1 hstep with hstamp | hothers
  · cases hstamped : setup.stamped with
    | true =>
        rw [hstamped] at hstamp
        cases List.mem_singleton.1 hstamp
        exact hlibrary.stamp_tidy now
    | false =>
        rw [hstamped] at hstamp
        cases hstamp
  · simp only [List.mem_cons, List.not_mem_nil, or_false] at hothers
    rcases hothers with rfl | rfl | rfl
    · exact hlibrary.mergeBound_tidy j.bound
    · exact hlibrary.addLevel_tidy c.level
    · exact hlibrary.showPlace_tidy c.stack

/-- The fields of a line before the place of its call is shown. -/
def leveledFields (j : Journal) (setup : Setup) (now : String) (logger : Value) (c : Call) :
    Fields :=
  let own := ownFields logger c
  let stamped := if setup.stamped then j.library.stamp now own else own
  j.library.addLevel c.level (j.library.mergeBound j.bound stamped)

theorem unservedFields_eq (j : Journal) (setup : Setup) (now : String) (logger : Value)
    (c : Call) :
    j.unservedFields setup now logger c =
      j.library.showPlace c.stack (j.leveledFields setup now logger c) := by
  unfold unservedFields leveledFields librarySteps
  cases setup.stamped with
  | true => rfl
  | false => rfl

/-- The names under which a line does not just repeat its sources. -/
def governedNames : List String :=
  ["level", "service.name", "stack_info", "stack"]

/-- A line says once what its sources say, but for the names that are the journal's. -/
structure Line.Tells (line : Line) (c : Call) (source : String → Option Value) (service : Value) :
    Prop where
  structured : line.structured = true
  distinct : line.fields.Distinct
  level : line.fields.get? "level" = some (.text c.level.name)
  service : line.fields.get? "service.name" = some ((source "service.name").getD service)
  wish : line.fields.get? "stack_info" = none
  place : line.fields.get? "stack" =
    if (source "stack_info").any Value.isTruthy then some (.text c.stack) else source "stack"
  others : ∀ key, key ∉ governedNames → line.fields.get? key = source key

/-- The level of a call hides what its sources say under that name, and a time stamp what they say
under its own. -/
theorem get?_leveledFields {j : Journal} {setup : Setup} {logger : Value} {c : Call}
    (hlibrary : j.library.Documented) (now : String) (hlevel : key ≠ "level")
    (hstamp : setup.stamped = true → key ≠ "timestamp") :
    (j.leveledFields setup now logger c).get? key = source? c logger j.bound.get? key := by
  have hown : (ownFields logger c).get? key =
      (c.own? key).or ((loggerFields logger).get? key) :=
    get?_ownFields c logger key
  have hstamped : (if setup.stamped then j.library.stamp now (ownFields logger c)
      else ownFields logger c).get? key = (ownFields logger c).get? key := by
    split
    · rename_i hasked
      have hother : key ∉ ["timestamp"] := mt List.mem_singleton.1 (hstamp hasked)
      exact hlibrary.stamp_only now _ key hother
    · rfl
  unfold leveledFields
  rw [hlibrary.addLevel_only c.level _ key (mt List.mem_singleton.1 hlevel),
    hlibrary.mergeBound, hstamped, hown, Option.or_assoc]
  rfl

theorem tells_lineFields {j : Journal} (hlibrary : j.library.Documented) {setup : Setup}
    (hstructured : setup.structured = true) (hstamped : setup.stamped = false) (now : String)
    (logger : Value) (c : Call) :
    Line.Tells ⟨setup.structured, j.lineFields setup now logger c⟩ c
      (source? c logger j.bound.get?) j.service := by
  have hline (key : String) (hkey : key ≠ "service.name") :
      (j.lineFields setup now logger c).get? key =
        (j.library.showPlace c.stack (j.leveledFields setup now logger c)).get? key := by
    have hservice : Fields.get? [("service.name", j.service)] key = none :=
      Fields.get?_cons_of_ne hkey _ _
    rw [lineFields_eq, get?_putNew, hservice, Option.or_none, unservedFields_eq]
  have hplaced (key : String) (hwish : key ≠ "stack_info") (hplace : key ≠ "stack") :
      (j.library.showPlace c.stack (j.leveledFields setup now logger c)).get? key =
        (j.leveledFields setup now logger c).get? key := by
    have hother : key ∉ ["stack_info", "stack"] := by
      simp [hwish, hplace]
    exact hlibrary.showPlace_only c.stack _ key hother
  have hsource (key : String) (hlevel : key ≠ "level") :
      (j.leveledFields setup now logger c).get? key = source? c logger j.bound.get? key := by
    apply get?_leveledFields hlibrary now hlevel
    intro hasked
    rw [hstamped] at hasked
    cases hasked
  refine ⟨hstructured, ?distinct, ?level, ?service, ?wish, ?place, ?others⟩
  case distinct =>
    rw [lineFields_eq]
    exact distinct_putNew (distinct_unservedFields hlibrary setup now logger c) "service.name" _
  case level =>
    rw [hline "level" (by decide), hplaced "level" (by decide) (by decide)]
    exact hlibrary.addLevel c.level _
  case service =>
    have hnamed : (j.unservedFields setup now logger c).get? "service.name" =
        source? c logger j.bound.get? "service.name" := by
      rw [unservedFields_eq, hplaced "service.name" (by decide) (by decide)]
      exact hsource "service.name" (by decide)
    have hfallback : Fields.get? [("service.name", j.service)] "service.name" = some j.service :=
      Fields.get?_cons_self _ _ _
    have hfound : (j.lineFields setup now logger c).get? "service.name" =
        (source? c logger j.bound.get? "service.name").or (some j.service) := by
      rw [lineFields_eq, get?_putNew, hnamed, hfallback]
    rw [hfound, Option.or_some]
  case wish =>
    rw [hline "stack_info" (by decide)]
    exact hlibrary.showPlace_wish c.stack _
  case place =>
    rw [hline "stack" (by decide), hlibrary.showPlace, hsource "stack_info" (by decide),
      hsource "stack" (by decide)]
  case others =>
    intro key hkey
    simp only [governedNames, List.mem_cons, List.not_mem_nil, or_false, not_or] at hkey
    rcases hkey with ⟨hlevel, hservice, hwish, hplace⟩
    rw [hline key hservice, hplaced key hwish hplace]
    exact hsource key hlevel

end Journal
end PartitionKeys
