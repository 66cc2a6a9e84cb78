import Mathlib.Data.List.Induction
import PartitionKeys.Proofs.Log.Journal
import PartitionKeys.Proofs.Log.Line
import PartitionKeys.Proofs.Log.Session

/-!
# Written — what calls write after a session

When configurations are accepted and let no logger keep its setup, all that a line depends on can be
read off the requests of the session: the last configuration gives the level from which lines are
written and the name of the service, the last clearing tells what is still bound, and a logger has
the name it was opened under.  What the session did before, and which loggers it used, plays no
part.

* `Journal.latest?`, `Journal.boundSince`, `Journal.Opens`: what is read off a session;
* `Journal.Request.Steady`: requests whose configurations leave loggers without setups of their own;
* `Journal.configured_after`, `Journal.get?_bound_after`, `Journal.name_of_opens`: the journal
  after the session has just that;
* `Journal.Call.fault?_eq_none_iff`: the names that a call cannot use for its fields;
* `Journal.lines_of_session`: which calls write a line, and what it says;
* `Journal.lines_beyond_fields`: a field that is not told, and one that cannot be used.
-/

namespace PartitionKeys
namespace Journal

variable {j : Journal} {id : LoggerId} {name : Value} {o : Options} {r : Request}
  {requests : List Request}

/-! ## What is read off a session -/

namespace Request

def entries : Request → Fields
  | .bind fields => fields
  | _ => []

def isClear : Request → Bool
  | .clear => true
  | _ => false

/-- Records without a time stamp, from a known level on, through loggers that keep nothing. -/
def Steady : Request → Prop
  | .configure o _ =>
      o.structured = .bool true ∧ o.stamped = .bool false ∧ o.keeping = .bool false ∧
        ∃ threshold, Threshold.ofName o.level = .ok threshold
  | _ => True

end Request

/-- The options of the last configuration. -/
def latest? (requests : List Request) : Option Options :=
  (requests.filterMap Request.options?).getLast?

/-- The requests since the last clearing. -/
def sinceClear (requests : List Request) : List Request :=
  (requests.reverse.takeWhile fun r => !r.isClear).reverse

/-- All that has been bound since the last clearing, in order. -/
def boundSince (requests : List Request) : Fields :=
  (sinceClear requests).flatMap Request.entries

/-- A session was asked for a logger of this name and answered with this one. -/
def Opens (requests : List Request) (id : LoggerId) (name : Value) : Prop :=
  (Request.openLogger name, Answer.opened id) ∈ requests.zip (({} : Journal).session requests).2

/-! ## One more request -/

theorem latest?_concat (requests : List Request) (r : Request) :
    latest? (requests ++ [r]) = r.options?.or (latest? requests) := by
  unfold latest?
  rw [List.filterMap_append, List.getLast?_append]
  cases r with
  | configure o onTerminal => rfl
  | _ => rfl

theorem boundSince_concat_clear (requests : List Request) :
    boundSince (requests ++ [.clear]) = [] := by
  simp [boundSince, sinceClear, Request.isClear]

theorem boundSince_concat (requests : List Request) (hr : r.isClear = false) :
    boundSince (requests ++ [r]) = boundSince requests ++ r.entries := by
  simp [boundSince, sinceClear, hr]

theorem steady_of_concat (h : ∀ r' ∈ requests ++ [r], r'.Steady) :
    (∀ r' ∈ requests, r'.Steady) ∧ r.Steady := by
  refine ⟨?_, h r (by simp)⟩
  intro r' hr'
  exact h r' (List.mem_append_left _ hr')

/-! ## Bound fields -/

theorem bound_configure (j : Journal) (o : Options) (onTerminal : Bool) :
    (j.configure o onTerminal).1.bound = j.bound := by
  cases hsetup : o.setup j.setup onTerminal with
  | error f => rw [configure_of_error hsetup]
  | ok setup => rw [configure_of_ok hsetup]

theorem bound_answer (j : Journal) (hr : r.isClear = false) :
    (j.answer r).1.bound = j.bound.putAll r.entries := by
  cases r with
  | configure o onTerminal => exact bound_configure j o onTerminal
  | openLogger name => rfl
  | bind fields => rfl
  | clear => cases hr
  | log now id c =>
      have hused : SameButLoggers j (j.log now id c).1 := by
        rw [log_fst]
        exact sameButLoggers_used j id
      exact hused.bound
  | emit now events => exact (sameButLoggers_emit j now events).bound

/-- A name has the last field bound to it since the last clearing. -/
theorem get?_bound_after (requests : List Request) (key : String) :
    (after requests).bound.get? key = (boundSince requests).last? key := by
  -- The session grows at its end, since a clearing makes all before it forgotten.
  induction requests using List.reverseRecOn with
  | nil => rfl
  | append_singleton requests r ih =>
      rw [after_concat]
      cases hr : r.isClear with
      | true =>
          have hclear : r = .clear := by
            cases r with
            | clear => rfl
            | _ => cases hr
          subst hclear
          rw [boundSince_concat_clear]
          rfl
      | false =>
          calc ((after requests).answer r).1.bound.get? key
              = ((after requests).bound.putAll r.entries).get? key := by
                rw [bound_answer _ hr]
            _ = (r.entries.last? key).or ((after requests).bound.get? key) :=
                Fields.get?_putAll _ _ _
            _ = (r.entries.last? key).or ((boundSince requests).last? key) := by rw [ih]
            _ = (boundSince requests ++ r.entries).last? key :=
                (Fields.last?_append _ _ _).symm
            _ = (boundSince (requests ++ [r])).last? key := by
                rw [boundSince_concat requests hr]

/-! ## The last configuration -/

theorem setup_of_steady {onTerminal : Bool} (hr : (Request.configure o onTerminal).Steady)
    (before : Setup) :
    ∃ threshold, Threshold.ofName o.level = .ok threshold ∧
      o.setup before onTerminal = .ok { threshold, structured := true, stamped := false } := by
  rcases hr with ⟨hstructured, hstamped, hkeeping, threshold, hlevel⟩
  refine ⟨threshold, hlevel, ?_⟩
  simp [Options.setup, hlevel, hstructured, hstamped, hkeeping, Value.isNull, Value.isTruthy]

/-- The journal has the name and the level of the last configuration. -/
theorem configured_after (hsteady : ∀ r ∈ requests, r.Steady) (ho : latest? requests = some o) :
    ∃ threshold, Threshold.ofName o.level = .ok threshold ∧
      (after requests).service = o.service ∧
      (after requests).setup = { threshold, structured := true, stamped := false } := by
  induction requests using List.reverseRecOn with
  | nil => cases ho
  | append_singleton requests r ih =>
      rcases steady_of_concat hsteady with ⟨hfront, hr⟩
      rw [latest?_concat] at ho
      rw [after_concat]
      cases hoptions : r.options? with
      | none =>
          -- The last configuration is an earlier one, and what it has set still holds.
          rw [hoptions, Option.none_or] at ho
          rcases ih hfront ho with ⟨threshold, hlevel, hservice, hsetup⟩
          rcases answer_unconfigured (j := after requests) hoptions with ⟨hservice', hsetup'⟩
          exact ⟨threshold, hlevel, hservice'.trans hservice, hsetup'.trans hsetup⟩
      | some o' =>
          rw [hoptions, Option.some_or, Option.some.injEq] at ho
          cases r with
          | configure o'' onTerminal =>
              cases hoptions
              cases ho
              rcases setup_of_steady hr (after requests).setup with ⟨threshold, hlevel, hsetup⟩
              have hconfigured : ((after requests).answer (.configure o onTerminal)).1 =
                  { after requests with
                    service := o.service
                    setup := { threshold, structured := true, stamped := false } } :=
                congrArg Prod.fst (configure_of_ok hsetup)
              rw [hconfigured]
              exact ⟨threshold, hlevel, rfl, rfl⟩
          | _ => cases hoptions

/-! ## Loggers -/

def names (j : Journal) : List Value :=
  j.loggers.toList.map Logger.name

theorem names_openLogger (j : Journal) (name : Value) :
    (j.openLogger name).2.names = j.names ++ [name] := by
  simp [names, openLogger]

theorem names_standingLogger (j : Journal) (source : String) :
    j.names <+: (j.standingLogger source).2.names := by
  unfold standingLogger
  cases j.standing.lookup source with
  | some id => exact List.prefix_refl _
  | none =>
      have hopened := names_openLogger j (.text source)
      exact ⟨[.text source], hopened.symm⟩

/-- No logger keeps a setup, and loggers are only added. -/
structure Grows (j j' : Journal) : Prop where
  unkept : j'.Unkept
  names : j.names <+: j'.names

theorem Grows.trans {j' j'' : Journal} (h : Grows j j') (h' : Grows j' j'') : Grows j j'' :=
  ⟨h'.unkept, h.names.trans h'.names⟩

theorem Unkept.grows_used (hj : j.Unkept) (id : LoggerId) : Grows j (j.used id) := by
  rw [hj.used_eq]
  exact ⟨hj, List.prefix_refl _⟩

theorem Unkept.grows_tell (hj : j.Unkept) (now : String) (e : Event) :
    Grows j (j.tell now e).1 := by
  have hsource : Grows j (j.standingLogger e.logger).2 :=
    ⟨(hj.standingLogger e.logger).1, names_standingLogger j e.logger⟩
  exact hsource.trans (hsource.unkept.grows_used _)

theorem Unkept.grows_emit (hj : j.Unkept) (now : String) (events : List Event) :
    Grows j (j.emit now events).1 := by
  induction events generalizing j with
  | nil => exact ⟨hj, List.prefix_refl _⟩
  | cons e rest ih =>
      have htold : Grows j (j.tell now e).1 := hj.grows_tell now e
      rw [emit_cons]
      exact htold.trans (ih htold.unkept)

theorem Unkept.grows_answer (hj : j.Unkept) (hr : r.Steady) : Grows j (j.answer r).1 := by
  cases r with
  | configure o onTerminal =>
      rcases setup_of_steady hr j.setup with ⟨threshold, _, hsetup⟩
      simp only [answer, configure_of_ok hsetup]
      exact ⟨⟨rfl, hj.kept⟩, List.prefix_refl _⟩
  | openLogger name => exact ⟨hj.openLogger name, [name], (names_openLogger j name).symm⟩
  | bind fields => exact ⟨⟨hj.keeping, hj.kept⟩, List.prefix_refl _⟩
  | clear => exact ⟨⟨hj.keeping, hj.kept⟩, List.prefix_refl _⟩
  | log now id c =>
      simp only [answer, log_fst]
      exact hj.grows_used id
  | emit now events => exact hj.grows_emit now events

theorem unkept_after (hsteady : ∀ r ∈ requests, r.Steady) :
    (after requests).Unkept := by
  refine session_invariant (P := Unkept) ⟨rfl, by simp⟩ ?_
  intro r hr j hj
  exact (hj.grows_answer (hsteady r hr)).unkept

theorem Opens.append (h : Opens requests id name) (later : List Request) :
    Opens (requests ++ later) id name := by
  have hlength : requests.length = (({} : Journal).session requests).2.length :=
    (length_session _ requests).symm
  unfold Opens
  rw [session_append, List.zip_append hlength]
  exact List.mem_append_left _ h

/-- A logger was there before the last request, or that request has opened it after all others. -/
theorem of_opens_concat (h : Opens (requests ++ [r]) id name) :
    Opens requests id name ∨ r = .openLogger name ∧ id = (after requests).loggers.size := by
  have hlength : requests.length = (({} : Journal).session requests).2.length :=
    (length_session _ requests).symm
  unfold Opens at h
  rw [session_concat, List.zip_append hlength] at h
  rcases List.mem_append.1 h with hbefore | hlast
  · exact Or.inl hbefore
  · rcases Prod.mk.inj (List.mem_singleton.1 hlast) with ⟨hrequest, hanswer⟩
    subst hrequest
    exact Or.inr ⟨rfl, Answer.opened.inj hanswer⟩

/-- A logger keeps the name it was opened under. -/
theorem name_of_opens (hsteady : ∀ r ∈ requests, r.Steady) (hopens : Opens requests id name) :
    (after requests).names[id]? = some name := by
  induction requests using List.reverseRecOn with
  | nil => cases hopens
  | append_singleton requests r ih =>
      rcases steady_of_concat hsteady with ⟨hfront, hr⟩
      rw [after_concat]
      rcases of_opens_concat hopens with hbefore | ⟨rfl, rfl⟩
      · -- The loggers that were there come first.
        have hnamed : (after requests).names[id]? = some name := ih hfront hbefore
        have hgrows : Grows (after requests) ((after requests).answer r).1 :=
          (unkept_after hfront).grows_answer hr
        rcases hgrows.names with ⟨added, hadded⟩
        rcases List.getElem?_eq_some_iff.1 hnamed with ⟨hid, _⟩
        rw [← hadded, List.getElem?_append_left hid]
        exact hnamed
      · -- The new one is the last, and its position is their number.
        have hnames : ((after requests).answer (.openLogger name)).1.names =
            (after requests).names ++ [name] :=
          names_openLogger (after requests) name
        have hsize : (after requests).loggers.size = (after requests).names.length := by
          simp [names]
        rw [hnames, hsize]
        exact List.getElem?_concat_length

theorem name_getD_of_names (h : j.names[id]? = some name) :
    (j.loggers.getD id default).name = name := by
  rcases List.getElem?_eq_some_iff.1 h with ⟨hid, hname⟩
  have hsize : id < j.loggers.size := by
    simpa [names] using hid
  rw [Array.getD, dif_pos hsize]
  simpa [names] using hname

/-! ## Names a call cannot use -/

/-- The names that calls use themselves; the last one is used on the way to a line only. -/
def Call.ownNames (reaches : Bool) : List String :=
  if reaches then ["self", "event", "method_name"] else ["self", "event"]

theorem Call.fault?_eq_none_iff (c : Call) (reaches : Bool) :
    c.fault? reaches = none ↔ ∀ n ∈ c.fields.map Prod.fst, n ∉ Call.ownNames reaches := by
  -- All these operations take fields under other names than their own, so only those are refused.
  have hothers : ∀ s ∈ c.signatures reaches, s.takesOthers = true := by
    cases hexception : c.withException <;> cases reaches <;>
      simp [Call.signatures, Call.signature, hexception]
  have hpositions (n : String) :
      (∀ s ∈ c.signatures reaches, n ∉ s.positional) ↔ n ∉ Call.ownNames reaches := by
    cases hexception : c.withException <;> cases reaches <;>
      simp [Call.signatures, Call.signature, Call.ownNames, hexception] <;> tauto
  unfold Call.fault?
  rw [List.findSome?_eq_none_iff]
  constructor
  · intro hnone n hn
    refine (hpositions n).1 ?_
    intro s hs
    exact (Signature.check_eq_none_iff (hothers s hs) _).1 (hnone s hs) n hn
  · intro hfree s hs
    refine (Signature.check_eq_none_iff (hothers s hs) _).2 ?_
    intro n hn
    exact (hpositions n).2 (hfree n hn) s hs

/-! ## Calls after a session -/

/-- A call under a setup for records without a time stamp, with a documented library. -/
theorem answer_log_of_setup (hlibrary : j.library.Documented) {threshold : Nat}
    (hsetup : j.setupOf id = { threshold, structured := true, stamped := false })
    (now : String) (c : Call) :
    let reply := (j.answer (.log now id c)).2
    let taken := Call.ownNames (decide (threshold ≤ c.level.rank))
    ((∃ n ∈ c.fields.map Prod.fst, n ∈ taken) → ∃ f, reply = .misnamed f) ∧
      ((∀ n ∈ c.fields.map Prod.fst, n ∉ taken) →
        (threshold ≤ c.level.rank → ∃ line, reply = .wrote [line] ∧
          line.Tells c (source? c (j.loggers.getD id default).name j.bound.get?) j.service) ∧
        (c.level.rank < threshold → reply = .wrote [])) := by
  have hthreshold : (j.setupOf id).threshold = threshold := congrArg Setup.threshold hsetup
  refine ⟨?_, ?_⟩
  · rintro ⟨n, hn, htaken⟩
    cases hfault : c.fault? (decide (threshold ≤ c.level.rank)) with
    | none => exact absurd htaken ((c.fault?_eq_none_iff _).1 hfault n hn)
    | some f =>
        rw [← hthreshold] at hfault
        exact ⟨f, congrArg Answer.ofWritten (log_misnamed hfault)⟩
  · intro hfree
    have hfault : c.fault? (decide (threshold ≤ c.level.rank)) = none :=
      (c.fault?_eq_none_iff _).2 hfree
    refine ⟨?_, ?_⟩
    · intro hreaches
      have hreached : (j.setupOf id).threshold ≤ c.level.rank := by
        rw [hthreshold]
        exact hreaches
      rw [decide_eq_true hreaches] at hfault
      refine ⟨_, congrArg Answer.ofWritten (log_reaching hreached hfault), ?_⟩
      exact tells_lineFields hlibrary (by rw [hsetup]) (by rw [hsetup]) now _ c
    · intro hbelow
      have hmissed : c.level.rank < (j.setupOf id).threshold := by
        rw [hthreshold]
        exact hbelow
      rw [decide_eq_false (Nat.not_le.2 hbelow)] at hfault
      exact congrArg Answer.ofWritten (log_below hmissed hfault)

/-- After any session whose configurations are steady, a call through a logger of the session is
refused if a field has a name that calls use themselves.  Any other writes one line just when its
level reaches that of the last configuration, and none else.  The line says what the call says over
the name of the logger over what was bound last since the last clearing, but for the level, which is
the call's, the place of the call, which stands for the wish to tell it, and the service, which is
that of the last configuration unless it is among those fields. -/
theorem lines_of_session (hsteady : ∀ r ∈ requests, r.Steady) (ho : latest? requests = some o)
    (hopens : Opens requests id name) (now : String) (c : Call) :
    ∃ threshold, Threshold.ofName o.level = .ok threshold ∧
      let reply := ((after requests).answer (.log now id c)).2
      let taken := Call.ownNames (decide (threshold ≤ c.level.rank))
      ((∃ n ∈ c.fields.map Prod.fst, n ∈ taken) → ∃ f, reply = .misnamed f) ∧
        ((∀ n ∈ c.fields.map Prod.fst, n ∉ taken) →
          (threshold ≤ c.level.rank → ∃ line, reply = .wrote [line] ∧
            line.Tells c (source? c name (boundSince requests).last?) o.service) ∧
          (c.level.rank < threshold → reply = .wrote [])) := by
  rcases configured_after hsteady ho with ⟨threshold, hlevel, hservice, hsetup⟩
  have hunkept : (after requests).Unkept := unkept_after hsteady
  have hsetupOf : (after requests).setupOf id =
      { threshold, structured := true, stamped := false } :=
    (hunkept.setupOf_eq id).trans hsetup
  have hname : ((after requests).loggers.getD id default).name = name :=
    name_getD_of_names (name_of_opens hsteady hopens)
  have hbound : (after requests).bound.get? = (boundSince requests).last? :=
    funext (get?_bound_after requests)
  have hlibrary : (after requests).library.Documented := by
    rw [library_after]
    exact Library.documented_standard
  have hcall := answer_log_of_setup hlibrary hsetupOf now c
  rw [hname, hbound, hservice] at hcall
  exact ⟨threshold, hlevel, hcall⟩

theorem steady_ordersRequests : ∀ r ∈ ordersRequests, r.Steady := by
  have hconfigured : (Request.configure ordersOptions false).Steady :=
    ⟨rfl, rfl, rfl, Level.info.rank, ofName_info⟩
  exact List.forall_mem_cons.2 ⟨hconfigured, List.forall_mem_singleton.2 trivial⟩

theorem opens_ordersRequests : Opens ordersRequests 0 (.text "mail") := by
  unfold Opens
  rw [session_ordersRequests]
  exact List.mem_cons_of_mem _ List.mem_cons_self

/-- The orders once more: a first queue is cleared, and a second one is bound with a count. -/
def queuedRequests : List Request :=
  ordersRequests ++
    [.bind [("queue", .text "early"), ("mode", .text "trial")],
      .clear,
      .bind [("queue", .text "late"), ("count", .int 5), ("level", .text "debug")]]

/-- The count is that of the call, the queue the one bound last, the mode is cleared. -/
theorem lines_of_session_queued :
    (∀ r ∈ queuedRequests, r.Steady) ∧ latest? queuedRequests = some ordersOptions ∧
      Opens queuedRequests 0 (.text "mail") ∧
      ∃ line, ((after queuedRequests).answer (.log "" 0 mailSent)).2 = .wrote [line] ∧
        ["count", "queue", "mode", "level", "logger_name", "service.name"].map line.fields.get? =
          [some (.int 2), some (.text "late"), none, some (.text "error"), some (.text "mail"),
            some (.text "orders")] := by
  have hsteady : ∀ r ∈ queuedRequests, r.Steady :=
    List.forall_mem_append.2 ⟨steady_ordersRequests, by simp [Request.Steady]⟩
  have hlatest : latest? queuedRequests = some ordersOptions := rfl
  have hopens : Opens queuedRequests 0 (.text "mail") := opens_ordersRequests.append _
  refine ⟨hsteady, hlatest, hopens, ?_⟩
  rcases lines_of_session hsteady hlatest hopens "" mailSent with ⟨threshold, hlevel, _, hfree⟩
  have hthreshold : threshold = Level.info.rank := Except.ok.inj (hlevel.symm.trans ofName_info)
  subst hthreshold
  rcases (hfree (by decide)).1 (by decide) with ⟨line, hline, htells⟩
  refine ⟨line, hline, ?_⟩
  simp only [List.map_cons, List.map_nil, htells.level, htells.service,
    htells.others "count" (by decide), htells.others "queue" (by decide),
    htells.others "mode" (by decide), htells.others "logger_name" (by decide)]
  rfl

/-- A call whose level is written from.  Its wish for its place is not told, and with a field under
a name that such calls use themselves it is refused. -/
theorem lines_beyond_fields :
    (∀ r ∈ ordersRequests, r.Steady) ∧ latest? ordersRequests = some ordersOptions ∧
      Opens ordersRequests 0 (.text "mail") ∧
      Threshold.ofName ordersOptions.level = .ok Level.info.rank ∧
      Level.info.rank ≤ mailSent.level.rank ∧
      (∃ line, (ordersJournal.answer
          (.log "" 0 { mailSent with fields := [("stack_info", .bool false)] })).2 =
            .wrote [line] ∧ line.fields.get? "stack_info" = none) ∧
      ∃ f, (ordersJournal.answer
        (.log "" 0 { mailSent with fields := [("method_name", .text "smtp")] })).2 =
          .misnamed f := by
  refine ⟨steady_ordersRequests, rfl, opens_ordersRequests, ofName_info, by decide, ?_, ?_⟩
  · rw [ordersJournal_eq]
    exact ⟨_, rfl, rfl⟩
  · rw [ordersJournal_eq]
    exact ⟨_, rfl⟩

end Journal
end PartitionKeys
