import PartitionKeys.Proofs.Report.Context
import PartitionKeys.Report.Basic

/-!
# Adding — a report after entries have been added to its context

Entries are added to a report call by call.  Unless one has a standing name, every call goes through
and the report can be rendered afterwards: its context shows the last value given under each name
and what it showed before under all others, and nothing else about the report changes.

* `Report.foldlM_adding`: a run of calls;
* `Report.adding_keeps_context`: what the report shows after it;
* `Report.context_lost`: a standing name hides the rendering, and metadata hides an attribute.
-/

namespace PartitionKeys
namespace Report

variable {r r' : Report} {entries given : Fields} {calls : List Fields}

/-! ## Reports as they are made -/

/-- A report is made with a plain context. -/
theorem plain_of_ofArguments {kind : Kind} {values : List Value} {names : List String}
    (h : ofArguments kind values names = .ok r) : r.context.Plain [] := by
  unfold ofArguments at h
  split at h
  · cases h
  · cases h
    cases kind with
    | missingConfig => exact ⟨rfl, rfl, List.nodup_nil⟩
    | missingCatalog => exact ⟨rfl, rfl, List.nodup_nil⟩
    | invalidConfig => exact ⟨rfl, rfl, List.nodup_nil⟩
    | invalidCatalog => exact ⟨rfl, rfl, List.nodup_nil⟩
    | _ => exact Context.plain_default

/-! ## Calls -/

/-- Any name can be given but the one that stands for the report itself. -/
theorem adding_eq (hself : ∀ e ∈ given, e.1 ≠ "self") :
    r.adding given = (r.context.putAll given).map fun context => { r with context } := by
  have hcheck : addingSignature.check 1 (given.map (·.1)) = none := by
    refine (Signature.check_eq_none_iff (s := addingSignature) rfl _).2 ?_
    intro n hn
    rcases List.mem_map.1 hn with ⟨e, he, rfl⟩
    simpa [addingSignature] using hself e he
  unfold adding
  rw [hcheck]

theorem adding_extends (hplain : r.context.Plain entries)
    (hnames : ∀ e ∈ given, e.1 ≠ "self" ∧ e.1 ∉ Context.standingNames) :
    ∃ context entries', r.adding given = .ok { r with context } ∧
      r.context.Extends context entries entries' given := by
  rcases Context.putAll_extends hplain fun e he => (hnames e he).2 with
    ⟨context, entries', hputAll, hextends⟩
  refine ⟨context, entries', ?_, hextends⟩
  rw [adding_eq fun e he => (hnames e he).1, hputAll]
  rfl

/-- A run of calls adds all their entries, and changes nothing but the context. -/
theorem foldlM_adding (hplain : r.context.Plain entries)
    (hnames : ∀ call ∈ calls, ∀ e ∈ call, e.1 ≠ "self" ∧ e.1 ∉ Context.standingNames) :
    ∃ context entries', calls.foldlM adding r = .ok { r with context } ∧
      r.context.Extends context entries entries' calls.flatten := by
  -- Call by call; what a call leaves plain, the next one extends.
  induction calls generalizing r entries with
  | nil => exact ⟨r.context, entries, rfl, hplain.extends_refl⟩
  | cons call rest ih =>
      rcases adding_extends hplain (hnames call List.mem_cons_self) with
        ⟨context₁, entries₁, hcall, hstep⟩
      have hrest : ∀ call ∈ rest, ∀ e ∈ call, e.1 ≠ "self" ∧ e.1 ∉ Context.standingNames :=
        fun call hmem => hnames call (List.mem_cons_of_mem _ hmem)
      have hplain₁ : ({ r with context := context₁ } : Report).context.Plain entries₁ := hstep.plain
      rcases ih hplain₁ hrest with ⟨context₂, entries₂, hrun, hextends⟩
      refine ⟨context₂, entries₂, ?_, hstep.trans hextends⟩
      rw [List.foldlM_cons, hcall]
      exact hrun

/-! ## What a report shows -/

def identity (r : Report) : Fields :=
  [ ("error_type", .text r.kind.label), ("message", r.message),
    ("category", .text r.category.value), ("retryable", .bool false) ]

/-- An empty context is not shown. -/
def contextShown (shown : Fields) : Fields :=
  if shown.isEmpty then [] else [("context", .record shown)]

def causeShown (r : Report) : Fields :=
  r.cause.toList.map fun c => ("cause", .text c.shown)

/-- What a report shows beside its context. -/
def summary (r : Report) : Fields :=
  r.identity ++ r.causeShown

theorem get?_contextShown_self (shown : Fields) :
    (contextShown shown).get? "context" =
      if shown.isEmpty then none else some (.record shown) := by
  unfold contextShown
  split
  · rfl
  · exact Fields.get?_cons_self "context" (.record shown) []

theorem get?_contextShown_of_ne {name : String} (hname : name ≠ "context") (shown : Fields) :
    (contextShown shown).get? name = none := by
  unfold contextShown
  split
  · rfl
  · exact Fields.get?_cons_of_ne hname (.record shown) []

theorem get?_causeShown_context (r : Report) : r.causeShown.get? "context" = none := by
  unfold causeShown
  cases r.cause with
  | none => rfl
  | some c => rfl

theorem rendered_eq {shown : Fields} (h : r.context.rendered = .ok shown) :
    r.rendered = .ok (r.identity ++ contextShown shown ++ r.causeShown) := by
  unfold rendered causeShown
  rw [h]
  cases r.cause with
  | none => rfl
  | some c => rfl

/-- The context and the summary are both found in the rendered report. -/
theorem exists_rendered {shown : Fields} (h : r.context.rendered = .ok shown) :
    ∃ d, r.rendered = .ok d ∧
      d.get? "context" = (if shown.isEmpty then none else some (.record shown)) ∧
      ∀ name, name ≠ "context" → d.get? name = r.summary.get? name := by
  refine ⟨_, rendered_eq h, ?_, ?_⟩
  · have hidentity : r.identity.get? "context" = none := rfl
    rw [Fields.get?_append, Fields.get?_append, hidentity, get?_causeShown_context,
      get?_contextShown_self, Option.none_or, Option.or_none]
  · intro name hname
    rw [Fields.get?_append, Fields.get?_append, get?_contextShown_of_ne hname, Option.or_none]
    exact (Fields.get?_append r.identity r.causeShown name).symm

/-- After any run of calls without standing names the report is rendered with the last value given
under each name, with what its context showed before under all other names, and otherwise as it
was. -/
theorem adding_keeps_context (hplain : r.context.Plain entries)
    (hnames : ∀ call ∈ calls, ∀ e ∈ call, e.1 ≠ "self" ∧ e.1 ∉ Context.standingNames) :
    ∃ r' before after d, calls.foldlM adding r = .ok r' ∧
      r.context.rendered = .ok before ∧ r'.context.rendered = .ok after ∧
      (∀ key value, Fields.last? calls.flatten key = some value →
        (key ∉ Context.attributeNames → after.get? key = some value) ∧
        (key ∈ Context.attributeNames → entries.get? key = none →
          after.get? key = if value.isNull then none else some value)) ∧
      (∀ key, Fields.last? calls.flatten key = none → after.get? key = before.get? key) ∧
      r'.rendered = .ok d ∧
      d.get? "context" = (if after.isEmpty then none else some (.record after)) ∧
      ∀ name, name ≠ "context" → d.get? name = r.summary.get? name := by
  rcases foldlM_adding hplain hnames with ⟨context, entries', hrun, hextends⟩
  have hbefore : r.context.rendered = .ok (r.context.named.putAll entries) := hplain.rendered
  have hafter : context.rendered = .ok (context.named.putAll entries') := hextends.plain.rendered
  have hshown : ({ r with context } : Report).context.rendered =
      .ok (context.named.putAll entries') := hafter
  rcases exists_rendered hshown with ⟨d, hd, hcontext, hsummary⟩
  refine ⟨{ r with context }, _, _, d, hrun, hbefore, hafter, ?_, ?_, hd, hcontext, hsummary⟩
  · intro key value hgiven
    exact hextends.get?_of_given hgiven
  · intro key hgiven
    exact hextends.get?_of_not_given hplain hgiven

/-- A type with both markers, told with the team that owns its catalog. -/
def ambiguous : Report where
  kind := .classification
  message := .text "Type Mail is both a job trigger and a job instance"
  context :=
    { typeName := .text "Mail", setting := .text "catalog",
      metadata := some (.record [("owner", .text "post")]) }

def ambiguousCalls : List Fields :=
  [ [("type_name", .text "Digest"), ("catalog", .text "orders")],
    [("supertype", .text "Mail"), ("type_name", .null), ("catalog", .text "bills")] ]

/-- The type named from the start gives way to another and then to none, and the rest is shown. -/
theorem adding_keeps_context_ambiguous :
    ∃ r' after, ambiguousCalls.foldlM adding ambiguous = .ok r' ∧
      r'.context.rendered = .ok after ∧
      after.get? "type_name" = none ∧ after.get? "supertype" = some (.text "Mail") ∧
      after.get? "setting" = some (.text "catalog") ∧ after.get? "owner" = some (.text "post") ∧
      after.get? "catalog" = some (.text "bills") := by
  have hmade : Context.ofFields
      [ ("type_name", .text "Mail"), ("setting", .text "catalog"),
        ("metadata", .record [("owner", .text "post")]) ] = .ok ambiguous.context := rfl
  have hplain : ambiguous.context.Plain [("owner", .text "post")] :=
    Context.plain_of_ofFields hmade rfl (List.nodup_singleton "owner")
  have hnames : ∀ call ∈ ambiguousCalls,
      ∀ e ∈ call, e.1 ≠ "self" ∧ e.1 ∉ Context.standingNames := by
    decide
  rcases adding_keeps_context hplain hnames with
    ⟨r', before, after, d, hrun, hbefore, hafter, hgiven, hkept, _⟩
  refine ⟨r', after, hrun, hafter, ?_, ?_, ?_, ?_, ?_⟩
  · exact (hgiven "type_name" .null rfl).2 (by decide) rfl
  · exact (hgiven "supertype" (.text "Mail") rfl).2 (by decide) rfl
  · rw [hkept "setting" rfl]
    cases hbefore
    rfl
  · rw [hkept "owner" rfl]
    cases hbefore
    rfl
  · exact (hgiven "catalog" (.text "bills") rfl).1 (by decide)

/-- An entry under the name of the rendering leaves nothing to render with, and metadata of the name
of an attribute stays in front of it. -/
theorem context_lost :
    (∃ r', adding { kind := .general, message := .text "boom" } [("to_dict", .text "now")] =
        .ok r' ∧
      r'.rendered.toOption = none) ∧
    ∃ r' after,
      adding
        { kind := .general, message := .text "boom",
          context := { metadata := some (.record [("type_name", .text "Mail")]) } }
        [("type_name", .text "Digest")] = .ok r' ∧
      r'.context.rendered = .ok after ∧ after.get? "type_name" = some (.text "Mail") :=
  ⟨⟨_, rfl, rfl⟩, ⟨_, _, rfl, rfl, rfl⟩⟩

end Report
end PartitionKeys
