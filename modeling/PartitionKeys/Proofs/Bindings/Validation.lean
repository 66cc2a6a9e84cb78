import PartitionKeys.Bindings.Attributes
import PartitionKeys.Proofs.Bindings.Checked

/-!
# Validation — what becomes of a value offered as bindings

The fields of a record are looked at in the order of their declaration.  Each attribute that is no
text is an issue, and so is a mapper that is refused; any other fault of the mapper gives up the
whole record, whatever else is wrong with it.  The bindings of both categories are two such records,
of which the first to be given up decides.

* `CategoryBindings.PartitionValue`: the value that stands for the partition attribute;
* `CategoryBindings.Outcome`, `AttributeBindings.Outcome`: what can become of a value, as rules;
* `CategoryBindings.ofValue_eq_iff`: the bindings of a category follow the rules;
* `AttributeBindings.ofValue_eq_iff_outcome`: so do those of both.
-/

namespace PartitionKeys

/-! ## Issues -/

theorem MapperFault.isRefusal_iff {f : MapperFault} : f.isRefusal = true ↔ f = .emptyModule := by
  cases f with
  | emptyModule => simp [isRefusal]
  | _ => simp [isRefusal]

namespace Checked

/-- Giving up wins over issues, the first over the second; issues of both are joined. -/
def both {α β γ : Type} (join : α → β → γ) : Checked α → Checked β → Checked γ
  | .abandoned f, _ => .abandoned f
  | _, .abandoned f => .abandoned f
  | .rejected is, .rejected js => .rejected (is ++ js)
  | .rejected is, .accepted _ => .rejected is
  | .accepted _, .rejected js => .rejected js
  | .accepted a, .accepted b => .accepted (join a b)

/-- Two finished validations with an issue between them are rejected with the issues of both. -/
theorem both_of_finished {α β γ : Type} (join : α → β → γ) {first second : String}
    {c : Checked α} {d : Checked β} (hc : c.Finished) (hd : d.Finished)
    (hissues : c.issues ≠ [] ∨ d.issues ≠ []) :
    both join (c.within first) (d.within second) =
      .rejected (c.issues.map (·.within first) ++ d.issues.map (·.within second)) := by
  cases c with
  | abandoned f => exact absurd rfl (hc f)
  | accepted a =>
      cases d with
      | abandoned f => exact absurd rfl (hd f)
      | accepted b => simp [issues] at hissues
      | rejected js => rfl
  | rejected is =>
      cases d with
      | abandoned f => exact absurd rfl (hd f)
      | accepted b => simp [within, both, issues]
      | rejected js => rfl

end Checked

namespace CategoryBindings

variable {w : World} {fields values : Fields} {v p : Value} {b : CategoryBindings}
  {c : Checked CategoryBindings}

/-- One issue for every value that is no text, in order. -/
def notTexts (values : Fields) : List Issue :=
  (values.filter fun a => a.2.text?.isNone).map fun a => ⟨[a.1], .notText⟩

theorem notTexts_append (values others : Fields) :
    notTexts (values ++ others) = notTexts values ++ notTexts others := by
  simp [notTexts]

theorem notTexts_eq_nil_iff : notTexts values = [] ↔ ∀ a ∈ values, ∃ s, a.2 = .text s := by
  have htext (v : Value) : ¬v.text?.isNone = true ↔ ∃ s, v = .text s := by
    cases v with
    | text s => simp [Value.text?]
    | _ => simp [Value.text?]
  simp only [notTexts, List.map_eq_nil_iff, List.filter_eq_nil_iff, htext]

/-! ## What a record gives -/

/-- The partition attribute given, or else the id attribute given, or else the conventional id. -/
def givenPartition (fields : Fields) : Value :=
  let partition := (fields.get? "partition_attribute").getD .null
  if !partition.isNull then partition else standingPartition fields

theorem get?_withPartition (fields : Fields) :
    (withPartition fields).get? "partition_attribute" = some (givenPartition fields) := by
  unfold withPartition givenPartition
  cases hpartition : fields.get? "partition_attribute" with
  | none => simp [Value.isNull, Fields.get?_put_self]
  | some v => cases hnull : v.isNull <;> simp [hnull, hpartition, Fields.get?_put_self]

theorem get?_withPartition_of_ne {name : String} (hne : name ≠ "partition_attribute") :
    (withPartition fields).get? name = fields.get? name := by
  unfold withPartition
  split
  · exact Fields.get?_put_of_ne hne
  · rfl

/-- The partition attribute given, else the id attribute given, else the conventional id; a null is
not given, and neither is an id attribute that counts as false. -/
inductive PartitionValue (fields : Fields) : Value → Prop where
  | partition {v : Value} (h : fields.get? "partition_attribute" = some v)
      (hsome : v.isNull = false) : PartitionValue fields v
  | id {v : Value} (hnone : ((fields.get? "partition_attribute").getD .null).isNull = true)
      (h : fields.get? "id_attribute" = some v) (htrue : v.isTruthy = true) :
      PartitionValue fields v
  | conventional (hnone : ((fields.get? "partition_attribute").getD .null).isNull = true)
      (hfalse : ∀ v, fields.get? "id_attribute" = some v → v.isTruthy = false) :
      PartitionValue fields (.text "id")

theorem PartitionValue.eq (h : PartitionValue fields p) : p = givenPartition fields := by
  unfold givenPartition standingPartition
  cases h with
  | partition h hsome => simp [h, hsome]
  | id hnone h htrue => simp [hnone, h, htrue]
  | conventional hnone hfalse =>
      cases hid : fields.get? "id_attribute" with
      | none => simp [hnone, Value.isTruthy]
      | some v => simp [hnone, hfalse v hid]

theorem partitionValue_givenPartition (fields : Fields) :
    PartitionValue fields (givenPartition fields) := by
  have hexists : ∃ p, PartitionValue fields p := by
    cases hnone : ((fields.get? "partition_attribute").getD .null).isNull with
    | false =>
        cases hpartition : fields.get? "partition_attribute" with
        | none =>
            rw [hpartition] at hnone
            cases hnone
        | some v =>
            rw [hpartition] at hnone
            exact ⟨v, .partition hpartition hnone⟩
    | true =>
        by_cases hid : ∃ v, fields.get? "id_attribute" = some v ∧ v.isTruthy = true
        · rcases hid with ⟨v, hid, htrue⟩
          exact ⟨v, .id hnone hid htrue⟩
        · refine ⟨_, .conventional hnone ?_⟩
          intro v hv
          simpa using fun htrue => hid ⟨v, hv, htrue⟩
  rcases hexists with ⟨p, hp⟩
  exact hp.eq ▸ hp

/-- The values of the attributes, in the order of their declaration. -/
def attributeValues (fields : Fields) (partition : Value) : Fields :=
  [ ("id_attribute", (fields.get? "id_attribute").getD (.text "id")),
    ("schedule_attribute", (fields.get? "schedule_attribute").getD (.text "scheduleTime")),
    ("last_execution_attribute",
      (fields.get? "last_execution_attribute").getD (.text "lastExecutionTime")),
    ("partition_attribute", partition),
    ("state_attribute", (fields.get? "state_attribute").getD (.text "state")) ]

/-- The same values as they stand in bindings. -/
def attributeTexts (b : CategoryBindings) : Fields :=
  [ ("id_attribute", .text b.idAttribute), ("schedule_attribute", .text b.scheduleAttribute),
    ("last_execution_attribute", .text b.lastExecutionAttribute),
    ("partition_attribute", .text b.partitionAttribute),
    ("state_attribute", .text b.stateAttribute) ]

theorem attributeValues_eq_iff : attributeValues fields p = b.attributeTexts ↔
    (fields.get? "id_attribute").getD (.text "id") = .text b.idAttribute ∧
      (fields.get? "schedule_attribute").getD (.text "scheduleTime") = .text b.scheduleAttribute ∧
      (fields.get? "last_execution_attribute").getD (.text "lastExecutionTime") =
        .text b.lastExecutionAttribute ∧
      p = .text b.partitionAttribute ∧
      (fields.get? "state_attribute").getD (.text "state") = .text b.stateAttribute := by
  simp only [attributeValues, attributeTexts, List.cons.injEq, Prod.mk.injEq, true_and, and_true]

/-- What the mapper is resolved from; without a mapper states are stored as they are. -/
def mapping (fields : Fields) : Value :=
  (fields.get? "state_value_mapper").getD .null

/-! ## Outcomes for one category -/

/-- What becomes of a value.  The only fault of a mapper that counts as an issue is a module without
a name. -/
inductive Outcome (w : World) : Value → Checked CategoryBindings → Prop where
  | shapeless {v : Value} (hv : ∀ fields, v ≠ .record fields) :
      Outcome w v (.rejected [⟨[], .notRecord "CategoryBindings"⟩])
  | abandoned {fields : Fields} {f : MapperFault} (hmapper : w.resolve (mapping fields) = .error f)
      (hf : f ≠ .emptyModule) : Outcome w (.record fields) (.abandoned f)
  | refused {fields : Fields} {p : Value}
      (hmapper : w.resolve (mapping fields) = .error .emptyModule)
      (hp : PartitionValue fields p) :
      Outcome w (.record fields)
        (.rejected
          (notTexts (attributeValues fields p) ++
            [⟨["state_value_mapper"], .refused "Empty module name"⟩]))
  | untyped {fields : Fields} {p : Value} {m : StateMapper}
      (hmapper : w.resolve (mapping fields) = .ok m) (hp : PartitionValue fields p)
      (hissues : notTexts (attributeValues fields p) ≠ []) :
      Outcome w (.record fields) (.rejected (notTexts (attributeValues fields p)))
  | accepted {fields : Fields} {p : Value} {b : CategoryBindings}
      (hmapper : w.resolve (mapping fields) = .ok b.stateMapper) (hp : PartitionValue fields p)
      (htexts : attributeValues fields p = b.attributeTexts) :
      Outcome w (.record fields) (.accepted b)

/-! ## The loop over the fields of a category -/

section Loop

variable {f : MapperFault} {m : StateMapper} {name s standing : String}
  {set : String → CategoryBindings → CategoryBindings}

theorem finished_textField (fields : Fields) :
    ((textField name set).outcome fields).Finished := by
  cases hgiven : fields.get? name with
  | none =>
      rw [ModelField.outcome_of_none hgiven]
      exact Checked.finished_accepted _
  | some v =>
      rw [ModelField.outcome_of_some hgiven]
      cases v with
      | text s => exact Checked.finished_accepted _
      | _ => exact Checked.finished_rejected _

/-- An attribute that is no text is an issue; whatever stands for one that is missing is a text. -/
theorem issues_textField (standing : String) (fields : Fields) :
    ((textField name set).outcome fields).issues =
      notTexts [(name, (fields.get? name).getD (.text standing))] := by
  cases hgiven : fields.get? name with
  | none =>
      rw [ModelField.outcome_of_none hgiven]
      rfl
  | some v =>
      rw [ModelField.outcome_of_some hgiven]
      cases v with
      | text s => rfl
      | _ => rfl

/-- An attribute that is missing keeps what stands for it. -/
theorem apply_textField (hs : (fields.get? name).getD (.text standing) = .text s)
    (hstanding : set standing b = b) : ((textField name set).outcome fields).apply b = set s b := by
  cases hgiven : fields.get? name with
  | none =>
      rw [hgiven] at hs
      cases hs
      rw [ModelField.outcome_of_none hgiven]
      exact hstanding.symm
  | some v =>
      rw [hgiven] at hs
      cases hs
      rw [ModelField.outcome_of_some hgiven]
      rfl

theorem finished_attributeFields : ∀ f ∈ attributeFields, (f.outcome fields).Finished := by
  simp only [attributeFields, List.forall_mem_cons]
  exact ⟨finished_textField _, finished_textField _, finished_textField _, finished_textField _,
    finished_textField _, List.forall_mem_nil _⟩

theorem issues_attributeFields :
    (attributeFields.flatMap fun f => (f.outcome (withPartition fields)).issues) =
      notTexts (attributeValues fields (givenPartition fields)) := by
  simp only [attributeFields, List.flatMap_cons, List.flatMap_nil]
  rw [issues_textField "id", issues_textField "scheduleTime", issues_textField "lastExecutionTime",
    issues_textField "id", issues_textField "state", get?_withPartition,
    get?_withPartition_of_ne (by decide), get?_withPartition_of_ne (by decide),
    get?_withPartition_of_ne (by decide), get?_withPartition_of_ne (by decide)]
  simp only [List.append_nil, ← notTexts_append]
  rfl

theorem foldl_attributeFields
    (htexts : attributeValues fields (givenPartition fields) = b.attributeTexts) :
    attributeFields.foldl (fun a f => (f.outcome (withPartition fields)).apply a) {} =
      { b with stateMapper := .identity } := by
  rcases attributeValues_eq_iff.1 htexts with ⟨hid, hschedule, hlast, hpartition, hstate⟩
  rw [← get?_withPartition_of_ne (by decide)] at hid hschedule hlast hstate
  have hpartition' : ((withPartition fields).get? "partition_attribute").getD (.text "id") =
      .text b.partitionAttribute := by
    rw [get?_withPartition]
    exact hpartition
  simp only [attributeFields, List.foldl_cons, List.foldl_nil]
  rw [apply_textField hid rfl, apply_textField hschedule rfl, apply_textField hlast rfl,
    apply_textField hpartition' rfl, apply_textField hstate rfl]

/-- A mapper that is missing is none that could fail. -/
theorem outcome_mapperField_error (hmapper : w.resolve (mapping fields) = .error f) :
    (mapperField w).outcome (withPartition fields) =
      if f.isRefusal then .rejected [⟨["state_value_mapper"], .refused f.message⟩]
      else .abandoned f := by
  have hsame : (withPartition fields).get? "state_value_mapper" =
      fields.get? "state_value_mapper" := get?_withPartition_of_ne (by decide)
  unfold mapping at hmapper
  cases hgiven : fields.get? "state_value_mapper" with
  | none =>
      rw [hgiven] at hmapper
      cases hmapper
  | some v =>
      rw [hgiven, Option.getD_some] at hmapper
      rw [ModelField.outcome_of_some (hsame.trans hgiven)]
      simp only [mapperField, hmapper]

theorem outcome_mapperField_ok (hmapper : w.resolve (mapping fields) = .ok m)
    (hstanding : b.stateMapper = .identity) :
    ((mapperField w).outcome (withPartition fields)).Finished ∧
      ((mapperField w).outcome (withPartition fields)).issues = [] ∧
      ((mapperField w).outcome (withPartition fields)).apply b = { b with stateMapper := m } := by
  have hsame : (withPartition fields).get? "state_value_mapper" =
      fields.get? "state_value_mapper" := get?_withPartition_of_ne (by decide)
  unfold mapping at hmapper
  cases hgiven : fields.get? "state_value_mapper" with
  | none =>
      rw [hgiven] at hmapper
      cases hmapper
      rw [ModelField.outcome_of_none (hsame.trans hgiven)]
      exact ⟨Checked.finished_accepted _, rfl, by rw [← hstanding]; rfl⟩
  | some v =>
      rw [hgiven, Option.getD_some] at hmapper
      rw [ModelField.outcome_of_some (hsame.trans hgiven)]
      simp only [mapperField, hmapper]
      exact ⟨Checked.finished_accepted _, rfl, rfl⟩

theorem ofFields_error (hmapper : w.resolve (mapping fields) = .error f) :
    ofFields w fields =
      if f.isRefusal then
        .rejected
          (notTexts (attributeValues fields (givenPartition fields)) ++
            [⟨["state_value_mapper"], .refused f.message⟩])
      else .abandoned f := by
  have hlast := outcome_mapperField_error hmapper
  cases hrefusal : f.isRefusal with
  | false =>
      rw [hrefusal, if_neg Bool.false_ne_true] at hlast
      rw [if_neg Bool.false_ne_true]
      exact Checked.ofFields_abandoned finished_attributeFields hlast
  | true =>
      rw [hrefusal, if_pos rfl] at hlast
      have hfinished : ∀ f ∈ declared w, (f.outcome (withPartition fields)).Finished := by
        refine List.forall_mem_append.2 ⟨finished_attributeFields, ?_⟩
        exact List.forall_mem_singleton.2 (hlast ▸ Checked.finished_rejected _)
      rw [if_pos rfl, ofFields, Checked.ofFields_of_finished hfinished, declared,
        List.flatMap_append, issues_attributeFields, List.flatMap_singleton, hlast]
      exact Draft.finish_of_ne_nil (by simp [Checked.issues]) _

/-- With a mapper the attributes decide. -/
theorem ofFields_ok (hmapper : w.resolve (mapping fields) = .ok m) :
    ofFields w fields =
      Draft.finish
        ⟨((mapperField w).outcome (withPartition fields)).apply
          (attributeFields.foldl (fun a f => (f.outcome (withPartition fields)).apply a) {}),
          notTexts (attributeValues fields (givenPartition fields))⟩ := by
  rcases outcome_mapperField_ok (b := {}) hmapper rfl with ⟨hlast, hissues, _⟩
  have hfinished : ∀ f ∈ declared w, (f.outcome (withPartition fields)).Finished := by
    refine List.forall_mem_append.2 ⟨finished_attributeFields, ?_⟩
    exact List.forall_mem_singleton.2 hlast
  rw [ofFields, Checked.ofFields_of_finished hfinished, declared, List.flatMap_append,
    issues_attributeFields, List.flatMap_singleton, hissues, List.append_nil, List.foldl_append]
  rfl

end Loop

theorem ofFields_texts (hmapper : w.resolve (mapping fields) = .ok b.stateMapper)
    (htexts : attributeValues fields (givenPartition fields) = b.attributeTexts) :
    ofFields w fields = .accepted b := by
  have hnone : notTexts (attributeValues fields (givenPartition fields)) = [] := by
    rw [htexts]
    rfl
  rw [ofFields_ok hmapper, hnone, foldl_attributeFields htexts,
    (outcome_mapperField_ok hmapper rfl).2.2]
  rfl

theorem exists_attributeTexts (m : StateMapper)
    (hnone : notTexts (attributeValues fields p) = []) :
    ∃ b : CategoryBindings, b.stateMapper = m ∧ attributeValues fields p = b.attributeTexts := by
  rw [notTexts_eq_nil_iff] at hnone
  simp only [attributeValues, List.forall_mem_cons] at hnone
  rcases hnone with ⟨⟨id, hid⟩, ⟨schedule, hschedule⟩, ⟨last, hlast⟩, ⟨partition, hpartition⟩,
    ⟨state, hstate⟩, _⟩
  exact ⟨⟨id, schedule, last, partition, state, m⟩, rfl,
    attributeValues_eq_iff.2 ⟨hid, hschedule, hlast, hpartition, hstate⟩⟩

theorem ofFields_untyped {m : StateMapper} (hmapper : w.resolve (mapping fields) = .ok m)
    (hissues : notTexts (attributeValues fields (givenPartition fields)) ≠ []) :
    ofFields w fields =
      .rejected (notTexts (attributeValues fields (givenPartition fields))) := by
  rw [ofFields_ok hmapper]
  exact Draft.finish_of_ne_nil hissues _

theorem outcome_ofFields (w : World) (fields : Fields) :
    Outcome w (.record fields) (ofFields w fields) := by
  have hp : PartitionValue fields (givenPartition fields) := partitionValue_givenPartition fields
  cases hmapper : w.resolve (mapping fields) with
  | error f =>
      -- A fault decides whatever the attributes are.
      rw [ofFields_error hmapper]
      by_cases hf : f = .emptyModule
      · subst hf
        exact .refused hmapper hp
      · rw [if_neg (fun h => hf (MapperFault.isRefusal_iff.1 h))]
        exact .abandoned hmapper hf
  | ok m =>
      by_cases hissues : notTexts (attributeValues fields (givenPartition fields)) = []
      · rcases exists_attributeTexts m hissues with ⟨b, rfl, htexts⟩
        rw [ofFields_texts hmapper htexts]
        exact .accepted hmapper hp htexts
      · rw [ofFields_untyped hmapper hissues]
        exact .untyped hmapper hp hissues

/-- The rules leave one outcome for every value, and it is the one that comes out. -/
theorem ofValue_eq_iff : ofValue w v = c ↔ Outcome w v c := by
  constructor
  · rintro rfl
    cases v with
    | record fields => exact outcome_ofFields w fields
    | _ => exact .shapeless (by simp)
  · -- Each rule fixes what comes out, so no value has two outcomes.
    intro h
    cases h with
    | shapeless hv =>
        cases v with
        | record fields => exact absurd rfl (hv fields)
        | _ => rfl
    | abandoned hmapper hf =>
        show ofFields w _ = _
        rw [ofFields_error hmapper, if_neg (fun h => hf (MapperFault.isRefusal_iff.1 h))]
    | refused hmapper hp =>
        show ofFields w _ = _
        rw [ofFields_error hmapper, hp.eq]
        rfl
    | untyped hmapper hp hissues =>
        cases hp.eq
        exact ofFields_untyped hmapper hissues
    | accepted hmapper hp htexts =>
        cases hp.eq
        exact ofFields_texts hmapper htexts

end CategoryBindings

/-! ## Outcomes for both categories -/

namespace AttributeBindings

variable {w : World} {fields : Fields} {field : String} {v : Value}
  {c : Checked AttributeBindings} {d : Checked CategoryBindings}

/-- What becomes of the bindings in a field; without them they are the conventional ones. -/
inductive PartOutcome (w : World) (fields : Fields) (field : String) :
    Checked CategoryBindings → Prop where
  | missing (h : fields.get? field = none) : PartOutcome w fields field (.accepted {})
  | given {v : Value} {d : Checked CategoryBindings} (h : fields.get? field = some v)
      (hd : CategoryBindings.Outcome w v d) : PartOutcome w fields field d

/-- A field that is missing keeps what the bindings have, which is the conventional one. -/
theorem PartOutcome.visit_eq {set : CategoryBindings → AttributeBindings → AttributeBindings}
    {draft : Draft AttributeBindings} (h : PartOutcome w fields field d)
    (hstanding : set {} draft.model = draft.model) :
    draft.visit fields (part w field set) =
      match d.within field with
      | .accepted c => .ok { draft with model := set c draft.model }
      | .rejected issues => .ok { draft with issues := draft.issues ++ issues }
      | .abandoned f => .error f := by
  cases h with
  | missing h =>
      simp only [Draft.visit, part, h, Checked.within, hstanding]
  | given h hd =>
      rw [← CategoryBindings.ofValue_eq_iff] at hd
      simp only [Draft.visit, part, h, hd]
      cases d <;> rfl

theorem exists_partOutcome (w : World) (fields : Fields) (field : String) :
    ∃ d, PartOutcome w fields field d := by
  cases h : fields.get? field with
  | none => exact ⟨_, .missing h⟩
  | some v => exact ⟨_, .given h (CategoryBindings.ofValue_eq_iff.1 rfl)⟩

/-- What is rejected has an issue. -/
theorem PartOutcome.issues_ne_nil {issues : List Issue}
    (h : PartOutcome w fields field (.rejected issues)) : issues ≠ [] := by
  cases h with
  | given _ hd =>
      cases hd with
      | shapeless _ => simp
      | refused _ _ => simp
      | untyped _ _ hissues => exact hissues

/-- What becomes of a value: triggers are given up before instances are, and the issues of both are
told in this order. -/
inductive Outcome (w : World) : Value → Checked AttributeBindings → Prop where
  | shapeless {v : Value} (hv : ∀ fields, v ≠ .record fields) :
      Outcome w v (.rejected [⟨[], .notRecord "AttributeBindings"⟩])
  | trigger {fields : Fields} {f : MapperFault}
      (htrigger : PartOutcome w fields "trigger" (.abandoned f)) :
      Outcome w (.record fields) (.abandoned f)
  | instances {fields : Fields} {f : MapperFault} {t : Checked CategoryBindings}
      (htrigger : PartOutcome w fields "trigger" t) (ht : t.Finished)
      (hinstances : PartOutcome w fields "instance" (.abandoned f)) :
      Outcome w (.record fields) (.abandoned f)
  | rejected {fields : Fields} {t i : Checked CategoryBindings}
      (htrigger : PartOutcome w fields "trigger" t) (ht : t.Finished)
      (hinstances : PartOutcome w fields "instance" i) (hi : i.Finished)
      (hissues : t.issues ≠ [] ∨ i.issues ≠ []) :
      Outcome w (.record fields)
        (.rejected
          (t.issues.map (·.within "trigger") ++ i.issues.map (·.within "instance")))
  | accepted {fields : Fields} {t i : CategoryBindings}
      (htrigger : PartOutcome w fields "trigger" (.accepted t))
      (hinstances : PartOutcome w fields "instance" (.accepted i)) :
      Outcome w (.record fields) (.accepted ⟨t, i⟩)

/-- The loop over both fields gives up at the first that is given up, else it joins their issues. -/
theorem ofValue_record {t i : Checked CategoryBindings}
    (htrigger : PartOutcome w fields "trigger" t) (hinstances : PartOutcome w fields "instance" i) :
    ofValue w (.record fields) =
      Checked.both AttributeBindings.mk (t.within "trigger") (i.within "instance") := by
  show Checked.ofFields (declared w) {} fields = _
  rw [Checked.ofFields, declared]
  cases t with
  | abandoned f =>
      rw [Draft.foldlM_cons_error (htrigger.visit_eq rfl)]
      rfl
  | accepted t =>
      rw [Draft.foldlM_cons_ok (htrigger.visit_eq rfl)]
      cases i with
      | abandoned f =>
          rw [Draft.foldlM_cons_error (hinstances.visit_eq rfl)]
          rfl
      | accepted i =>
          rw [Draft.foldlM_cons_ok (hinstances.visit_eq rfl)]
          rfl
      | rejected issues =>
          rw [Draft.foldlM_cons_ok (hinstances.visit_eq rfl)]
          exact Draft.finish_of_ne_nil (by simpa using hinstances.issues_ne_nil) _
  | rejected issues =>
      have hissues : issues ≠ [] := htrigger.issues_ne_nil
      rw [Draft.foldlM_cons_ok (htrigger.visit_eq rfl)]
      cases i with
      | abandoned f =>
          rw [Draft.foldlM_cons_error (hinstances.visit_eq rfl)]
          rfl
      | accepted i =>
          rw [Draft.foldlM_cons_ok (hinstances.visit_eq rfl)]
          exact Draft.finish_of_ne_nil (by simpa using hissues) _
      | rejected others =>
          rw [Draft.foldlM_cons_ok (hinstances.visit_eq rfl)]
          exact Draft.finish_of_ne_nil (by simp [hissues]) _

theorem outcome_ofValue_record (w : World) (fields : Fields) :
    Outcome w (.record fields) (ofValue w (.record fields)) := by
  rcases exists_partOutcome w fields "trigger" with ⟨t, htrigger⟩
  rcases exists_partOutcome w fields "instance" with ⟨i, hinstances⟩
  rw [ofValue_record htrigger hinstances]
  cases t with
  | abandoned f =>
      exact .trigger htrigger
  | accepted t =>
      cases i with
      | abandoned f =>
          exact .instances htrigger (Checked.finished_accepted t) hinstances
      | accepted i =>
          exact .accepted htrigger hinstances
      | rejected issues =>
          exact .rejected htrigger (Checked.finished_accepted t) hinstances
            (Checked.finished_rejected issues) (Or.inr hinstances.issues_ne_nil)
  | rejected issues =>
      have ht : (Checked.rejected issues : Checked CategoryBindings).Finished :=
        Checked.finished_rejected issues
      by_cases hi : i.Finished
      · have hissues : issues ≠ [] := htrigger.issues_ne_nil
        rw [Checked.both_of_finished AttributeBindings.mk ht hi (Or.inl hissues)]
        exact .rejected htrigger ht hinstances hi (Or.inl hissues)
      · -- Only instances that are given up win over the issues of triggers.
        cases i with
        | abandoned f => exact .instances htrigger ht hinstances
        | accepted i => exact absurd (Checked.finished_accepted i) hi
        | rejected js => exact absurd (Checked.finished_rejected js) hi

theorem ofValue_of_outcome (h : Outcome w v c) : ofValue w v = c := by
  cases h with
  | shapeless hv =>
      cases v with
      | record fields => exact absurd rfl (hv fields)
      | _ => rfl
  | trigger htrigger =>
      rename_i fields f
      rcases exists_partOutcome w fields "instance" with ⟨i, hinstances⟩
      exact ofValue_record htrigger hinstances
  | instances htrigger ht hinstances =>
      rename_i f t
      rw [ofValue_record htrigger hinstances]
      cases t with
      | abandoned g => exact absurd rfl (ht g)
      | accepted t => rfl
      | rejected issues => rfl
  | rejected htrigger ht hinstances hi hissues =>
      rw [ofValue_record htrigger hinstances]
      exact Checked.both_of_finished AttributeBindings.mk ht hi hissues
  | accepted htrigger hinstances =>
      exact ofValue_record htrigger hinstances

/-- What comes out of the bindings of a category, and of those of both, is what the rules leave, for
every value and every world. -/
theorem ofValue_eq_iff_outcome (w : World) (v : Value) :
    (∀ c, CategoryBindings.ofValue w v = c ↔ CategoryBindings.Outcome w v c) ∧
      ∀ c, AttributeBindings.ofValue w v = c ↔ AttributeBindings.Outcome w v c := by
  refine ⟨fun c => CategoryBindings.ofValue_eq_iff, ?_⟩
  intro c
  constructor
  · rintro rfl
    cases v with
    | record fields => exact outcome_ofValue_record w fields
    | _ => exact .shapeless (by simp)
  · exact ofValue_of_outcome

/-- An id attribute that is no text is told twice, since the partition attribute follows it. -/
example (w : World) :
    ofValue w (.record [("instance", .record [("id_attribute", .int 5)]), ("trigger", .null)]) =
      .rejected
        [ ⟨["trigger"], .notRecord "CategoryBindings"⟩, ⟨["instance", "id_attribute"], .notText⟩,
          ⟨["instance", "partition_attribute"], .notText⟩ ] := rfl

end AttributeBindings
end PartitionKeys
