import PartitionKeys.Bindings.Checked
import PartitionKeys.Proofs.Except

/-!
# Checked — what comes of looking at one field after another

Every field has an outcome of its own, which does not depend on the fields before it.  As long as
none gives the record up, the issues of all fields are collected and the accepted values change the
model, both in order; the first field to give it up decides, whatever was found before.

* `ModelField.outcome`: what becomes of a field in a record;
* `Draft.visit_eq`, `Draft.visit_abandoned`: one field;
* `Draft.foldlM_visit`: all fields, if none gives the record up;
* `Checked.ofFields_of_finished`, `Checked.ofFields_abandoned`: the model of a record.
-/

namespace PartitionKeys

variable {α : Type} {fields : Fields} {f : ModelField α} {declared front back : List (ModelField α)}
  {standing : α} {fault : MapperFault}

namespace Checked

def issues : Checked α → List Issue
  | .rejected issues => issues
  | _ => []

/-- What an accepted change makes of a model; any other outcome leaves it as it is. -/
def apply : Checked (α → α) → α → α
  | .accepted change, a => change a
  | _, a => a

/-- A validation that runs to its end. -/
def Finished (c : Checked α) : Prop :=
  ∀ f, c ≠ .abandoned f

theorem finished_accepted (a : α) : (accepted a).Finished := by
  rintro f ⟨⟩

theorem finished_rejected (issues : List Issue) : (rejected issues : Checked α).Finished := by
  rintro f ⟨⟩

end Checked

/-! ## One field -/

/-- A field that is not given changes nothing. -/
def ModelField.outcome (f : ModelField α) (fields : Fields) : Checked (α → α) :=
  match fields.get? f.name with
  | none => .accepted id
  | some v => f.check v

theorem ModelField.outcome_of_none (h : fields.get? f.name = none) :
    f.outcome fields = .accepted id := by
  rw [outcome, h]

theorem ModelField.outcome_of_some {v : Value} (h : fields.get? f.name = some v) :
    f.outcome fields = f.check v := by
  rw [outcome, h]

namespace Draft

theorem visit_eq (h : (f.outcome fields).Finished) (d : Draft α) :
    d.visit fields f =
      .ok ⟨(f.outcome fields).apply d.model, d.issues ++ (f.outcome fields).issues⟩ := by
  cases hgiven : fields.get? f.name with
  | none =>
      simp [visit, hgiven, ModelField.outcome_of_none hgiven, Checked.apply, Checked.issues]
  | some v =>
      rw [ModelField.outcome_of_some hgiven] at h ⊢
      cases hcheck : f.check v with
      | accepted change => simp [visit, hgiven, hcheck, Checked.apply, Checked.issues]
      | rejected issues => simp [visit, hgiven, hcheck, Checked.apply, Checked.issues]
      | abandoned fault => exact absurd hcheck (h fault)

theorem visit_abandoned (h : f.outcome fields = .abandoned fault) (d : Draft α) :
    d.visit fields f = .error fault := by
  cases hgiven : fields.get? f.name with
  | none =>
      rw [ModelField.outcome_of_none hgiven] at h
      cases h
  | some v =>
      rw [ModelField.outcome_of_some hgiven] at h
      simp [visit, hgiven, h]

theorem finish_of_ne_nil {issues : List Issue} (h : issues ≠ []) (a : α) :
    finish ⟨a, issues⟩ = .rejected issues :=
  if_neg (by simpa using h)

/-! ## All fields -/

theorem foldlM_cons_ok {d e : Draft α} (h : d.visit fields f = .ok e) :
    (f :: back).foldlM (visit fields) d = back.foldlM (visit fields) e := by
  rw [List.foldlM_cons, h]
  rfl

theorem foldlM_cons_error {d : Draft α} (h : d.visit fields f = .error fault) :
    (f :: back).foldlM (visit fields) d = .error fault := by
  rw [List.foldlM_cons, h]
  rfl

/-- The invariant of the loop: a draft has the changes and the issues of the fields looked at. -/
theorem foldlM_visit (h : ∀ f ∈ declared, (f.outcome fields).Finished) (d : Draft α) :
    declared.foldlM (visit fields) d =
      .ok ⟨declared.foldl (fun a f => (f.outcome fields).apply a) d.model,
        d.issues ++ declared.flatMap fun f => (f.outcome fields).issues⟩ := by
  induction declared generalizing d with
  | nil =>
      simp only [List.foldlM_nil, List.foldl_nil, List.flatMap_nil, List.append_nil]
      rfl
  | cons f rest ih =>
      rw [List.forall_mem_cons] at h
      rw [foldlM_cons_ok (visit_eq h.1 d), ih h.2, List.foldl_cons, List.flatMap_cons,
        List.append_assoc]

end Draft

namespace Checked

theorem ofFields_of_finished (h : ∀ f ∈ declared, (f.outcome fields).Finished) :
    ofFields declared standing fields =
      Draft.finish ⟨declared.foldl (fun a f => (f.outcome fields).apply a) standing,
        declared.flatMap fun f => (f.outcome fields).issues⟩ := by
  rw [ofFields, Draft.foldlM_visit h]
  rfl

theorem ofFields_abandoned (hfront : ∀ f ∈ front, (f.outcome fields).Finished)
    (h : f.outcome fields = .abandoned fault) :
    ofFields (front ++ f :: back) standing fields = .abandoned fault := by
  have hloop : (front ++ f :: back).foldlM (Draft.visit fields) { model := standing } =
      .error fault := by
    rw [List.foldlM_append, Draft.foldlM_visit hfront]
    exact Draft.foldlM_cons_error (Draft.visit_abandoned h _)
  rw [ofFields, hloop]

end Checked
end PartitionKeys
