import PartitionKeys.Failure

/-!
# Checked — models validated field by field

A model declares its fields, and a record is checked against them in the order of the declaration.
A field that is not given keeps what the model has, without a check; a value that is refused adds
its issues, and the next field is looked at all the same.  Only a fault that is no issue gives the
record up at once, together with all that was found before it.

* `Checked`: accepted, rejected with all issues, or given up at a mapper that cannot be resolved;
* `ModelField`: a declared field and what its values do to the model;
* `Checked.ofFields`: the model of a record.
-/

namespace PartitionKeys

inductive Checked (α : Type) where
  | accepted (a : α)
  | rejected (issues : List Issue)
  | abandoned (fault : MapperFault)

namespace Checked

variable {α β : Type}

def map (f : α → β) : Checked α → Checked β
  | .accepted a => .accepted (f a)
  | .rejected issues => .rejected issues
  | .abandoned fault => .abandoned fault

def within (field : String) : Checked α → Checked α
  | .rejected issues => .rejected (issues.map (·.within field))
  | c => c

def toExcept : Checked α → Except Failure α
  | .accepted a => .ok a
  | .rejected issues => .error (.invalid issues)
  | .abandoned f => .error (.mapper f)

end Checked

/-! ## Declared fields -/

structure ModelField (α : Type) where
  name : String
  /-- How a value changes the model, if it may. -/
  check : Value → Checked (α → α)

/-- A model some of whose fields have been looked at, with the issues of those. -/
structure Draft (α : Type) where
  model : α
  issues : List Issue := []

namespace Draft

variable {α : Type}

def visit (fields : Fields) (d : Draft α) (f : ModelField α) : Except MapperFault (Draft α) :=
  match fields.get? f.name with
  | none => .ok d
  | some v =>
      match f.check v with
      | .accepted change => .ok { d with model := change d.model }
      | .rejected issues => .ok { d with issues := d.issues ++ issues }
      | .abandoned fault => .error fault

def finish (d : Draft α) : Checked α :=
  if d.issues.isEmpty then .accepted d.model else .rejected d.issues

end Draft

def Checked.ofFields {α : Type} (declared : List (ModelField α)) (standing : α) (fields : Fields) :
    Checked α :=
  match declared.foldlM (Draft.visit fields) { model := standing } with
  | .error fault => .abandoned fault
  | .ok d => d.finish

end PartitionKeys
