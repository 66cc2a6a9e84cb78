/-!
# Kind — what the values of a kind offer

Every value is of a kind, and a kind refines a base.  A kind offers members under names: operators
and methods, which are bound to a value, and attributes, which are read from it.

* `Member`: one name that a kind offers, with its parameters and its help text;
* `Kind`: a kind with its own members;
* `Kind.member?`: the member under a name.
-/

namespace PartitionKeys
namespace Template

inductive Member.Form where
  /-- Stands behind an operator of the language of expressions. -/
  | operator
  | method
  /-- A method of the kind itself. -/
  | kindMethod
  /-- An attribute computed from the value. -/
  | computed
  /-- An attribute kept in the value. -/
  | stored
  /-- Makes values of the kind. -/
  | maker
  /-- A method bound to nothing. -/
  | standalone
  /-- The help text itself. -/
  | help
  | nothing
  deriving DecidableEq, Repr

structure Member where
  name : String
  form : Member.Form
  parameters : Option String := none
  help : Option String := none
  deriving DecidableEq, Repr

namespace Member

/-- Attributes come before all that a value holds itself. -/
def isAttribute (m : Member) : Bool :=
  m.form == .computed || m.form == .stored

end Member

structure Kind.Sizes where
  basic : Nat := 0
  item : Nat := 0
  flags : Nat := 0
  recordOffset : Nat := 0
  referenceOffset : Nat := 0
  deriving DecidableEq, Repr

structure Kind where
  name : String
  /-- The name without the place where the kind is at home. -/
  shortName : String
  home : String := "builtins"
  base : Option String := none
  sizes : Kind.Sizes := {}
  parameters : Option String := none
  help : Option String := none
  members : List Member := []
  deriving Repr

namespace Kind

def member? (k : Kind) (name : String) : Option Member :=
  k.members.find? (·.name == name)

end Kind
end Template
end PartitionKeys
