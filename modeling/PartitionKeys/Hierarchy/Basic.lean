import PartitionKeys.Job.Category

/-!
# Hierarchy — record types with single supertype links

A type is identified by its position in a store of descriptors, so that two types may share a name.
Supertype links are arbitrary: they may lead to types that no catalog lists, and in circles.  A
catalog lists types in any order, with repeats.

* `TypeDescriptor`: what is known of a type;
* `Hierarchy`: the store of descriptors;
* `Hierarchy.isConcreteParticipant`: not abstract, and a trigger or an instance.
-/

namespace PartitionKeys

/-- The position of a type in its hierarchy. -/
abbrev TypeId := Nat

/-- The position of a class in its class graph. -/
abbrev ClassId := Nat

structure TypeDescriptor where
  name : String
  isAbstract : Bool := false
  supertype : Option TypeId := none
  category : Category := .neither
  /-- The class that a class catalog describes. -/
  source : Option ClassId := none
  deriving DecidableEq, Repr

instance : Inhabited TypeDescriptor := ⟨{ name := "" }⟩

namespace TypeDescriptor

def participates (d : TypeDescriptor) : Bool :=
  d.category.participates

def isConcreteParticipant (d : TypeDescriptor) : Bool :=
  !d.isAbstract && d.participates

end TypeDescriptor

structure Hierarchy where
  descriptors : Array TypeDescriptor := #[]

namespace Hierarchy

def get (h : Hierarchy) (t : TypeId) : TypeDescriptor :=
  h.descriptors.getD t default

def name (h : Hierarchy) (t : TypeId) : String :=
  (h.get t).name

def isAbstract (h : Hierarchy) (t : TypeId) : Bool :=
  (h.get t).isAbstract

def supertype (h : Hierarchy) (t : TypeId) : Option TypeId :=
  (h.get t).supertype

def category (h : Hierarchy) (t : TypeId) : Category :=
  (h.get t).category

def isConcreteParticipant (h : Hierarchy) (t : TypeId) : Bool :=
  (h.get t).isConcreteParticipant

def size (h : Hierarchy) : Nat :=
  h.descriptors.size

/-- Adds a type and tells its position. -/
def add (h : Hierarchy) (d : TypeDescriptor) : TypeId × Hierarchy :=
  (h.size, ⟨h.descriptors.push d⟩)

def link (h : Hierarchy) (t : TypeId) (supertype : Option TypeId) : Hierarchy :=
  ⟨h.descriptors.modify t fun d => { d with supertype }⟩

/-- All types, in order. -/
def all (h : Hierarchy) : List TypeId :=
  List.range h.size

theorem isConcreteParticipant_iff {h : Hierarchy} {t : TypeId} :
    h.isConcreteParticipant t = true ↔ h.isAbstract t = false ∧ h.category t ≠ .neither := by
  simp [isConcreteParticipant, isAbstract, category, TypeDescriptor.isConcreteParticipant,
    TypeDescriptor.participates, Category.participates]

end Hierarchy
end PartitionKeys
