import PartitionKeys.Hierarchy.Basic

/-!
# ClassGraph — classes with any number of bases

A class is identified by its position; its bases stand before it.  The first two classes are the
markers of triggers and instances.

* `RecordClass`: what a class declares itself;
* `ClassGraph.add`: a graph with one more class.
-/

namespace PartitionKeys

structure RecordClass where
  name : String
  bases : List ClassId := []
  methods : List String := []
  /-- The methods that the metaclass of the class records as open.  A class whose metaclass keeps
  no such record has none, whatever its methods are marked with. -/
  abstractMethods : List String := []
  /-- The value by which the class marks itself as abstract. -/
  flag : Value := .null
  /-- The registry that maps the class, if one does. -/
  registry : Option String := none
  deriving Inhabited

namespace RecordClass

def defines (c : RecordClass) (method : String) : Bool :=
  c.methods.contains method || c.abstractMethods.contains method

end RecordClass

structure ClassGraph where
  classes : Array RecordClass := #[{ name := "JobTrigger" }, { name := "JobInstance" }]

namespace ClassGraph

def triggerMarker : ClassId := 0

def instanceMarker : ClassId := 1

def size (g : ClassGraph) : Nat :=
  g.classes.size

def get (g : ClassGraph) (c : ClassId) : RecordClass :=
  g.classes.getD c default

def name (g : ClassGraph) (c : ClassId) : String :=
  (g.get c).name

def add (g : ClassGraph) (c : RecordClass) : ClassGraph :=
  ⟨g.classes.push c⟩

/-- All classes, in order. -/
def all (g : ClassGraph) : List ClassId :=
  List.range g.size

end ClassGraph
end PartitionKeys
