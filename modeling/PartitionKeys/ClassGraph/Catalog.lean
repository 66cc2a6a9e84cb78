import PartitionKeys.ClassGraph.Linearization
import PartitionKeys.Classification
import PartitionKeys.Key.KeyRing

/-!
# ClassCatalog — catalogs that describe classes

A catalog of classes lists some classes of a graph and knows the supertype of each class.  It makes
a descriptor for each class that it lists, and one for a supertype first, listed or not.  What has
been made is kept, so that no class is described twice and subtypes share the descriptor of their
supertype.  A class with both markers is refused unless the policy prefers one.

* `Described`: the descriptors made so far, with the classes that they are kept for;
* `ClassCatalog.describe`, `ClassCatalog.describeAll`: what is kept, or made after its supertype;
* `ClassCatalog.listing`: the descriptors of a catalog, with one event;
* `ClassCatalog.ofClasses`: any classes; the supertype is the nearest listed one of the lineage;
* `ClassCatalog.registryOf`: the registry of a target, if it has one;
* `ClassCatalog.ofRegistry`: the classes of a registry, by name; the supertype is the mapped base.
-/

namespace PartitionKeys

/-- The descriptors that have been made, each kept for its class; the last one stands first. -/
structure Described where
  hierarchy : Hierarchy := {}
  kept : List (ClassId × TypeId) := []

namespace Described

def find? (d : Described) (k : ClassId) : Option TypeId :=
  d.kept.lookup k

def keep (d : Described) (k : ClassId) (descriptor : TypeDescriptor) : TypeId × Described :=
  let (t, hierarchy) := d.hierarchy.add descriptor
  (t, { hierarchy, kept := (k, t) :: d.kept })

end Described

structure ClassCatalog where
  lineages : Lineages
  source : CatalogSource
  listed : List ClassId
  parent : ClassId → Option ClassId
  nameOf : ClassId → String
  triggerMarker : ClassId := ClassGraph.triggerMarker
  instanceMarker : ClassId := ClassGraph.instanceMarker
  policy : Policy := .reject

namespace ClassCatalog

/-! ## Describing classes -/

def classify (c : ClassCatalog) (k : ClassId) : Except Failure Category :=
  Category.classify (.text (c.nameOf k)) (c.lineages.isSubclass k c.triggerMarker)
    (c.lineages.isSubclass k c.instanceMarker) (some c.policy)

def descriptor (c : ClassCatalog) (k : ClassId) (supertype : Option TypeId) (category : Category) :
    TypeDescriptor where
  name := c.nameOf k
  isAbstract := c.lineages.isAbstract k
  supertype
  category
  source := some k

/-- A new descriptor, whose supertype is described already. -/
def create (c : ClassCatalog) (k : ClassId) (supertype : Option TypeId) (d : Described) :
    Except Failure (TypeId × Described) := do
  let category ← c.classify k
  return d.keep k (c.descriptor k supertype category)

/-- What is kept for a class, or a new descriptor after that of its supertype.  A supertype stands
before its subtypes in the graph; one that does not would be left out. -/
def describe (c : ClassCatalog) (k : ClassId) (d : Described) :
    Except Failure (TypeId × Described) :=
  match d.find? k with
  | some t => .ok (t, d)
  | none =>
      match c.parent k with
      | none => c.create k none d
      | some p =>
          if p < k then do
            let (t, d) ← c.describe p d
            c.create k (some t) d
          else c.create k none d
termination_by k

def describeAll (c : ClassCatalog) :
    List ClassId → Described → Except Failure (List TypeId × Described)
  | [], d => .ok ([], d)
  | k :: rest, d => do
      let (t, d) ← c.describe k d
      let (types, d) ← c.describeAll rest d
      return (t :: types, d)

def listing (c : ClassCatalog) : Traced KeyRing.Listing := do
  let (types, d) ← Traced.ofExcept (c.describeAll c.listed {})
  Traced.emit (.catalogLoaded c.source types.length)
  return ⟨d.hierarchy, types⟩

/-! ## Kinds of catalogs -/

def nearestListed (l : Lineages) (listed : List ClassId) (k : ClassId) : Option ClassId :=
  (l.lineage k).tail.find? listed.contains

def ofClasses (l : Lineages) (classes : List ClassId) (triggerMarker instanceMarker : ClassId)
    (policy : Policy) (nameOf : ClassId → String) : ClassCatalog :=
  let listed := classes.eraseDups
  { lineages := l, source := .classes, listed, parent := nearestListed l listed, nameOf,
    triggerMarker, instanceMarker, policy }

/-- What a target may turn out to be. -/
inductive Base where
  | registry (name : String)
  | value (v : Value)

def registryOf : Base → Except Failure String
  | .registry name => .ok name
  | .value .null => .error .missingBase
  | .value v => .error (.noRegistry v)

def mappedBase (g : ClassGraph) (k : ClassId) : Option ClassId :=
  (g.get k).bases.find? fun b => (g.get b).registry.isSome

def ofRegistry (l : Lineages) (registry : String) (policy : Policy) : ClassCatalog :=
  let g := l.graph
  let mapped := g.all.filter fun k => (g.get k).registry == some registry
  { lineages := l, source := .registry, parent := mappedBase g, nameOf := g.name, policy,
    listed := mapped.mergeSort fun a b => decide (g.name a ≤ g.name b) }

end ClassCatalog
end PartitionKeys
