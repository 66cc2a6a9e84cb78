import PartitionKeys.Bindings.Attributes
import PartitionKeys.Hierarchy.Coverage
import PartitionKeys.Template.Check

/-!
# PartitionKey — one query region of the job engine

A key stands for one representative type.  It has a predicate exactly when the region of the
representative also holds rows of other types.

* `PartitionKey.ofEntry`: the key of a coverage entry;
* `PartitionKey.predicateFor`: the predicate fragment for a query alias;
* `PartitionKey.same`: equal in everything but the class described.
-/

namespace PartitionKeys

structure PartitionKey where
  name : String
  category : Category
  bindings : CategoryBindings
  predicate : Option Predicate
  covered : List String
  source : Option ClassId

namespace PartitionKey

def ofEntry (h : Hierarchy) (bindings : CategoryBindings) (template : String)
    (e : Coverage.Entry) : PartitionKey where
  name := h.name e.representative
  category := h.category e.representative
  bindings
  predicate :=
    if e.covered.any (· != e.representative) then some ⟨h.name e.representative, template⟩
    else none
  covered := e.covered.map h.name
  source := (h.get e.representative).source

def predicateFor (k : PartitionKey) (queryAlias : String) : Except Template.Fault (Option String) :=
  match k.predicate with
  | none => .ok none
  | some p => (p.fragment queryAlias).map some

def stored (k : PartitionKey) (s : State) : Except String Stored :=
  k.bindings.stateMapper.run s

def same (a b : PartitionKey) : Bool :=
  a.name == b.name && a.category == b.category && a.bindings.same b.bindings &&
    a.predicate == b.predicate && a.covered == b.covered

end PartitionKey
end PartitionKeys
