import PartitionKeys.Key.Basic
import PartitionKeys.Settings.Basic

/-!
# KeyRing — the keys of both categories

* `KeyRing.ofCoverage`: one key for each representative that takes part, by name within its
  category; the others are skipped with an event;
* `KeyRing.derive`: the keys of a catalog, from its coverage to the last event;
* `KeyRing.ofSettings`: the same by settings.
-/

namespace PartitionKeys

structure KeyRing where
  triggers : List PartitionKey
  instances : List PartitionKey

namespace KeyRing

/-- All keys, those of triggers first. -/
def keys (r : KeyRing) : List PartitionKey :=
  r.triggers ++ r.instances

/-! ## Keys of a coverage -/

def byName (a b : PartitionKey) : Bool :=
  decide (a.name ≤ b.name)

/-- The keys of one category, by name; keys of one name keep their order. -/
def keysOf (h : Hierarchy) (bindings : CategoryBindings) (template : String) (c : Category)
    (entries : List Coverage.Entry) : List PartitionKey :=
  ((entries.filter (fun e => h.category e.representative == c)).map
    (PartitionKey.ofEntry h bindings template)).mergeSort byName

def ofEntries (h : Hierarchy) (b : AttributeBindings) (template : String)
    (entries : List Coverage.Entry) : KeyRing where
  triggers := keysOf h b.trigger template .jobTrigger entries
  instances := keysOf h b.instances template .jobInstance entries

def skipped (h : Hierarchy) (entries : List Coverage.Entry) : List Event :=
  (entries.filter (fun e => !(h.category e.representative).participates)).map fun e =>
    .keySkipped (h.name e.representative) (e.covered.map h.name)

def ofCoverage (h : Hierarchy) (bindings : Option AttributeBindings) (template : String)
    (c : Coverage) : Traced KeyRing :=
  match bindings with
  | none => Traced.fail .missingBindings
  | some b =>
      match Template.check template with
      | .error f => Traced.fail f
      | .ok () => ⟨skipped h c.entries, .ok (ofEntries h b template c.entries)⟩

/-! ## Keys of a catalog -/

/-- What a catalog lists, together with the hierarchy it lists from. -/
structure Listing where
  hierarchy : Hierarchy
  types : List TypeId

def derive (l : Listing) (b : AttributeBindings) (template : String) : Traced KeyRing := do
  let c ← Coverage.ofCatalog l.hierarchy l.types
  let ring ← ofCoverage l.hierarchy (some b) template c
  Traced.emit
    (.keysBuilt (ring.triggers.map (·.name)) (ring.instances.map (·.name)))
  return ring

/-- Without a catalog there is nothing to derive from; a catalog lists its types on demand. -/
def ofCatalog (catalog : Option (Traced Listing)) (b : AttributeBindings) (template : String) :
    Traced KeyRing :=
  match catalog with
  | none => Traced.fail .missingCatalog
  | some listing => do derive (← listing) b template

/-- The bindings that settings give are known before the catalog is asked. -/
def ofSettings (w : World) (catalog : Option (Traced Listing)) (s : Settings) :
    Traced KeyRing := do
  let b ← Traced.ofExcept (s.bindings w)
  ofCatalog catalog b s.predicateTemplate

def same (a b : List PartitionKey) : Bool :=
  a.length == b.length && (a.zip b).all fun p => p.1.same p.2

end KeyRing
end PartitionKeys
