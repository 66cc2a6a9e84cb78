import PartitionKeys.Hierarchy.Climb
import PartitionKeys.Traced

/-!
# Coverage — which types the rows of a type's storage region may have

Querying a type also returns the rows of the types below it.  The line of a concrete participant is
itself and the non-abstract types above it; abstract types are passed through.  A representative is
a type on some line, and it covers the participants on whose lines it stands, itself first.

* `Index.line`: the line of a participant, or the first fault of its climb;
* `Index.cover`: all representatives with what they cover, in catalog order;
* `Coverage.ofCatalog`: indexes a catalog and covers it, emitting one event on success.
-/

namespace PartitionKeys

structure Coverage.Entry where
  representative : TypeId
  covered : List TypeId
  deriving DecidableEq, Repr

structure Coverage where
  entries : List Coverage.Entry
  deriving DecidableEq, Repr

namespace Coverage

def representatives (c : Coverage) : List TypeId :=
  c.entries.map (·.representative)

/-- Representatives that cover more than one type. -/
def shared (c : Coverage) : Nat :=
  (c.entries.filter (fun e => 1 < e.covered.length)).length

end Coverage

namespace Index

variable {h : Hierarchy}

/-! ## Lines -/

def participants (i : Index h) : List TypeId :=
  i.members.filter h.isConcreteParticipant

/-- A non-abstract type above a participant must share its category or take no part. -/
def clashes (h : Hierarchy) (t ancestor : TypeId) : Bool :=
  !h.isAbstract ancestor && h.category ancestor != h.category t &&
    h.category ancestor != .neither

/-- A clash counts before a circle further up. -/
def line (i : Index h) (t : TypeId) : Except Failure (List TypeId) :=
  let climb := i.climb t
  match climb.passed.find? (clashes h t) with
  | some a => .error (.mixedChain (h.name t) (h.category t) (h.category a) (h.name a))
  | none =>
      match climb.stop with
      | .revisits u => .error (.cyclicChain (h.name t) (h.name u))
      | .ended => .ok (t :: climb.passed.filter (fun a => !h.isAbstract a))

/-- The lines of types, each with the type it starts from. -/
def lines (i : Index h) : List TypeId → Except Failure (List (TypeId × List TypeId))
  | [] => .ok []
  | t :: rest =>
      match i.line t with
      | .error f => .error f
      | .ok line =>
          match i.lines rest with
          | .error f => .error f
          | .ok further => .ok ((t, line) :: further)

/-! ## Covering -/

/-- A type among others comes first. -/
def leading (r : TypeId) (ts : List TypeId) : List TypeId :=
  if ts.contains r then r :: ts.filter (· != r) else ts

def coveredBy (ls : List (TypeId × List TypeId)) (r : TypeId) : List TypeId :=
  (ls.filter (fun l => l.2.contains r)).map (·.1)

def entryFor (ls : List (TypeId × List TypeId)) (r : TypeId) : Option Coverage.Entry :=
  let covered := coveredBy ls r
  if covered.isEmpty then none else some ⟨r, leading r covered⟩

def cover (i : Index h) : Except Failure Coverage :=
  match i.lines i.participants with
  | .error f => .error f
  | .ok ls => .ok ⟨i.members.filterMap (entryFor ls)⟩

end Index

namespace Coverage

/-- The coverage of a catalog and the number of types it lists. -/
def count (h : Hierarchy) (catalog : List TypeId) : Except Failure (Nat × Coverage) :=
  match Index.ofCatalog (h := h) catalog with
  | .error f => .error f
  | .ok i =>
      match i.cover with
      | .error f => .error f
      | .ok c => .ok (i.members.length, c)

def ofCatalog (h : Hierarchy) (catalog : List TypeId) : Traced Coverage := do
  let (types, c) ← Traced.ofExcept (count h catalog)
  Traced.emit (.hierarchyFlattened types c.entries.length c.shared)
  return c

end Coverage
end PartitionKeys
