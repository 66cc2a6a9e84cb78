import PartitionKeys.ClassGraph.Basic
import PartitionKeys.Failure

/-!
# Linearization — one order for all superclasses

The linearization of a class starts with the class itself and merges the linearizations of its
bases and the list of its bases: each step takes the leftmost head that stands in no tail.

* `Linearization.merge`: the merge, or the heads that are left when none can be taken;
* `ClassGraph.linearized`: the linearizations of all classes, or the first failure;
* `Lineages.isSubclass`, `Lineages.isAbstract`: what follows from them.
-/

namespace PartitionKeys
namespace Linearization

abbrev Rows := List (List ClassId)

/-! ## Merging -/

def eligible (rows : Rows) (c : ClassId) : Bool :=
  rows.all fun r => !r.tail.contains c

def choose? (rows : Rows) : Option ClassId :=
  (rows.filterMap List.head?).find? (eligible rows)

def advanceRow (c : ClassId) : List ClassId → List ClassId
  | [] => []
  | head :: tail => if head = c then tail else head :: tail

def advance (rows : Rows) (c : ClassId) : Rows :=
  rows.map (advanceRow c)

def weight (rows : Rows) : Nat :=
  rows.foldr (fun r n => r.length + n) 0

theorem advanceRow_length_le (c : ClassId) (r : List ClassId) :
    (advanceRow c r).length ≤ r.length := by
  cases r with
  | nil =>
      simp [advanceRow]
  | cons head tail =>
      simp only [advanceRow]
      split <;> simp

theorem weight_advance_le (rows : Rows) (c : ClassId) : weight (advance rows c) ≤ weight rows := by
  induction rows with
  | nil =>
      simp [advance, weight]
  | cons r rest ih =>
      have hr := advanceRow_length_le c r
      simp only [advance, weight, List.map_cons, List.foldr_cons] at ih ⊢
      omega

theorem weight_advance_lt {rows : Rows} {c : ClassId} (h : c ∈ rows.filterMap List.head?) :
    weight (advance rows c) < weight rows := by
  induction rows with
  | nil =>
      simp at h
  | cons r rest ih =>
      have hle := weight_advance_le rest c
      have hr := advanceRow_length_le c r
      rw [List.filterMap_cons] at h
      simp only [advance, weight, List.map_cons, List.foldr_cons] at ih hle ⊢
      cases r with
      | nil =>
          simp only [List.head?_nil] at h
          have := ih h
          simp only [advanceRow, List.length_nil]
          omega
      | cons head tail =>
          simp only [List.head?_cons, List.mem_cons] at h
          by_cases hc : head = c
          · simp only [advanceRow, hc, if_true, List.length_cons]
            omega
          · have := ih (h.resolve_left fun e => hc e.symm)
            omega

def merge (rows : Rows) : Except Rows (List ClassId) :=
  match _h : choose? rows with
  | none => if rows.all List.isEmpty then .ok [] else .error rows
  | some c => (merge (advance rows c)).map (c :: ·)
termination_by weight rows
decreasing_by
  exact weight_advance_lt (List.mem_of_find?_eq_some _h)

/-! ## Linearizing a class -/

def ofBases (lineage : ClassId → List ClassId) (c : ClassId) (bases : List ClassId) :
    Except Rows (List ClassId) :=
  (merge (bases.map lineage ++ [bases])).map (c :: ·)

/-- Some base stands twice. -/
def repeated? : List ClassId → Option ClassId
  | [] => none
  | c :: rest => if rest.contains c then some c else repeated? rest

/-- The names of the classes that block each other, each class once; a base used up leaves the
root of all classes. -/
def blocking (g : ClassGraph) (rows : Rows) : List String :=
  let heads := rows.dropLast.map List.head? ++
    (rows.getLast?.getD []).head?.toList.map some
  heads.eraseDups.map fun c => (c.map g.name).getD "object"

end Linearization

/-! ## All classes of a graph -/

/-- The linearization of each class of a graph. -/
structure Lineages where
  graph : ClassGraph
  rows : Array (List ClassId)

namespace Lineages

def lineage (l : Lineages) (c : ClassId) : List ClassId :=
  l.rows.getD c [c]

/-- One more class, whose bases stand before it. -/
def extend (l : Lineages) (c : ClassId) : Except Failure Lineages :=
  let bases := (l.graph.get c).bases
  if (l.graph.name c).toList.contains (Char.ofNat 0) then .error .nullInName
  else
    match Linearization.repeated? bases with
    | some b => .error (.repeatedBase (l.graph.name b))
    | none =>
        match Linearization.ofBases l.lineage c bases with
        | .error rows => .error (.noLinearization (Linearization.blocking l.graph rows))
        | .ok row => .ok { l with rows := l.rows.push row }

def extendAll (l : Lineages) : List ClassId → Except Failure Lineages
  | [] => .ok l
  | c :: rest =>
      match l.extend c with
      | .error f => .error f
      | .ok l => l.extendAll rest

/-! ## What follows from the lineages -/

/-- Subclassing by name only: a class that is not in the lineage is no ancestor, whatever it has in
common with one, and no class says of itself which others it takes in. -/
def isSubclass (l : Lineages) (c ancestor : ClassId) : Bool :=
  (l.lineage c).contains ancestor

/-- The class that a method of `c` comes from: the first of its lineage that defines it. -/
def definer? (l : Lineages) (c : ClassId) (method : String) : Option ClassId :=
  (l.lineage c).find? fun d => (l.graph.get d).defines method

def isUnimplemented (l : Lineages) (c : ClassId) (method : String) : Bool :=
  match l.definer? c method with
  | some d => (l.graph.get d).abstractMethods.contains method
  | none => false

def hasUnimplemented (l : Lineages) (c : ClassId) : Bool :=
  (l.lineage c).any fun d => (l.graph.get d).abstractMethods.any (l.isUnimplemented c)

/-- A method left open, or the class's own mark. -/
def isAbstract (l : Lineages) (c : ClassId) : Bool :=
  l.hasUnimplemented c || (l.graph.get c).flag.isTruthy

end Lineages

def ClassGraph.linearized (g : ClassGraph) : Except Failure Lineages :=
  Lineages.extendAll ⟨g, #[]⟩ g.all

end PartitionKeys
