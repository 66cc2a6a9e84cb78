import PartitionKeys.Failure
import PartitionKeys.Hierarchy.Basic

/-!
# Index — the types of a catalog by name

An index holds each listed type once, in order of first occurrence, and no two types of one name.

* `Index.ofCatalog`: the index of a catalog, or the first name that two types share;
* `Index.lists`: a type is listed when it is the very type of its name;
* `Index.lists_iff`: the listed types are the members.
-/

namespace PartitionKeys

structure Index (h : Hierarchy) where
  members : List TypeId
  distinct : (members.map h.name).Nodup

namespace Index

variable {h : Hierarchy}

def empty : Index h where
  members := []
  distinct := List.nodup_nil

def find? (i : Index h) (name : String) : Option TypeId :=
  i.members.find? (fun t => h.name t == name)

def lists (i : Index h) (t : TypeId) : Bool :=
  i.find? (h.name t) == some t

/-! ## Membership -/

theorem find?_eq_none_iff {i : Index h} {name : String} :
    i.find? name = none ↔ name ∉ i.members.map h.name := by
  simp only [find?, List.find?_eq_none, beq_iff_eq, List.mem_map, not_exists, not_and]

theorem find?_of_mem {i : Index h} {t : TypeId} (ht : t ∈ i.members) :
    i.find? (h.name t) = some t := by
  have key : ∀ {ms : List TypeId}, (ms.map h.name).Nodup → t ∈ ms →
      ms.find? (fun u => h.name u == h.name t) = some t := by
    intro ms
    induction ms with
    | nil =>
        intro _ hm
        cases hm
    | cons m rest ih =>
        intro hd hm
        rw [List.map_cons, List.nodup_cons] at hd
        rw [List.find?_cons]
        by_cases hn : h.name m = h.name t
        · rcases List.mem_cons.1 hm with rfl | hr
          · simp
          · exact absurd (List.mem_map.2 ⟨t, hr, hn.symm⟩) hd.1
        · rcases List.mem_cons.1 hm with rfl | hr
          · exact absurd rfl hn
          · have hb : (h.name m == h.name t) = false := by
              simpa using hn
            rw [hb]
            exact ih hd.2 hr
  exact key i.distinct ht

theorem lists_iff {i : Index h} {t : TypeId} : i.lists t = true ↔ t ∈ i.members := by
  constructor
  · intro hl
    have hf : i.find? (h.name t) = some t := by
      simpa [lists] using hl
    exact List.mem_of_find?_eq_some hf
  · intro hm
    simp [lists, find?_of_mem hm]

/-! ## Building an index -/

def append (i : Index h) (t : TypeId) (fresh : i.find? (h.name t) = none) : Index h where
  members := i.members ++ [t]
  distinct := by
    rw [List.map_append, List.nodup_append]
    refine ⟨i.distinct, by simp, ?_⟩
    intro a ha b hb hab
    simp only [List.map_cons, List.map_nil, List.mem_singleton] at hb
    subst hb
    exact find?_eq_none_iff.1 fresh (hab ▸ ha)

def insert (i : Index h) (t : TypeId) : Except Failure (Index h) :=
  match fresh : i.find? (h.name t) with
  | none => .ok (i.append t fresh)
  | some known => if known = t then .ok i else .error (.duplicateName (h.name t))

def insertAll (i : Index h) : List TypeId → Except Failure (Index h)
  | [] => .ok i
  | t :: rest =>
      match i.insert t with
      | .error f => .error f
      | .ok i => i.insertAll rest

def ofCatalog (catalog : List TypeId) : Except Failure (Index h) :=
  empty.insertAll catalog

end Index
end PartitionKeys
