import PartitionKeys.Hierarchy.Coverage
import PartitionKeys.Proofs.Hierarchy.Climb

/-!
# Line — the types whose storage regions hold the rows of a participant

A line keeps the non-abstract types of a climb.  What makes a climb the right thing to keep is that
it misses no type that can be reached, so a line can be told without it.

* `Index.line_eq_ok`: a line without fault;
* `Index.mem_line_iff`: the line of a participant, by what it reaches;
* `Index.category_of_line`: the participating types on a line share a category;
* `Index.coveredBy_eq_filter`: a type covers the participants under it.
-/

namespace PartitionKeys

open scoped Classical

namespace Index

variable {h : Hierarchy} {i : Index h} {t r : TypeId} {line : List TypeId}

/-! ## Lines -/

theorem mem_participants :
    t ∈ i.participants ↔ t ∈ i.members ∧ h.isConcreteParticipant t = true := by
  simp [participants]

/-- A line without fault: no clash was passed, no circle met, and abstract types are left out. -/
theorem line_eq_ok :
    i.line t = .ok line ↔
      (∀ a ∈ (i.climb t).passed, clashes h t a = false) ∧ (i.climb t).stop = .ended ∧
        t :: (i.climb t).passed.filter (fun a => !h.isAbstract a) = line := by
  simp only [Index.line]
  have hnone : (∀ a ∈ (i.climb t).passed, clashes h t a = false) ↔
      (i.climb t).passed.find? (clashes h t) = none := by
    simp
  rw [hnone]
  cases (i.climb t).passed.find? (clashes h t) with
  | some a => simp
  | none =>
      cases (i.climb t).stop with
      | revisits u => simp
      | ended => simp

theorem mem_line_iff (ht : t ∈ i.participants) (hl : i.line t = .ok line) :
    r ∈ line ↔ h.isAbstract r = false ∧ h.Under i.members t r := by
  rw [mem_participants] at ht
  rw [← (line_eq_ok.1 hl).2.2, List.mem_cons, List.mem_filter, mem_climb_iff ht.1]
  constructor
  · rintro (rfl | ⟨⟨_, hr⟩, ha⟩)
    · exact ⟨(Hierarchy.isConcreteParticipant_iff.1 ht.2).1, Hierarchy.Under.refl r⟩
    · exact ⟨by simpa using ha, hr.under⟩
  · rintro ⟨ha, hu⟩
    by_cases htr : t = r
    · exact Or.inl htr.symm
    · exact Or.inr ⟨⟨htr, hu.resolve_left htr⟩, by simpa using ha⟩

/-- A participating type on the line of a participant has its category. -/
theorem category_of_line (ht : t ∈ i.participants) (hl : i.line t = .ok line)
    (hu : h.Under i.members t r) (ha : h.isAbstract r = false) (hp : h.category r ≠ .neither) :
    h.category r = h.category t := by
  by_cases htr : t = r
  · rw [htr]
  · have hpassed : r ∈ (i.climb t).passed :=
      (mem_climb_iff (mem_participants.1 ht).1).2 ⟨htr, hu.resolve_left htr⟩
    have hclash : clashes h t r = false := (line_eq_ok.1 hl).1 r hpassed
    -- A participating type of another category would have been a clash on the climb.
    by_contra hne
    simp [clashes, ha, hp, hne] at hclash

/-! ## Covering -/

theorem lines_cons_eq_ok {rest : List TypeId} {ls : List (TypeId × List TypeId)} :
    i.lines (t :: rest) = .ok ls ↔
      ∃ line further, i.line t = .ok line ∧ i.lines rest = .ok further ∧
        (t, line) :: further = ls := by
  rw [lines]
  cases i.line t with
  | error f => simp
  | ok line =>
      cases i.lines rest with
      | error f => simp
      | ok further => simp

theorem lines_eq_ok {ts : List TypeId} {ls : List (TypeId × List TypeId)}
    (hl : i.lines ts = .ok ls) : ls.map (·.1) = ts ∧ ∀ l ∈ ls, i.line l.1 = .ok l.2 := by
  induction ts generalizing ls with
  | nil =>
      cases hl
      simp
  | cons t rest ih =>
      rcases lines_cons_eq_ok.1 hl with ⟨line, further, ht, hrest, rfl⟩
      rcases ih hrest with ⟨hfst, hsnd⟩
      refine ⟨by simp [hfst], ?_⟩
      intro l hmem
      rcases List.mem_cons.1 hmem with rfl | hmem
      · exact ht
      · exact hsnd l hmem

/-- The participants on whose lines a type stands are those under it. -/
theorem coveredBy_eq_filter {ls : List (TypeId × List TypeId)}
    (hl : i.lines i.participants = .ok ls) :
    coveredBy ls r =
      i.participants.filter fun t => h.isAbstract r = false ∧ h.Under i.members t r := by
  rcases lines_eq_ok hl with ⟨hfst, hline⟩
  have hmem : ∀ l ∈ ls,
      l.2.contains r = decide (h.isAbstract r = false ∧ h.Under i.members l.1 r) := by
    intro l hls
    have hp : l.1 ∈ i.participants := hfst ▸ List.mem_map_of_mem hls
    rw [Bool.eq_iff_iff, decide_eq_true_iff, ← mem_line_iff hp (hline l hls)]
    simp
  rw [coveredBy, List.filter_congr hmem, ← hfst, List.filter_map]
  rfl

end Index
end PartitionKeys
