import PartitionKeys.ClassGraph.Linearization

/-!
# Merge — what a merge of class lists keeps of them

Each step of a merge takes a head that stands in no tail and drops it from every row.  The class is
gone from all rows then, and no row has lost anything else.

* `Linearization.merge_eq_ok_cons`: one step of a merge that succeeds;
* `Linearization.sublist_of_merge`: the order of each row is kept;
* `Linearization.mem_merge_iff`: no class is lost and none is added;
* `Linearization.nodup_of_merge`: no class is taken twice.
-/

namespace PartitionKeys
namespace Linearization

variable {rows : Rows} {row out rest : List ClassId} {a c : ClassId}

/-! ## Steps -/

theorem merge_eq_ok_nil : merge rows = .ok [] ↔ rows.all List.isEmpty = true := by
  rw [merge]
  cases hc : choose? rows with
  | none =>
      simp
  | some c =>
      have hhead : c ∈ rows.filterMap List.head? := List.mem_of_find?_eq_some hc
      rcases List.mem_filterMap.1 hhead with ⟨r, hr, hrc⟩
      have hne : ¬rows.all List.isEmpty = true := by
        intro hall
        have hnil : r = [] := List.isEmpty_iff.1 (List.all_eq_true.1 hall r hr)
        simp [hnil] at hrc
      cases hd : merge (advance rows c) <;> simp [hd, Except.map, hne]

theorem merge_eq_ok_cons :
    merge rows = .ok (c :: rest) ↔
      choose? rows = some c ∧ merge (advance rows c) = .ok rest := by
  rw [merge]
  cases hc : choose? rows with
  | none =>
      by_cases hall : rows.all List.isEmpty = true <;> simp [hall]
  | some d =>
      simp only [Option.some.injEq]
      constructor
      · intro hm
        cases hd : merge (advance rows d) with
        | error rows =>
            simp [hd, Except.map] at hm
        | ok rest' =>
            simp only [hd, Except.map, Except.ok.injEq, List.cons.injEq] at hm
            rcases hm with ⟨rfl, rfl⟩
            exact ⟨rfl, hd⟩
      · rintro ⟨rfl, hd⟩
        rw [hd]
        rfl

theorem choose?_eligible (hc : choose? rows = some c) : eligible rows c = true :=
  List.find?_some hc

theorem exists_mem_of_choose? (hc : choose? rows = some c) : ∃ row ∈ rows, c ∈ row := by
  have hhead : c ∈ rows.filterMap List.head? := List.mem_of_find?_eq_some hc
  rcases List.mem_filterMap.1 hhead with ⟨row, hrow, hrc⟩
  exact ⟨row, hrow, List.mem_of_head? hrc⟩

theorem advanceRow_sublist (c : ClassId) (row : List ClassId) : (advanceRow c row).Sublist row := by
  cases row with
  | nil =>
      exact List.Sublist.refl []
  | cons head tail =>
      simp only [advanceRow]
      split
      · exact List.sublist_cons_self head tail
      · exact List.Sublist.refl _

/-- An eligible class stands at the head of a row or not at all, so a step removes it. -/
theorem not_mem_advanceRow (he : eligible rows c = true) (hr : row ∈ rows) :
    c ∉ advanceRow c row := by
  have htail : c ∉ row.tail := by
    simpa using List.all_eq_true.1 he row hr
  cases row with
  | nil =>
      simp [advanceRow]
  | cons head tail =>
      simp only [advanceRow]
      split
      · exact htail
      · rename_i hne
        intro hc
        rcases List.mem_cons.1 hc with rfl | hc
        · exact hne rfl
        · exact htail hc

/-! ## Whole merges -/

theorem sublist_of_merge (hm : merge rows = .ok out) (hr : row ∈ rows) : row.Sublist out := by
  induction out generalizing rows row with
  | nil =>
      have hnil : row = [] :=
        List.isEmpty_iff.1 (List.all_eq_true.1 (merge_eq_ok_nil.1 hm) row hr)
      subst hnil
      exact List.nil_sublist []
  | cons c rest ih =>
      rcases merge_eq_ok_cons.1 hm with ⟨_, hrest⟩
      have hadvanced : (advanceRow c row).Sublist rest := ih hrest (List.mem_map_of_mem hr)
      -- Where the class taken heads the row, it goes first in both; else the row is unchanged.
      cases row with
      | nil =>
          exact List.nil_sublist _
      | cons head tail =>
          by_cases hhead : head = c
          · subst hhead
            simp only [advanceRow, if_true] at hadvanced
            exact hadvanced.cons_cons head
          · simp only [advanceRow, if_neg hhead] at hadvanced
            exact hadvanced.cons c

theorem mem_merge_iff (hm : merge rows = .ok out) : a ∈ out ↔ ∃ row ∈ rows, a ∈ row := by
  constructor
  · intro ha
    induction out generalizing rows with
    | nil =>
        cases ha
    | cons c rest ih =>
        rcases merge_eq_ok_cons.1 hm with ⟨hc, hrest⟩
        rcases List.mem_cons.1 ha with rfl | ha
        · exact exists_mem_of_choose? hc
        · rcases ih hrest ha with ⟨advanced, hadv, ha⟩
          rcases List.mem_map.1 hadv with ⟨row, hr, rfl⟩
          exact ⟨row, hr, (advanceRow_sublist c row).subset ha⟩
  · rintro ⟨row, hr, ha⟩
    exact (sublist_of_merge hm hr).subset ha

theorem nodup_of_merge (hm : merge rows = .ok out) : out.Nodup := by
  induction out generalizing rows with
  | nil =>
      exact List.nodup_nil
  | cons c rest ih =>
      rcases merge_eq_ok_cons.1 hm with ⟨hc, hrest⟩
      refine List.nodup_cons.2 ⟨?_, ih hrest⟩
      -- Taken again, the class would still stand in a row after its own step.
      intro hagain
      rcases (mem_merge_iff hrest).1 hagain with ⟨advanced, hadv, hmem⟩
      rcases List.mem_map.1 hadv with ⟨row, hr, rfl⟩
      exact not_mem_advanceRow (choose?_eligible hc) hr hmem

end Linearization
end PartitionKeys
