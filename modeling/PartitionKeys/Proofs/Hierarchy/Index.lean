import Mathlib.Data.List.Nodup
import PartitionKeys.Hierarchy.Index

/-!
# Index — what an index keeps of its catalog

* `Index.name_injective`: listed types of one name are one type;
* `Index.members_of_ofCatalog`: an index holds the listed types by first occurrence;
* `Index.exists_ofCatalog_iff`: there is one exactly when no two listed types share a name;
* `Index.ofCatalog_eq_error`: else the first type counts whose name was taken before it.
-/

namespace PartitionKeys

/-- No two types of a list share a name. -/
def Hierarchy.DistinctNames (h : Hierarchy) (listed : List TypeId) : Prop :=
  ∀ t ∈ listed, ∀ u ∈ listed, h.name t = h.name u → t = u

namespace Index

variable {h : Hierarchy} {i j : Index h} {t u : TypeId}

/-! ## Names -/

theorem name_injective (ht : t ∈ i.members) (hu : u ∈ i.members) (hn : h.name t = h.name u) :
    t = u :=
  List.inj_on_of_nodup_map i.distinct ht hu hn

/-! ## First occurrences -/

/-- Inserting keeps a type that is listed already and appends any other. -/
theorem insert_eq_ok (hi : i.insert t = .ok j) :
    (t ∈ i.members ∧ j = i) ∨ (t ∉ i.members ∧ j.members = i.members ++ [t]) := by
  unfold insert at hi
  split at hi
  · rename_i fresh
    right
    refine ⟨?_, ?_⟩
    · intro hm
      exact find?_eq_none_iff.1 fresh (List.mem_map_of_mem hm)
    · cases hi
      rfl
  · -- A known name is accepted again only from the type that has it.
    rename_i known hk
    left
    by_cases hkt : known = t
    · rw [if_pos hkt] at hi
      cases hi
      exact ⟨hkt ▸ List.mem_of_find?_eq_some hk, rfl⟩
    · rw [if_neg hkt] at hi
      cases hi

theorem insertAll_cons_eq_ok {rest : List TypeId} :
    i.insertAll (t :: rest) = .ok j ↔ ∃ k, i.insert t = .ok k ∧ k.insertAll rest = .ok j := by
  rw [insertAll]
  cases i.insert t with
  | error f => simp
  | ok k => simp

/-- The index grows along the catalog, so the types that count are those new to its start. -/
theorem members_of_insertAll {catalog : List TypeId} (hi : i.insertAll catalog = .ok j) :
    j.members = i.members ++ (catalog.filter fun t => !i.members.contains t).eraseDups := by
  induction catalog generalizing i with
  | nil =>
      cases hi
      simp
  | cons t rest ih =>
      rcases insertAll_cons_eq_ok.1 hi with ⟨k, hk, hrest⟩
      rcases insert_eq_ok hk with ⟨ht, rfl⟩ | ⟨ht, hmembers⟩
      · have hknown : (k.members.contains t) = true := by simpa using ht
        rw [ih hrest, List.filter_cons, hknown]
        rfl
      · have hnew : (i.members.contains t) = false := by simpa using ht
        -- From here on `t` is known, so its repeats no longer count.
        have hlater :
            (rest.filter fun u => !k.members.contains u) =
              (rest.filter fun u => !i.members.contains u).filter fun u => !(u == t) := by
          rw [List.filter_filter, hmembers]
          congr 1
          funext u
          by_cases hut : u = t <;> simp [hut]
        rw [ih hrest, hlater, hmembers, List.filter_cons, hnew]
        simp [List.eraseDups_cons]

theorem members_of_ofCatalog {catalog : List TypeId}
    (hi : Index.ofCatalog (h := h) catalog = .ok i) : i.members = catalog.eraseDups := by
  have hm := members_of_insertAll hi
  simpa [empty] using hm

theorem mem_members_of_ofCatalog {catalog : List TypeId}
    (hi : Index.ofCatalog (h := h) catalog = .ok i) : t ∈ i.members ↔ t ∈ catalog := by
  rw [members_of_ofCatalog hi, List.mem_eraseDups]

/-! ## Names in common -/

theorem insert_eq_error {f : Failure} :
    i.insert t = .error f ↔
      (∃ u ∈ i.members, h.name u = h.name t ∧ u ≠ t) ∧ .duplicateName (h.name t) = f := by
  unfold insert
  split
  · rename_i fresh
    simp only [reduceCtorEq, false_iff, not_and]
    rintro ⟨u, hu, hname, _⟩
    exact absurd (hname ▸ List.mem_map_of_mem hu) (find?_eq_none_iff.1 fresh)
  · rename_i known hk
    have hknown : known ∈ i.members := List.mem_of_find?_eq_some hk
    have hname : h.name known = h.name t := by
      simpa using List.find?_some hk
    by_cases hkt : known = t
    · -- Only `t` itself has the name of `t`.
      simp only [hkt, if_true, reduceCtorEq, false_iff, not_and]
      rintro ⟨u, hu, hnu, hne⟩
      exact absurd (hkt ▸ name_injective hu hknown (hnu.trans hname.symm)) hne
    · simp only [if_neg hkt, Except.error.injEq]
      exact ⟨fun hf => ⟨⟨known, hknown, hname, hkt⟩, hf⟩, fun hf => hf.2⟩

theorem insertAll_eq_error {catalog : List TypeId} {f : Failure} :
    i.insertAll catalog = .error f ↔
      ∃ front t back j, catalog = front ++ t :: back ∧ i.insertAll front = .ok j ∧
        j.insert t = .error f := by
  induction catalog generalizing i with
  | nil =>
      simp [insertAll]
  | cons t rest ih =>
      constructor
      · intro herr
        rw [insertAll] at herr
        cases hk : i.insert t with
        | error g =>
            rw [hk] at herr
            exact ⟨[], t, rest, i, rfl, rfl, hk.trans herr⟩
        | ok k =>
            rw [hk] at herr
            rcases ih.1 herr with ⟨front, u, back, j, rfl, hfront, hu⟩
            exact ⟨t :: front, u, back, j, rfl, insertAll_cons_eq_ok.2 ⟨k, hk, hfront⟩, hu⟩
      · rintro ⟨front, u, back, j, hsplit, hfront, hu⟩
        rw [insertAll]
        cases front with
        | nil =>
            cases hsplit
            cases hfront
            rw [hu]
        | cons v front =>
            cases hsplit
            rcases insertAll_cons_eq_ok.1 hfront with ⟨k, hk, hrest⟩
            rw [hk]
            exact ih.2 ⟨front, u, back, j, rfl, hrest, hu⟩

theorem exists_ofCatalog_iff {catalog : List TypeId} :
    (∃ i, Index.ofCatalog (h := h) catalog = .ok i) ↔ h.DistinctNames catalog := by
  constructor
  · rintro ⟨i, hi⟩ t ht u hu hname
    exact name_injective ((mem_members_of_ofCatalog hi).2 ht) ((mem_members_of_ofCatalog hi).2 hu)
      hname
  · intro hd
    cases hi : Index.ofCatalog (h := h) catalog with
    | ok i =>
        exact ⟨i, rfl⟩
    | error f =>
        rcases insertAll_eq_error.1 hi with ⟨front, t, back, j, rfl, hj, ht⟩
        rcases (insert_eq_error.1 ht).1 with ⟨u, hu, hname, hne⟩
        have hufront : u ∈ front := (mem_members_of_ofCatalog hj).1 hu
        exact absurd (hd u (by simp [hufront]) t (by simp) hname) hne

theorem ofCatalog_eq_error {catalog : List TypeId} {f : Failure} :
    Index.ofCatalog (h := h) catalog = .error f ↔
      ∃ front t back, catalog = front ++ t :: back ∧ h.DistinctNames front ∧
        (∃ u ∈ front, h.name u = h.name t ∧ u ≠ t) ∧ .duplicateName (h.name t) = f := by
  unfold Index.ofCatalog
  rw [insertAll_eq_error]
  constructor
  · rintro ⟨front, t, back, j, hsplit, hj, ht⟩
    rcases insert_eq_error.1 ht with ⟨⟨u, hu, hname⟩, hf⟩
    exact ⟨front, t, back, hsplit, exists_ofCatalog_iff.1 ⟨j, hj⟩,
      ⟨u, (mem_members_of_ofCatalog hj).1 hu, hname⟩, hf⟩
  · rintro ⟨front, t, back, hsplit, hd, ⟨u, hu, hname⟩, hf⟩
    rcases exists_ofCatalog_iff.2 hd with ⟨j, hj⟩
    exact ⟨front, t, back, j, hsplit, hj,
      insert_eq_error.2 ⟨⟨u, (mem_members_of_ofCatalog hj).2 hu, hname⟩, hf⟩⟩

end Index
end PartitionKeys
