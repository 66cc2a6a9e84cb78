import Mathlib.Data.String.Basic

/-!
# NameOrder — lists sorted by name, and lists without repeats

* `pairwise_sortedByName`: names stand in order;
* `filter_sortedByName`: elements of one name stand as before;
* `sortedByName_eq`: names of their own leave one order;
* `sortedByName_append_singleton`: where one more element goes;
* `eraseDups_sublist`, `nodup_eraseDups`: first occurrences keep their order and stand once.
-/

namespace PartitionKeys

variable {α : Type} {l l' : List α}

theorem nameOrder_trans (name : α → String) (a b c : α) (hab : decide (name a ≤ name b) = true)
    (hbc : decide (name b ≤ name c) = true) : decide (name a ≤ name c) = true := by
  simp only [decide_eq_true_eq] at hab hbc ⊢
  exact le_trans hab hbc

theorem nameOrder_total (name : α → String) (a b : α) :
    (decide (name a ≤ name b) || decide (name b ≤ name a)) = true := by
  simpa using le_total (name a) (name b)

theorem pairwise_sortedByName (name : α → String) (l : List α) :
    (l.mergeSort fun a b => decide (name a ≤ name b)).Pairwise fun a b => name a ≤ name b := by
  have hsorted : (l.mergeSort fun a b => decide (name a ≤ name b)).Pairwise
      fun a b => decide (name a ≤ name b) = true :=
    List.pairwise_mergeSort (nameOrder_trans name) (nameOrder_total name) l
  exact hsorted.imp of_decide_eq_true

/-- Elements of one name keep their order. -/
theorem filter_sortedByName (name : α → String) (n : String) (l : List α) :
    (l.mergeSort fun a b => decide (name a ≤ name b)).filter (fun a => name a = n) =
      l.filter fun a => name a = n := by
  have hsorted : (l.filter fun a => name a = n).Pairwise
      fun a b => decide (name a ≤ name b) = true := by
    rw [List.pairwise_filter]
    refine List.pairwise_of_forall ?_
    intro a b ha hb
    simp only [decide_eq_true_eq] at ha hb ⊢
    exact (ha.trans hb.symm).le
  -- In order among themselves already, they are not moved past one another.
  have hsub : (l.filter fun a => name a = n).Sublist
      (l.mergeSort fun a b => decide (name a ≤ name b)) :=
    List.sublist_mergeSort (nameOrder_trans name) (nameOrder_total name) hsorted
      List.filter_sublist
  have hkept := hsub.filter fun a => decide (name a = n)
  rw [List.filter_filter] at hkept
  simp only [Bool.and_self] at hkept
  refine (hkept.eq_of_length ?_).symm
  exact ((List.mergeSort_perm l _).filter _).length_eq.symm

theorem sortedByName_eq {name : α → String} (hp : l.Perm l')
    (hs : l'.Pairwise fun a b => name a ≤ name b)
    (hn : ∀ a ∈ l, ∀ b ∈ l, name a = name b → a = b) :
    (l.mergeSort fun a b => decide (name a ≤ name b)) = l' := by
  refine List.Perm.eq_of_pairwise ?_ (pairwise_sortedByName name l) hs
    ((List.mergeSort_perm _ _).trans hp)
  intro a b ha hb hab hba
  rw [List.mem_mergeSort] at ha
  exact hn a ha b (hp.mem_iff.2 hb) (le_antisymm hab hba)

theorem sortedByName_congr {name : α → String} (hp : l.Perm l')
    (hn : ∀ a ∈ l, ∀ b ∈ l, name a = name b → a = b) :
    (l.mergeSort fun a b => decide (name a ≤ name b)) =
      l'.mergeSort fun a b => decide (name a ≤ name b) :=
  sortedByName_eq (hp.trans (List.mergeSort_perm _ _).symm) (pairwise_sortedByName name l') hn

theorem distinct_append_singleton {name : α → String} {a : α}
    (hn : ∀ b ∈ l, ∀ c ∈ l, name b = name c → b = c) (ha : ∀ b ∈ l, name b ≠ name a) :
    ∀ b ∈ l ++ [a], ∀ c ∈ l ++ [a], name b = name c → b = c := by
  intro b hb c hc hbc
  rw [List.mem_append, List.mem_singleton] at hb hc
  rcases hb with hb | rfl
  · rcases hc with hc | rfl
    · exact hn b hb c hc hbc
    · exact absurd hbc (ha b hb)
  · rcases hc with hc | rfl
    · exact absurd hbc.symm (ha c hc)
    · rfl

/-- An element of a name of its own goes between the smaller and the greater names. -/
theorem sortedByName_append_singleton {name : α → String} {a : α}
    (hn : ∀ b ∈ l, ∀ c ∈ l, name b = name c → b = c) (ha : ∀ b ∈ l, name b ≠ name a) :
    ∃ front back,
      (l.mergeSort fun a b => decide (name a ≤ name b)) = front ++ back ∧
      ((l ++ [a]).mergeSort fun a b => decide (name a ≤ name b)) = front ++ a :: back ∧
      (∀ b ∈ front, name b < name a) ∧ ∀ b ∈ back, name a < name b := by
  let sorted := l.mergeSort fun a b => decide (name a ≤ name b)
  let front := sorted.filter fun b => name b < name a
  let back := sorted.filter fun b => !decide (name b < name a)
  have hperm : l.Perm (front ++ back) :=
    (List.mergeSort_perm _ _).symm.trans (List.filter_append_perm _ sorted).symm
  have hfront : ∀ b ∈ front, name b < name a := by
    intro b hb
    simpa using (List.mem_filter.1 hb).2
  have hback : ∀ b ∈ back, name a < name b := by
    intro b hb
    have hge : ¬name b < name a := by
      simpa only [Bool.not_eq_true', decide_eq_false_iff_not] using (List.mem_filter.1 hb).2
    have hle : name a ≤ name b := not_lt.1 hge
    exact lt_of_le_of_ne hle (ha b (hperm.mem_iff.2 (List.mem_append_right front hb))).symm
  have hsorted : sorted.Pairwise fun a b => name a ≤ name b := pairwise_sortedByName name l
  have hcross : ∀ b ∈ front, ∀ c ∈ back, name b ≤ name c := by
    intro b hb c hc
    exact ((hfront b hb).trans (hback c hc)).le
  -- With and without `a` the lists are in order already, so sorting gives nothing else.
  refine ⟨front, back, ?_, ?_, hfront, hback⟩
  · exact sortedByName_eq hperm
      (List.pairwise_append.2 ⟨hsorted.filter _, hsorted.filter _, hcross⟩) hn
  · apply sortedByName_eq
    · exact (List.perm_append_singleton a l).trans ((hperm.cons a).trans List.perm_middle.symm)
    · refine List.pairwise_append.2 ⟨hsorted.filter _, ?_, ?_⟩
      · exact List.pairwise_cons.2 ⟨fun c hc => (hback c hc).le, hsorted.filter _⟩
      · intro b hb c hc
        rcases List.mem_cons.1 hc with rfl | hc
        · exact (hfront b hb).le
        · exact hcross b hb c hc
    · exact distinct_append_singleton hn ha

/-! ## First occurrences -/

section

variable [BEq α]

/-- After its head a list goes on without the repeats of the head. -/
@[elab_as_elim]
theorem firstOccurrence_induction {motive : List α → Prop} (nil : motive [])
    (cons : ∀ a rest, motive (rest.filter fun b => !b == a) → motive (a :: rest))
    (l : List α) : motive l := by
  induction hn : l.length using Nat.strongRecOn generalizing l with
  | ind n ih =>
      cases l with
      | nil =>
          exact nil
      | cons a rest =>
          have hlt : (rest.filter fun b => !b == a).length < n := by
            have := List.length_filter_le (fun b => !b == a) rest
            rw [List.length_cons] at hn
            omega
          exact cons a rest (ih _ hlt _ rfl)

theorem eraseDups_sublist (l : List α) : l.eraseDups.Sublist l := by
  induction l using firstOccurrence_induction with
  | nil =>
      simp
  | cons a rest ih =>
      rw [List.eraseDups_cons]
      exact (ih.trans List.filter_sublist).cons_cons a

theorem nodup_eraseDups [LawfulBEq α] (l : List α) : l.eraseDups.Nodup := by
  induction l using firstOccurrence_induction with
  | nil =>
      simp
  | cons a rest ih =>
      rw [List.eraseDups_cons, List.nodup_cons]
      exact ⟨by simp, ih⟩

end

end PartitionKeys
