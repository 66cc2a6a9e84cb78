import Mathlib.Data.List.Forall2

/-!
# Except — results of steps that may fail

* `Partial.bind_eq_error`: a failure comes from the first step or from what follows its result;
* `Partial.mapM_eq_ok`: results of all steps, place by place;
* `Partial.exists_ok_of_mapM`, `Partial.mem_of_mapM`, `Partial.exists_of_mem_mapM`: each step has a
  result among the results, and each result a step;
* `Partial.exists_of_mapM_eq_error`, `Partial.exists_of_forM_eq_error`: a failure is that of a step.
-/

namespace PartitionKeys
namespace Partial

variable {α β ε : Type} {f : α → Except ε β} {e : ε} {xs : List α} {ys : List β}

theorem bind_eq_error {r : Except ε α} :
    (r >>= f) = .error e ↔ r = .error e ∨ ∃ a, r = .ok a ∧ f a = .error e := by
  cases r with
  | error e' => simp [bind, Except.bind]
  | ok a => simp [bind, Except.bind]

theorem bind_eq_ok {r : Except ε α} {b : β} :
    (r >>= f) = .ok b ↔ ∃ a, r = .ok a ∧ f a = .ok b := by
  cases r with
  | error e' => simp [bind, Except.bind]
  | ok a => simp [bind, Except.bind]

/-- What only uses a result does not fail. -/
theorem bind_ok_eq_error {g : α → β} {r : Except ε α} :
    (r >>= fun a => .ok (g a)) = .error e ↔ r = .error e := by
  cases r with
  | error e' => simp [bind, Except.bind]
  | ok a => simp [bind, Except.bind]

theorem mapM_eq_ok : xs.mapM f = .ok ys ↔ List.Forall₂ (fun x y => f x = .ok y) xs ys := by
  induction xs generalizing ys with
  | nil =>
      rw [List.mapM_nil, List.forall₂_nil_left_iff]
      exact ⟨fun h => (Except.ok.inj h).symm, fun h => congrArg Except.ok h.symm⟩
  | cons x xs ih =>
      rw [List.mapM_cons, bind_eq_ok]
      simp only [bind_eq_ok, ih, List.forall₂_cons_left_iff]
      constructor
      · rintro ⟨y, hy, ys', hys', hall⟩
        cases hall
        exact ⟨y, ys', hy, hys', rfl⟩
      · rintro ⟨y, ys', hy, hys', rfl⟩
        exact ⟨y, hy, ys', hys', rfl⟩

theorem exists_ok_of_mapM (h : xs.mapM f = .ok ys) {x : α} (hx : x ∈ xs) : ∃ y, f x = .ok y := by
  have hall := mapM_eq_ok.1 h
  clear h
  induction hall with
  | nil =>
      cases hx
  | @cons x' y xs ys hfirst _ ih =>
      rcases List.mem_cons.1 hx with rfl | hx
      · exact ⟨y, hfirst⟩
      · exact ih hx

theorem mem_of_mapM (h : xs.mapM f = .ok ys) {x : α} {y : β} (hx : x ∈ xs) (hy : f x = .ok y) :
    y ∈ ys := by
  have hall := mapM_eq_ok.1 h
  clear h
  induction hall with
  | nil =>
      cases hx
  | @cons x' y' xs ys hfirst _ ih =>
      rcases List.mem_cons.1 hx with rfl | hx
      · cases hfirst.symm.trans hy
        exact List.mem_cons_self
      · exact List.mem_cons_of_mem y' (ih hx)

theorem exists_of_mem_mapM (h : xs.mapM f = .ok ys) {y : β} (hy : y ∈ ys) :
    ∃ x ∈ xs, f x = .ok y := by
  have hall := mapM_eq_ok.1 h
  clear h
  induction hall with
  | nil =>
      cases hy
  | @cons x y' xs ys hfirst _ ih =>
      rcases List.mem_cons.1 hy with rfl | hy
      · exact ⟨x, List.mem_cons_self, hfirst⟩
      · rcases ih hy with ⟨x', hx', hf⟩
        exact ⟨x', List.mem_cons_of_mem x hx', hf⟩

theorem exists_of_mapM_eq_error (h : xs.mapM f = .error e) : ∃ x ∈ xs, f x = .error e := by
  induction xs with
  | nil =>
      cases h
  | cons x xs ih =>
      rw [List.mapM_cons, bind_eq_error] at h
      rcases h with h | ⟨y, _, h⟩
      · exact ⟨x, List.mem_cons_self, h⟩
      · rcases bind_eq_error.1 h with h | ⟨ys, _, h⟩
        · rcases ih h with ⟨x', hx', hf⟩
          exact ⟨x', List.mem_cons_of_mem x hx', hf⟩
        · cases h

theorem exists_of_forM_eq_error {f : α → Except ε Unit} (h : xs.forM f = .error e) :
    ∃ x ∈ xs, f x = .error e := by
  induction xs with
  | nil =>
      cases h
  | cons x xs ih =>
      have hsteps : (f x >>= fun _ => xs.forM f) = .error e := h
      rcases bind_eq_error.1 hsteps with h | ⟨_, _, h⟩
      · exact ⟨x, List.mem_cons_self, h⟩
      · rcases ih h with ⟨x', hx', hf⟩
        exact ⟨x', List.mem_cons_of_mem x hx', hf⟩

end Partial
end PartitionKeys
