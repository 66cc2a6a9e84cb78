import Mathlib.Data.List.Nodup
import PartitionKeys.Value.Basic

/-!
# Fields — entries put one after another

Putting an entry replaces the entry of its name, or adds one.  So after a run of entries each name
has the last of them that bears it, and the names stay distinct.

* `Fields.get?_erase_self`, `Fields.get?_erase_of_ne`: erasing takes entries from one name only;
* `Fields.last?`: the last entry of a name;
* `Fields.get?_putAll`: what a run of entries leaves of each name;
* `Fields.Distinct`: no two entries have one name, which putting and erasing keep.
-/

namespace PartitionKeys
namespace Fields

variable {fields : Fields} {key name : String} {value : Value}

/-! ## Looking up -/

theorem get?_cons_self (key : String) (value : Value) (rest : Fields) :
    Fields.get? ((key, value) :: rest) key = some value := by
  simp [get?]

theorem get?_cons_of_ne (hne : name ≠ key) (value : Value) (rest : Fields) :
    Fields.get? ((key, value) :: rest) name = rest.get? name := by
  have hfalse : (name == key) = false := by
    simpa using hne
  rw [get?, get?, List.lookup_cons, hfalse]

theorem get?_append (fields others : Fields) (key : String) :
    Fields.get? (fields ++ others) key = (fields.get? key).or (others.get? key) :=
  List.lookup_append

theorem get?_eq_none (hfresh : key ∉ List.map Prod.fst fields) : fields.get? key = none := by
  rw [get?, List.lookup_eq_none_iff]
  intro e he
  have hne : key ≠ e.1 := fun heq => hfresh (heq ▸ List.mem_map_of_mem he)
  simpa using hne

/-! ## Erasing -/

theorem get?_erase_self (fields : Fields) (key : String) : (fields.erase key).get? key = none := by
  apply get?_eq_none
  intro hmem
  rcases List.mem_map.1 hmem with ⟨e, he, hkey⟩
  have hkept : e.1 ≠ key := by
    simpa using (List.mem_filter.1 he).2
  exact hkept hkey

theorem get?_erase_of_ne (fields : Fields) (hne : name ≠ key) :
    (fields.erase key).get? name = fields.get? name := by
  induction fields with
  | nil => rfl
  | cons e rest ih =>
      obtain ⟨k, v⟩ := e
      by_cases hk : k = key
      · have herased : Fields.erase ((k, v) :: rest) key = Fields.erase rest key := by
          simp [Fields.erase, hk]
        rw [herased, ih, get?_cons_of_ne (hk ▸ hne)]
      · have hkept : Fields.erase ((k, v) :: rest) key = (k, v) :: Fields.erase rest key := by
          simp [Fields.erase, hk]
        rw [hkept]
        by_cases hname : name = k
        · subst hname
          rw [get?_cons_self, get?_cons_self]
        · rw [get?_cons_of_ne hname, get?_cons_of_ne hname, ih]

/-! ## The last entry of a name -/

def last? (fields : Fields) (key : String) : Option Value :=
  Fields.get? (List.reverse fields) key

theorem last?_append (fields others : Fields) (key : String) :
    last? (fields ++ others) key = (others.last? key).or (fields.last? key) := by
  rw [last?, List.reverse_append]
  exact get?_append (List.reverse others) (List.reverse fields) key

theorem last?_cons (e : String × Value) (rest : Fields) (key : String) :
    last? (e :: rest) key = (last? rest key).or (last? [e] key) :=
  last?_append [e] rest key

theorem last?_singleton_self (key : String) (value : Value) :
    last? [(key, value)] key = some value :=
  get?_cons_self key value []

theorem last?_singleton_of_ne (hne : name ≠ key) : last? [(key, value)] name = none :=
  get?_cons_of_ne hne value []

theorem get?_put (fields : Fields) (key : String) (value : Value) (name : String) :
    (fields.put key value).get? name = (last? [(key, value)] name).or (fields.get? name) := by
  by_cases hne : name = key
  · subst hne
    rw [get?_put_self, last?_singleton_self, Option.some_or]
  · rw [get?_put_of_ne hne, last?_singleton_of_ne hne, Option.none_or]

/-- The last entry of a name wins, over the run and over what was there before. -/
theorem get?_putAll (fields others : Fields) (key : String) :
    (fields.putAll others).get? key = (others.last? key).or (fields.get? key) := by
  induction others generalizing fields with
  | nil => rfl
  | cons e rest ih =>
      calc (fields.putAll (e :: rest)).get? key
          = ((fields.put e.1 e.2).putAll rest).get? key := rfl
        _ = (last? rest key).or ((fields.put e.1 e.2).get? key) := ih _
        _ = (last? rest key).or ((last? [e] key).or (fields.get? key)) := by
              rw [get?_put]
        _ = (last? (e :: rest) key).or (fields.get? key) := by
              rw [last?_cons e rest, Option.or_assoc]

/-! ## Distinct names -/

def Distinct (fields : Fields) : Prop :=
  (List.map Prod.fst fields).Nodup

theorem map_fst_put (fields : Fields) (key : String) (value : Value) :
    List.map Prod.fst (fields.put key value) =
      if key ∈ List.map Prod.fst fields then List.map Prod.fst fields
      else List.map Prod.fst fields ++ [key] := by
  induction fields with
  | nil => rfl
  | cons e rest ih =>
      obtain ⟨k, v⟩ := e
      by_cases hk : k = key
      · simp [put, hk]
      · simp only [put, if_neg hk, List.map_cons, ih, List.mem_cons, Ne.symm hk, false_or]
        split
        · rfl
        · rfl

namespace Distinct

theorem put (h : Distinct fields) (key : String) (value : Value) :
    Distinct (fields.put key value) := by
  unfold Distinct
  rw [map_fst_put]
  split
  · exact h
  · rename_i hfresh
    refine List.nodup_append.2 ⟨h, List.nodup_singleton key, ?_⟩
    rintro name hname other hother rfl
    cases List.mem_singleton.1 hother
    exact hfresh hname

theorem putAll (h : Distinct fields) (others : Fields) : Distinct (fields.putAll others) := by
  induction others generalizing fields with
  | nil => exact h
  | cons e rest ih => exact ih (h.put e.1 e.2)

theorem erase (h : Distinct fields) (key : String) : Distinct (fields.erase key) :=
  List.Nodup.sublist (List.Sublist.map Prod.fst List.filter_sublist) h

/-- Among distinct names the last entry of a name is the only one. -/
theorem last?_eq (h : Distinct fields) (key : String) : fields.last? key = fields.get? key := by
  induction fields with
  | nil => rfl
  | cons e rest ih =>
      obtain ⟨k, v⟩ := e
      rcases List.nodup_cons.1 h with ⟨hfresh, hrest⟩
      rw [last?_cons, ih hrest]
      by_cases hk : key = k
      · subst hk
        have hnone : Fields.get? rest key = none := get?_eq_none hfresh
        rw [hnone, last?_singleton_self, get?_cons_self]
        rfl
      · rw [last?_singleton_of_ne hk, get?_cons_of_ne hk, Option.or_none]

/-- Of the entries that are kept each name has the one it had. -/
theorem get?_filter (h : Distinct fields) (keep : Value → Bool) (key : String) :
    Fields.get? (List.filter (fun e => keep e.2) fields) key = (fields.get? key).filter keep := by
  induction fields with
  | nil => rfl
  | cons e rest ih =>
      obtain ⟨k, v⟩ := e
      rcases List.nodup_cons.1 h with ⟨hfresh, hrest⟩
      have hfilter := ih hrest
      by_cases hk : key = k
      · subst hk
        have hnone : Fields.get? rest key = none := get?_eq_none hfresh
        rw [hnone] at hfilter
        rw [get?_cons_self, List.filter_cons]
        cases hkeep : keep v with
        | true => simpa [Option.filter, hkeep] using get?_cons_self key v _
        | false => simpa [Option.filter, hkeep] using hfilter
      · rw [get?_cons_of_ne hk, ← hfilter, List.filter_cons]
        cases hkeep : keep v with
        | true => exact get?_cons_of_ne hk v _
        | false => rfl

end Distinct
end Fields
end PartitionKeys
