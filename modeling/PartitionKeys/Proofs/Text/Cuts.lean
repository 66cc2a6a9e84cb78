import Mathlib.Data.List.Infix

/-!
# Cuts — one text cut into parts in two ways

Two lists of parts may make up the same text although the parts differ.  Then the first cut that
differs leaves a part that stands inside its counterpart, and what it leaves over makes some later
part stand around its counterpart.

* `Within`: a text stands inside another and is not all of it;
* `exists_within_of_ahead`: parts that start later than their counterparts and end with them;
* `exists_within_of_ne`: different parts of one text stand inside their counterparts both ways.
-/

namespace PartitionKeys

/-! ## Texts inside texts -/

def Within (a b : List Char) : Prop :=
  a <:+: b ∧ a.length < b.length

namespace Within

variable {a b c : List Char}

theorem irrefl (a : List Char) : ¬Within a a :=
  fun h => Nat.lt_irrefl _ h.2

theorem trans_infix (h : Within a b) (hc : b <:+: c) : Within a c :=
  ⟨h.1.trans hc, Nat.lt_of_lt_of_le h.2 hc.length_le⟩

theorem of_append_left {more : List Char} (hne : more ≠ []) : Within a (more ++ a) := by
  refine ⟨(List.suffix_append more a).isInfix, ?_⟩
  have hpos : 0 < more.length := List.length_pos_iff.2 hne
  rw [List.length_append]
  omega

theorem of_append_right {more : List Char} (hne : more ≠ []) : Within a (a ++ more) := by
  refine ⟨(List.prefix_append a more).isInfix, ?_⟩
  have hpos : 0 < more.length := List.length_pos_iff.2 hne
  rw [List.length_append]
  omega

end Within

/-! ## Two cuts of one text -/

section

variable {parts : List (List Char × List Char)}

/-- Each part comes with its counterpart; the parts start after a first piece that the counterparts
have to make up for. -/
theorem exists_within_of_ahead {ahead : List Char} (hne : ahead ≠ [])
    (h : ahead ++ parts.flatMap Prod.fst = parts.flatMap Prod.snd) :
    ∃ p ∈ parts, Within p.1 p.2 := by
  induction parts generalizing ahead with
  | nil =>
      exact absurd (List.append_eq_nil_iff.1 h).1 hne
  | cons p rest ih =>
      rw [List.flatMap_cons, List.flatMap_cons, ← List.append_assoc] at h
      rcases List.append_eq_append_iff.1 h with ⟨extra, hextra, _⟩ | ⟨extra, hextra, hrest⟩
      · -- The counterpart goes past the whole part.
        have hin : Within p.1 (ahead ++ p.1) := Within.of_append_left hne
        exact ⟨p, List.mem_cons_self, hin.trans_infix ⟨[], extra, by rw [hextra]; rfl⟩⟩
      · cases extra with
        | nil =>
            have hall : p.2 = ahead ++ p.1 := by
              simpa using hextra.symm
            exact ⟨p, List.mem_cons_self, hall ▸ Within.of_append_left hne⟩
        | cons c extra =>
            rcases ih (List.cons_ne_nil c extra) hrest.symm with ⟨q, hq, hin⟩
            exact ⟨q, List.mem_cons_of_mem p hq, hin⟩

/-- The same with the parts in the place of their counterparts. -/
theorem exists_within_of_behind {ahead : List Char} (hne : ahead ≠ [])
    (h : ahead ++ parts.flatMap Prod.snd = parts.flatMap Prod.fst) :
    ∃ p ∈ parts, Within p.2 p.1 := by
  have hswap : ahead ++ (parts.map Prod.swap).flatMap Prod.fst =
      (parts.map Prod.swap).flatMap Prod.snd := by
    simpa [List.flatMap_map] using h
  rcases exists_within_of_ahead hne hswap with ⟨q, hq, hin⟩
  rcases List.mem_map.1 hq with ⟨p, hp, rfl⟩
  exact ⟨p, hp, hin⟩

theorem exists_within_of_ne (h : parts.flatMap Prod.fst = parts.flatMap Prod.snd)
    (hne : ∃ p ∈ parts, p.1 ≠ p.2) :
    (∃ p ∈ parts, Within p.1 p.2) ∧ ∃ p ∈ parts, Within p.2 p.1 := by
  induction parts with
  | nil =>
      rcases hne with ⟨p, hp, _⟩
      cases hp
  | cons p rest ih =>
      rw [List.flatMap_cons, List.flatMap_cons] at h
      by_cases hp : p.1 = p.2
      · -- The first difference is further on.
        rw [hp, List.append_cancel_left_eq] at h
        have hlater : ∃ q ∈ rest, q.1 ≠ q.2 := by
          rcases hne with ⟨q, hq, hdiff⟩
          rcases List.mem_cons.1 hq with rfl | hq
          · exact absurd hp hdiff
          · exact ⟨q, hq, hdiff⟩
        rcases ih h hlater with ⟨⟨q, hq, hin⟩, r, hr, hout⟩
        exact ⟨⟨q, List.mem_cons_of_mem p hq, hin⟩, r, List.mem_cons_of_mem p hr, hout⟩
      · -- Here one of the two goes on after the other has ended.
        rcases List.append_eq_append_iff.1 h with ⟨extra, hextra, hrest⟩ | ⟨extra, hextra, hrest⟩
        · have hnil : extra ≠ [] := by
            rintro rfl
            exact hp (by simpa using hextra.symm)
          have hin : Within p.1 p.2 := hextra ▸ Within.of_append_right hnil
          rcases exists_within_of_behind hnil hrest.symm with ⟨q, hq, hout⟩
          exact ⟨⟨p, List.mem_cons_self, hin⟩, q, List.mem_cons_of_mem p hq, hout⟩
        · have hnil : extra ≠ [] := by
            rintro rfl
            exact hp (by simpa using hextra)
          have hout : Within p.2 p.1 := hextra ▸ Within.of_append_right hnil
          rcases exists_within_of_ahead hnil hrest.symm with ⟨q, hq, hin⟩
          exact ⟨⟨q, List.mem_cons_of_mem p hq, hin⟩, p, List.mem_cons_self, hout⟩

end

end PartitionKeys
