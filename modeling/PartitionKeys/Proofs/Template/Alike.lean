import PartitionKeys.Template.Operand

/-!
# Alike — what a path leads to from texts that differ in their characters

A step of a path does not ask which characters a text has.  It can only find that there are too few
of them for a position.

* `Operand.Alike`: one operand with other characters in it;
* `Operand.Alike.memberOf`: members of alike operands are alike;
* `Operand.Alike.elementAt`: so are elements, unless a text ends before the position.
-/

namespace PartitionKeys
namespace Template
namespace Operand

/-- The second operand is the first with other characters, and no fewer of them if `long`. -/
inductive Alike (long : Prop) : Operand → Operand → Prop where
  | same (v : Operand) : Alike long v v
  | text {cs cs' : List Char} (hlen : long → cs.length ≤ cs'.length) :
      Alike long (.text cs) (.text cs')
  | bound {v v' : Operand} (kind : String) (m : Member) (ha : Alike long v v') :
      Alike long (.bound v kind m) (.bound v' kind m)

namespace Alike

variable {long : Prop} {v v' w : Operand} {kind name : String} {m : Member}

theorem weaken {long' : Prop} (ha : Alike long v v') (hl : long' → long) : Alike long' v v' := by
  induction ha with
  | same v => exact .same v
  | text hlen => exact .text fun h => hlen (hl h)
  | bound kind m _ ih => exact .bound kind m ih

/-! ## What alike operands share -/

theorem kindOf_eq (ha : Alike long v v') : v.kindOf = v'.kindOf := by
  cases ha with
  | same => rfl
  | text _ => rfl
  | bound kind m _ => rfl

theorem ownerName_eq (ha : Alike long v v') : v.ownerName = v'.ownerName := by
  cases ha with
  | same => rfl
  | text _ => rfl
  | bound kind m _ => rfl

/-! ## Members -/

theorem bind (ha : Alike long v v') : Alike long (v.bind kind m) (v'.bind kind m) := by
  unfold Operand.bind
  rw [ha.kindOf_eq]
  split
  · exact .bound kind m ha
  · exact .bound kind m ha
  · exact .same _

/-- Of the attributes of a bound member only its value can tell characters apart. -/
theorem ofBound (ha : Alike long v v') :
    Alike long (Operand.ofBound v kind m name) (Operand.ofBound v' kind m name) := by
  by_cases hself : name = "__self__"
  · subst hself
    simp only [Operand.ofBound]
    split
    · exact .same _
    · exact ha
  · have heq : Operand.ofBound v kind m name = Operand.ofBound v' kind m name := by
      unfold Operand.ofBound
      rw [ha.ownerName_eq]
      split
      · exact absurd rfl hself
      all_goals rfl
    exact heq ▸ .same _

theorem attributeOf (ha : Alike long v v') (hw : v.attributeOf name = .ok w) :
    ∃ w', v'.attributeOf name = .ok w' ∧ Alike long w w' := by
  cases ha with
  | same => exact ⟨w, hw, .same w⟩
  | text _ => exact ⟨w, hw, .same w⟩
  | bound kind m ha =>
      unfold Operand.attributeOf at hw ⊢
      by_cases hclass : name = "__class__"
      · rw [if_pos hclass] at hw ⊢
        exact ⟨w, hw, .same w⟩
      · rw [if_neg hclass] at hw ⊢
        cases hw
        exact ⟨_, rfl, ha.ofBound⟩

theorem memberOfValue (ha : Alike long v v') (hw : v.memberOfValue name = .ok w) :
    ∃ w', v'.memberOfValue name = .ok w' ∧ Alike long w w' := by
  unfold Operand.memberOfValue at hw ⊢
  -- Both are of one kind, so the same member is found in both.
  rw [← ha.kindOf_eq]
  cases hfind : Kind.find? v.kindOf name with
  | none =>
      rw [hfind] at hw
      cases hw
  | some found =>
      rcases found with ⟨home, m⟩
      simp only [hfind] at hw ⊢
      by_cases hattr : m.isAttribute = true
      · rw [if_pos hattr] at hw ⊢
        exact ha.attributeOf hw
      · rw [if_neg hattr] at hw ⊢
        cases hw
        exact ⟨_, rfl, ha.bind⟩

theorem memberOf (ha : Alike long v v') (hw : v.memberOf name = .ok w) :
    ∃ w', v'.memberOf name = .ok w' ∧ Alike long w w' := by
  cases ha with
  | same => exact ⟨w, hw, .same w⟩
  | text hlen => exact memberOfValue (.text hlen) hw
  | bound kind m ha => exact memberOfValue (.bound kind m ha) hw

/-! ## Elements -/

/-- Of alike texts the second may end before a position that the first has. -/
theorem elementAt {key : Key} (ha : Alike long v v') (hw : v.elementAt key = .ok w) :
    (∃ w', v'.elementAt key = .ok w' ∧ Alike long w w') ∨
      v'.elementAt key = .error (.indexOutOfRange "string") ∧ ¬long := by
  cases ha with
  | same => exact Or.inl ⟨w, hw, .same w⟩
  | bound kind m _ => cases hw
  | @text cs cs' hlen =>
      cases key with
      | name s => cases hw
      | position n =>
          simp only [Operand.elementAt, itemAt, List.getElem?_map] at hw ⊢
          cases hc : cs[n]? with
          | none =>
              simp [hc] at hw
          | some c =>
              have hn : n < cs.length := (List.getElem?_eq_some_iff.1 hc).1
              have hone : Operand.text [c] = w := by
                simpa [hc] using hw
              subst hone
              cases hc' : cs'[n]? with
              | some c' =>
                  exact Or.inl ⟨.text [c'], rfl, .text fun _ => Nat.le_refl 1⟩
              | none =>
                  refine Or.inr ⟨rfl, ?_⟩
                  intro hl
                  have hend : cs'.length ≤ n := List.getElem?_eq_none_iff.1 hc'
                  exact Nat.not_lt.2 (Nat.le_trans (hlen hl) hend) hn

end Alike
end Operand
end Template
end PartitionKeys
