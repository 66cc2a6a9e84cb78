import Mathlib.Data.List.Infix
import PartitionKeys.Template.Check

/-!
# Check — what a template is accepted for

A template is accepted when the sample alias stands in its sample rendering, wherever it comes from.

* `occursIn_iff`: the search for the sample alias finds what stands inside a text;
* `infix_append_cons_iff`: a text cannot reach across a character it does not have;
* `check_eq_ok_iff`: when a template is accepted.
-/

namespace PartitionKeys
namespace Template

variable {part a b : List Char} {c : Char} {template : String}

theorem occursIn_iff {cs : List Char} : occursIn part cs = true ↔ part <:+: cs := by
  induction cs with
  | nil =>
      rw [occursIn, List.isEmpty_iff, List.infix_nil]
  | cons c rest ih =>
      rw [occursIn, Bool.or_eq_true, List.isPrefixOf_iff_prefix, ih, List.infix_cons_iff]

theorem infix_append_cons_iff (hc : c ∉ part) :
    part <:+: a ++ c :: b ↔ part <:+: a ∨ part <:+: b := by
  constructor
  · intro h
    -- What of `part` begins with `c` is empty.
    have hnil : ∀ {more : List Char}, more.Sublist part → more <+: c :: b → more = [] := by
      intro more hsub hmore
      rcases List.prefix_cons_iff.1 hmore with hnil | ⟨t, rfl, _⟩
      · exact hnil
      · exact absurd (hsub.mem List.mem_cons_self) hc
    rcases List.infix_append_iff.1 h with ha | hb | ⟨front, back, rfl, hfront, hback⟩
    · exact Or.inl ha
    · rcases List.infix_cons_iff.1 hb with hstart | hb
      · exact Or.inl (hnil (List.Sublist.refl part) hstart ▸ List.nil_infix)
      · exact Or.inr hb
    · rw [hnil (List.sublist_append_right front back) hback, List.append_nil]
      exact Or.inl hfront.isInfix
  · rintro (ha | hb)
    · exact ha.trans (List.prefix_append a (c :: b)).isInfix
    · exact hb.trans ((List.suffix_cons c b).trans (List.suffix_append a (c :: b))).isInfix

theorem check_eq_ok_iff :
    check template = .ok () ↔
      ∃ s, render template sample = .ok s ∧ sample.queryAlias.toList <:+: s.toList := by
  rw [check]
  cases render template sample with
  | error e =>
      dsimp only
      split
      · simp
      · simp
  | ok s =>
      dsimp only
      by_cases hin : occursIn sample.queryAlias.toList s.toList = true
      · simp [hin, occursIn_iff.1 hin]
      · simp [hin, mt occursIn_iff.2 hin]

end Template
end PartitionKeys
