import PartitionKeys.CommandLine.Arguments

/-!
# Arguments — command lines that ask for keys

A target that does not look like an option stands anywhere among the options.  Any other target
stands after the mark that ends them.

* `Request.scanKeys_target`: a target among the options;
* `Request.ofArgs_before`: a command line with its target first;
* `Request.ofArgs_after`: a command line with its target last.
-/

namespace PartitionKeys
namespace Request

variable {target : String}

/-- The options of the keys command, as they are written. -/
def keysOptions (asJson : Bool) (queryAlias : String) : List String :=
  (if asJson then ["--json"] else []) ++ ["--alias", queryAlias]

theorem isOption_of_aliasMark (h : aliasMark.isPrefixOf target.toList = true) :
    isOption target = true := by
  rcases List.isPrefixOf_iff_prefix.1 h with ⟨rest, hrest⟩
  have hlen : aliasMark.length ≤ target.length := by
    rw [← String.length_toList, ← hrest, List.length_append]
    exact Nat.le_add_right _ _
  have hhead : target.toList.head? = some '-' := by
    rw [← hrest]
    rfl
  have htwo : 1 < target.length := Nat.lt_of_lt_of_le (by decide) hlen
  simp [isOption, hhead, htwo]

theorem scanKeys_target (h : isOption target = false) (s : Scan) (rest : List String) :
    scanKeys s (target :: rest) = scanKeys { s with targets := s.targets ++ [target] } rest := by
  have hne : ∀ {option : String}, isOption option = true → target ≠ option := by
    rintro option ho rfl
    exact absurd (h.symm.trans ho) Bool.false_ne_true
  have hmark : aliasMark.isPrefixOf target.toList ≠ true := by
    intro hprefix
    exact absurd (h.symm.trans (isOption_of_aliasMark hprefix)) Bool.false_ne_true
  rw [scanKeys.eq_def]
  split
  all_goals rename_i heq
  · cases heq
  · exact absurd (List.cons.inj heq).1 (hne (by decide))
  · exact absurd (List.cons.inj heq).1 (hne (by decide))
  · exact absurd (List.cons.inj heq).1 (hne (by decide))
  · exact absurd (List.cons.inj heq).1 (hne (by decide))
  · exact absurd (List.cons.inj heq).1 (hne (by decide))
  · cases heq
    rw [if_neg hmark, h, if_neg Bool.false_ne_true]

/-- A target that looks like no option is read before the options. -/
theorem ofArgs_before (h : isOption target = false) (asJson : Bool) (queryAlias : String) :
    ofArgs ("keys" :: target :: keysOptions asJson queryAlias) =
      .keys { target, asJson, queryAlias } := by
  show ofKeysArgs (target :: keysOptions asJson queryAlias) = _
  rw [ofKeysArgs, scanKeys_target h]
  cases asJson with
  | false => rfl
  | true => rfl

/-- Any target is read after the options. -/
theorem ofArgs_after (target : String) (asJson : Bool) (queryAlias : String) :
    ofArgs ("keys" :: keysOptions asJson queryAlias ++ ["--", target]) =
      .keys { target, asJson, queryAlias } := by
  cases asJson with
  | false => rfl
  | true => rfl

end Request
end PartitionKeys
