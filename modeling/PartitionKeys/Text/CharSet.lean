/-!
# CharSet — sets of characters given by their boundaries

A set of characters is stored as the increasing list of code points at which membership switches,
starting outside.

* `CharSet.crossings s n`: how many boundaries lie at or below `n`;
* `CharSet.contains s c`: an odd number of boundaries has been crossed on the way to `c`.
-/

namespace PartitionKeys

structure CharSet where
  boundaries : Array Nat

namespace CharSet

/-- Halving search: the number of boundaries at or below `n`, given that it lies in
`[lo, lo + span]`. -/
def crossingsFrom (s : CharSet) (n lo span : Nat) : Nat :=
  if span = 0 then lo
  else
    let half := span / 2
    if s.boundaries.getD (lo + half) 0 ≤ n then
      crossingsFrom s n (lo + half + 1) (span - half - 1)
    else
      crossingsFrom s n lo half
termination_by span
decreasing_by all_goals omega

def crossings (s : CharSet) (n : Nat) : Nat :=
  s.crossingsFrom n 0 s.boundaries.size

def contains (s : CharSet) (c : Char) : Bool :=
  s.crossings c.toNat % 2 == 1

end CharSet
end PartitionKeys
