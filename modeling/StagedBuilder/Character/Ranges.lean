/-!
# Sets of characters as ranges

A property of characters is written down as the list of its ranges, and the list as one
ascending array of code points: each range gives its first member and the first code point
after it. A code point is in the set exactly when the number of entries that are not above it
is odd, which a binary search finds.
-/

namespace StagedBuilder.Character

/-- The number of entries of an ascending array that are not above `n`, given that it lies
between `lo` and `hi`. -/
def countUpTo (bounds : Array Nat) (n lo hi : Nat) : Nat :=
  if h : lo < hi then
    let mid := (lo + hi) / 2
    if bounds.getD mid 0 ≤ n then countUpTo bounds n (mid + 1) hi
    else countUpTo bounds n lo mid
  else lo
termination_by hi - lo

/-- Whether a code point lies in one of the ranges that `bounds` lists. -/
def inRanges (bounds : Array Nat) (n : Nat) : Bool :=
  countUpTo bounds n 0 bounds.size % 2 == 1

end StagedBuilder.Character
