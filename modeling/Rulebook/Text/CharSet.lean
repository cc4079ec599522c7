/-
# Character sets

A set of characters is kept as the ascending list of the codes at which membership
flips: the first bound opens the first interval, the second closes it, and so on. A
character belongs to the set iff the number of bounds at or below its code is odd.
-/

namespace Rulebook
namespace Text

/-- A set of characters, given by the codes at which membership flips. -/
structure CharSet where
  bounds : Array Nat

namespace CharSet

/-- How many of the bounds with index in `[lo, hi)` are at or below `code`, added to `lo`,
when the bounds ascend: binary search. -/
def rank (bounds : Array Nat) (code lo hi : Nat) : Nat :=
  if lo < hi then
    let mid := (lo + hi) / 2
    if bounds.getD mid 0 ≤ code then rank bounds code (mid + 1) hi
    else rank bounds code lo mid
  else lo
termination_by hi - lo

/-- Membership of a character. -/
def contains (s : CharSet) (c : Char) : Bool :=
  rank s.bounds c.toNat 0 s.bounds.size % 2 == 1

end CharSet

end Text
end Rulebook
