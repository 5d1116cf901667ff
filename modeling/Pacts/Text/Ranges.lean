/-!
# Intervals of code points

A property of characters is kept as a sorted sequence of disjoint intervals of code points.
-/

set_option autoImplicit false

namespace Pacts.Text

/-- Whether `n` lies in one of the intervals with indices from `lo` up to but not including `hi`, by
bisection. -/
def searchRange (ranges : Array (Nat × Nat)) (n : Nat) : Nat → Nat → Nat → Bool
  | 0, _, _ => false
  | fuel + 1, lo, hi =>
    if lo < hi then
      let mid := (lo + hi) / 2
      match ranges[mid]? with
      | none => false
      | some (first, last) =>
        if n < first then searchRange ranges n fuel lo mid
        else if last < n then searchRange ranges n fuel (mid + 1) hi
        else true
    else false

/-- Whether a number lies in one of a sorted sequence of disjoint intervals. -/
def inRanges (ranges : Array (Nat × Nat)) (n : Nat) : Bool :=
  searchRange ranges n (ranges.size + 1) 0 ranges.size

end Pacts.Text
