/-!
# Sets of code points

Sets of characters too large to spell out as conditions are kept as ascending, disjoint ranges of
code points and searched by halving.
-/

namespace DocViews.Text

/-- A set of code points, given by ascending, disjoint closed ranges. -/
structure CodeSet where
  ranges : Array (Nat × Nat)

/-- Whether `n` lies in one of the ranges with an index from `lo` up to, but not including, `hi`. -/
def CodeSet.search (s : CodeSet) (n lo hi : Nat) : Bool :=
  if lo < hi then
    let mid := (lo + hi) / 2
    match s.ranges[mid]? with
    | none => false
    | some (first, last) =>
      if n < first then s.search n lo mid
      else if last < n then s.search n (mid + 1) hi
      else true
  else false
termination_by hi - lo

def CodeSet.contains (s : CodeSet) (c : Char) : Bool := s.search c.toNat 0 s.ranges.size

end DocViews.Text
