/-!
# Ranges of code points

A property of characters is given as an array of closed ranges in increasing order, which
`inRanges` searches by halving.
-/

namespace AsyncStage.Text

/-- Whether one of the ranges at positions `lo` to `hi - 1` holds `n`; `fuel` bounds the halvings. -/
def searchRanges (ranges : Array (Nat × Nat)) (n : Nat) : Nat → Nat → Nat → Bool
  | 0, _, _ => false
  | fuel + 1, lo, hi =>
    if lo < hi then
      let mid := (lo + hi) / 2
      match ranges[mid]? with
      | none => false
      | some (first, last) =>
        if n < first then searchRanges ranges n fuel lo mid
        else if last < n then searchRanges ranges n fuel (mid + 1) hi
        else true
    else false

/-- Whether one of the increasing ranges holds the code point of `c`. -/
def inRanges (ranges : Array (Nat × Nat)) (c : Char) : Bool :=
  searchRanges ranges c.toNat (ranges.size + 1) 0 ranges.size

end AsyncStage.Text
