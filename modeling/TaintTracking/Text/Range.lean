/-!
Sets of code points, written as lists of inclusive ranges in increasing order.
-/

namespace TaintTracking.Text

structure CodeRange where
  first : Nat
  last : Nat
  deriving DecidableEq, Repr

def CodeRange.covers (range : CodeRange) (code : Nat) : Bool :=
  range.first ≤ code && code ≤ range.last

def inRanges (ranges : List CodeRange) (c : Char) : Bool :=
  ranges.any (·.covers c.toNat)

end TaintTracking.Text
