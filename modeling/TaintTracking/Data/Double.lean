/-!
Magnitudes in double precision: 53 significant bits, and a bound from which they are infinite. Only
whole magnitudes are treated, exactly, as natural numbers.
-/

namespace TaintTracking.Double

def precision : Nat := 53

/-- The least magnitude that rounds to infinity. -/
def bound : Nat := Nat.pow 2 1024 - Nat.pow 2 970

/-- The distance of the neighbours of a magnitude, a power of two. -/
def spacing (magnitude : Nat) : Nat := Nat.pow 2 (magnitude.log2 + 1 - precision)

/-- The nearest multiple of a unit, and of two that are equally near the even one. -/
def nearestMultiple (unit magnitude : Nat) : Nat :=
  let below := magnitude / unit
  let rest := magnitude % unit
  if unit < 2 * rest || (2 * rest = unit && below % 2 = 1) then (below + 1) * unit else below * unit

def round (magnitude : Nat) : Nat := nearestMultiple (spacing magnitude) magnitude

/-- Whether a product overflows that is made of two magnitudes after each has been rounded. -/
def productOverflows (a b : Nat) : Bool := bound ≤ round a * round b

end TaintTracking.Double
