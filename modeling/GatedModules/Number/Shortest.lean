import GatedModules.Number.Double

/-!
# The shortest decimal of a double

A decimal names a double when it rounds to it. Of the decimals that name a double the shortest one
is written, and of several equally short the nearest. A decimal with `n` digits lies on a grid, and
if any point of the grid names the double then so does one of the two points around the double
itself; so it is enough to try these two on the grids of 1, 2, … 17 digits.
-/

namespace GatedModules

/-- The numbers that round to one double: `value / den` is the double and `low / den`,
`high / den` are the ends, which belong to it when `closed` holds. -/
structure Reach where
  low : Nat
  value : Nat
  high : Nat
  den : Nat
  closed : Bool

namespace Reach

/-- The reach of `m * 2 ^ e`. Below a power of two the doubles lie twice as close. -/
def ofFinite (m : Nat) (e : Int) : Reach :=
  let unit := Nat.pow 2 (e - 2).toNat
  let low := if m = Nat.pow 2 52 ∧ Double.leastExponent < e then 4 * m - 1 else 4 * m - 2
  { low := low * unit, value := 4 * m * unit, high := (4 * m + 2) * unit
    den := Nat.pow 2 (2 - e).toNat, closed := m % 2 == 0 }

/-- The factors that bring `n * 10 ^ k` and a multiple of `1 / den` to one denominator. -/
def gridFactors (r : Reach) (k : Int) : Nat × Nat :=
  (r.den * Nat.pow 10 k.toNat, Nat.pow 10 (-k).toNat)

/-- Whether `n * 10 ^ k` rounds to the double. -/
def holds (r : Reach) (n : Nat) (k : Int) : Bool :=
  let (f, g) := r.gridFactors k
  if r.closed then r.low * g ≤ n * f && n * f ≤ r.high * g
  else r.low * g < n * f && n * f < r.high * g

/-- The point of the grid `10 ^ k` that names the double and is nearest to it, if there is one. -/
def onGrid? (r : Reach) (k : Int) : Option (Nat × Int) :=
  let (f, g) := r.gridFactors k
  let down := r.value * g / f
  let nearest := roundHalfEven (r.value * g) f
  let other := if nearest = down then down + 1 else down
  if r.holds nearest k then some (nearest, k)
  else if r.holds other k then some (other, k)
  else none

/-- The largest `x` with `10 ^ x` at most the double. Every positive double is at least one after
the shift by 340 places. -/
def decimalOrder (r : Reach) : Int :=
  ((Nat.toDigits 10 (r.value * Nat.pow 10 340 / r.den)).length : Int) - 341

end Reach

/-- The shortest decimal `n * 10 ^ k` that names `m * 2 ^ e`, for a positive `m`. -/
def Double.shortest (m : Nat) (e : Int) : Nat × Int :=
  let r := Reach.ofFinite m e
  let order := r.decimalOrder
  ((List.range 17).findSome? fun i : Nat => r.onGrid? (order - (i : Int))).getD
    (m * Nat.pow 2 e.toNat, 0)

end GatedModules
