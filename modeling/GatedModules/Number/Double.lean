/-!
# Double-precision numbers

A finite double is a sign, a mantissa below `2 ^ 53` and a binary exponent. Every number here comes
out of `nearest`, which rounds an exact quotient, so a finite double has one form only and equal
forms are equal numbers. Nothing depends on the machine's own floats.
-/

namespace GatedModules

/-- The natural number nearest to `num / den`; of two that are equally near, the even one. -/
def roundHalfEven (num den : Nat) : Nat :=
  let down := num / den
  let rest := num % den
  if 2 * rest < den then down
  else if den < 2 * rest then down + 1
  else down + down % 2

/-- A double-precision number; `finite s m e` is `m * 2 ^ e`, negated when `s` holds. -/
inductive Double where
  | nan
  | infinite (negative : Bool)
  | finite (negative : Bool) (mantissa : Nat) (exponent : Int)
  deriving DecidableEq, Repr, Inhabited

namespace Double

/-- The exponent of the smallest doubles. -/
def leastExponent : Int := -1074

/-- The exponent of the largest doubles. -/
def greatestExponent : Int := 971

def zero : Double := .finite false 0 leastExponent

/-- The exact quotient that stands for `num / den / 2 ^ e`, as a numerator and a denominator. -/
def scaled (num den : Nat) (e : Int) : Nat × Nat :=
  if 0 ≤ e then (num, den * Nat.pow 2 e.toNat) else (num * Nat.pow 2 (-e).toNat, den)

/-- The largest `e` with `2 ^ e ≤ num / den`, for a positive quotient. -/
def binaryOrder (num den : Nat) : Int :=
  let guess : Int := (num.log2 : Int) - den.log2
  let (n, d) := scaled num den guess
  if d ≤ n then guess else guess - 1

/-- The double nearest to `num / den`; of two that are equally near, the one with an even
mantissa. A quotient past the largest double is infinite. -/
def nearest (negative : Bool) (num den : Nat) : Double :=
  if num = 0 then .finite negative 0 leastExponent
  else
    let e := max leastExponent (binaryOrder num den - 52)
    let (n, d) := scaled num den e
    let m := roundHalfEven n d
    let (m, e) := if m = Nat.pow 2 53 then (Nat.pow 2 52, e + 1) else (m, e)
    if greatestExponent < e then .infinite negative else .finite negative m e

/-- The double nearest to `digits * 10 ^ exponent`. The two bounds keep the power of ten small:
beyond them the number is infinite or zero. -/
def ofDecimal (negative : Bool) (digits : Nat) (exponent : Int) : Double :=
  let order : Int := (Nat.toDigits 10 digits).length + exponent
  if digits = 0 ∨ order < -330 then .finite negative 0 leastExponent
  else if 310 < order then .infinite negative
  else if 0 ≤ exponent then nearest negative (digits * Nat.pow 10 exponent.toNat) 1
  else nearest negative digits (Nat.pow 10 (-exponent).toNat)

/-- The double nearest to an integer. -/
def ofInt (n : Int) : Double := nearest (decide (n < 0)) n.natAbs 1

/-- The exact value, as an integer numerator and a positive denominator. -/
def toFraction : Double → Int × Nat
  | .finite negative m e =>
    let size : Int := m * Nat.pow 2 e.toNat
    (if negative then -size else size, Nat.pow 2 (-e).toNat)
  | _ => (0, 1)

/-- The double nearest to a fraction; a zero is positive. -/
def ofFraction (num : Int) (den : Nat) : Double := nearest (decide (num < 0)) num.natAbs den

def isNegative : Double → Bool
  | .nan => false
  | .infinite negative => negative
  | .finite negative _ _ => negative

def isZero : Double → Bool
  | .finite _ m _ => m == 0
  | _ => false

def isFinite : Double → Bool
  | .finite .. => true
  | _ => false

/-- The double nearest to the difference of two doubles. A difference of zero is negative only when
a negative zero loses a positive one. -/
def sub (x y : Double) : Double :=
  match x, y with
  | .nan, _ | _, .nan => .nan
  | .infinite s, .infinite t => if s = t then .nan else .infinite s
  | .infinite s, _ => .infinite s
  | _, .infinite t => .infinite !t
  | .finite .., .finite .. =>
    let (a, b) := x.toFraction
    let (c, d) := y.toFraction
    let num := a * d - c * b
    if num = 0 then .finite (x.isZero && x.isNegative && !y.isNegative) 0 leastExponent
    else ofFraction num (b * d)

/-- The double nearest to a finite double divided by a positive number. -/
def dividedBy (x : Double) (n : Nat) : Double :=
  let (num, den) := x.toFraction
  ofFraction num (den * n)

/-- The whole number nearest to a finite double; a half goes down. -/
def nearestWhole (x : Double) : Int :=
  let (num, den) := x.toFraction
  if (den : Int) < 2 * (num % den) then num / den + 1 else num / den

end Double

end GatedModules
