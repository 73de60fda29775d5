import GatedModules.Number.Text

/-!
# Clock times

A time since the start is shown as whole minutes and the seconds beyond them, these with two
decimals. The minutes are split off before the seconds are rounded. As long as the number of minutes
can be exact it is; a time that lasts longer than most clocks has its minutes as near as doubles go.
-/

namespace GatedModules

/-- A time as whole minutes and `num / den` seconds beyond them. -/
structure ClockTime where
  minutes : Int
  num : Nat
  den : Nat
  deriving DecidableEq, Repr

namespace ClockTime

/-- The time of `num / den` seconds. -/
def ofFraction (num : Int) (den : Nat) : ClockTime :=
  ⟨num / (60 * den), (num % (60 * den)).toNat, den⟩

/-- From this number of seconds on neighbouring doubles are more than four seconds apart, and the
last whole minute before a time need not be a double. -/
def exactLimit : Nat := Nat.pow 2 55

/-- The minutes of a finite time, worked out in doubles. -/
def roundedMinutes (seconds : Double) : Int :=
  let (num, den) := seconds.toFraction
  let rest := Double.ofFraction (num.tmod (60 * den)) den
  let minutes := (seconds.sub rest).dividedBy 60
  (if num.tmod (60 * den) < 0 then minutes.sub (.ofInt 1) else minutes).nearestWhole

/-- The time of a number of seconds, if that is finite. Before the start the seconds beyond the
minutes need more digits than a double has, and are taken as the nearest double. -/
def ofSeconds? (seconds : Double) : Option ClockTime :=
  if seconds.isFinite then
    let (num, den) := seconds.toFraction
    let time := ofFraction num den
    let time := if num.natAbs < exactLimit * den then time
      else { time with minutes := roundedMinutes seconds }
    if seconds.isNegative then
      let (num, den) := (Double.nearest false time.num time.den).toFraction
      some { time with num := num.toNat, den }
    else some time
  else none

def text (time : ClockTime) : String :=
  padLeft 2 '0' (toString time.minutes) ++ ":" ++ padLeft 5 '0' (fixedText 2 time.num time.den)

/-- What is said of a time that has no minutes because it is not finite. -/
def notFiniteMessage : String := "cannot convert float NaN to integer"

end ClockTime

end GatedModules
