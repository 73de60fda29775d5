import GatedModules.Json.Basic
import GatedModules.Text.Digit

/-!
# The depth limit

A dependency chain may have so many modules, the root included, and no more. The limit is positive;
it is given outright or by a variable of the process environment.
-/

namespace GatedModules

structure DepthLimit where
  value : Nat
  positive : 0 < value
  deriving DecidableEq, Repr

namespace DepthLimit

/-- The limit where none is given. -/
def default : DepthLimit := ⟨256, by decide⟩

/-- The variable that may give a limit. -/
def variableName : String := "BUILDPLAN_MAX_DEPTH"

inductive ReadError where
  | notPositive (value : Json)
  | notInteger (text : Text)
  deriving DecidableEq, Repr

def ReadError.message : ReadError → String
  | .notPositive value => "max_depth must be a positive integer, got " ++ value.display
  | .notInteger text => variableName ++ " must be an integer, got " ++ Text.quoted text

/-- The limit that a value gives. -/
def ofJson (value : Json) : Except ReadError DepthLimit :=
  match value with
  | .int n => if h : 0 < n.toNat then .ok ⟨n.toNat, h⟩ else .error (.notPositive value)
  | _ => .error (.notPositive value)

/-- The limit that the text of the variable gives; a blank text gives none. -/
def ofVariable (text : Text) : Except ReadError DepthLimit :=
  if Text.isBlankText text then .ok default
  else match Text.integer? text with
    | some n => ofJson (.int n)
    | none => .error (.notInteger text)

/-- The limit in force: a value that is given outright comes before the variable. -/
def choose (given : Option Json) (fromEnvironment : Option Text) : Except ReadError DepthLimit :=
  match given, fromEnvironment with
  | some value, _ => ofJson value
  | none, some text => ofVariable text
  | none, none => .ok default

end DepthLimit

end GatedModules
