import GatedModules.Environment.Basic
import GatedModules.Predicate.Basic

/-!
# Evaluating predicates

A predicate is evaluated from the left and no further than the answer needs. Only a test of the
architecture can fail, and only where the environment's architecture is no text.
-/

namespace GatedModules

/-- An architecture was asked for and the environment holds something else. -/
structure ArchitectureFault where
  found : Json
  deriving DecidableEq, Repr

def ArchitectureFault.message (fault : ArchitectureFault) : String :=
  "'" ++ fault.found.kindName ++ "' object has no attribute 'lower'"

namespace Predicate

/-- Whether a name is that of a known platform and of the one of an environment. -/
def matchesPlatform (env : Environment) (name : Text) : Bool :=
  Platform.isKnownName name && Text.sameLower name env.platform.name

/-- Whether a name is that of a known configuration and of the one of an environment. -/
def matchesConfiguration (env : Environment) (name : Text) : Bool :=
  Configuration.isKnownName name && Text.sameLower name env.configuration.name

mutual

/-- Whether a predicate holds in an environment. -/
def evaluate (env : Environment) : Predicate → Except ArchitectureFault Bool
  | .always => .ok true
  | .platformIn names => .ok (env.platform != .other && names.any (matchesPlatform env))
  | .architectureIn names =>
    match env.architecture with
    | .str architecture => .ok (names.any fun name => Text.sameLower name architecture)
    | found => .error { found }
  | .configurationIn names => .ok (names.any (matchesConfiguration env))
  | .featureEnabled name => .ok (env.isEnabled name)
  | .allOf ps => evaluateAll env ps
  | .anyOf ps => evaluateAny env ps
  | .negation p => (evaluate env p).map (!·)

/-- Whether all of some predicates hold; the first that does not ends the search. -/
def evaluateAll (env : Environment) : List Predicate → Except ArchitectureFault Bool
  | [] => .ok true
  | p :: ps => do if ← evaluate env p then evaluateAll env ps else return false

/-- Whether one of some predicates holds; the first that does ends the search. -/
def evaluateAny (env : Environment) : List Predicate → Except ArchitectureFault Bool
  | [] => .ok false
  | p :: ps => do if ← evaluate env p then return true else evaluateAny env ps

end

/-- Whether a condition holds; a missing one does. -/
def evaluate? (env : Environment) : Option Predicate → Except ArchitectureFault Bool
  | none => .ok true
  | some p => evaluate env p

/-! ## Names without a platform -/

mutual

/-- The platform names that evaluation passes over because they stand for no known platform. -/
def passedOver (env : Environment) : Predicate → List Text
  | .platformIn names =>
    if env.platform = .other then []
    else (names.takeWhile (!matchesPlatform env ·)).filter (!Platform.isKnownName ·)
  | .allOf ps => passedOverAll env ps
  | .anyOf ps => passedOverAny env ps
  | .negation p => passedOver env p
  | _ => []

def passedOverAll (env : Environment) : List Predicate → List Text
  | [] => []
  | p :: ps =>
    passedOver env p ++ match evaluate env p with
      | .ok true => passedOverAll env ps
      | _ => []

def passedOverAny (env : Environment) : List Predicate → List Text
  | [] => []
  | p :: ps =>
    passedOver env p ++ match evaluate env p with
      | .ok false => passedOverAny env ps
      | _ => []

end

end Predicate

end GatedModules
