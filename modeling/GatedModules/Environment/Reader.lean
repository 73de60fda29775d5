import GatedModules.Environment.Basic
import GatedModules.Json.Sequence

/-!
# Reading environments

An environment is read from an object. The flags are checked first, then the platform and the
configuration.
-/

namespace GatedModules.Environment

inductive ReadError where
  | notObject (value : Json)
  | missingPlatform
  | featuresNotObject
  | featureNotBool (name : Text) (value : Json)
  | word (error : WordError)
  deriving DecidableEq, Repr

def ReadError.message : ReadError → Text
  | .notObject value => value.noMembersMessage
  | .missingPlatform => "Missing required field in environment: 'platform'"
  | .featuresNotObject => "Environment 'features' must be an object of name: bool"
  | .featureNotBool name value =>
    "Feature '" ++ name ++ "' must be true or false, got " ++ value.display
  | .word error => error.message

/-- An environment from values that have yet to be recognised, the platform before the
configuration. -/
def create (platform architecture configuration : Json) (features : List (Text × Json)) :
    Except WordError Environment := do
  let p ← Platform.read platform
  let c ← Configuration.read configuration
  return onPlatform p platform.plain architecture c features

/-- The first flag whose value is neither true nor false. -/
def firstUnclearFeature (features : List (Text × Json)) : Option (Text × Json) :=
  features.find? fun f => match f.2 with
    | .bool _ => false
    | _ => true

/-- The environment that an object describes. -/
def ofMembers (data : Json) : Except ReadError Environment :=
  match data.member? "platform" with
  | none => .error .missingPlatform
  | some platform =>
    match (data.member? "features").getD (.obj []) with
    | .obj features =>
      match firstUnclearFeature features with
      | some (name, value) => .error (.featureNotBool name value)
      | none =>
        (create platform ((data.member? "architecture").getD defaultArchitecture)
          ((data.member? "configuration").getD (.str defaultConfiguration.name)) features).mapError
          .word
    | _ => .error .featuresNotObject

/-- The environment that a value describes. -/
def ofJson (data : Json) : Except ReadError Environment :=
  match data with
  | .obj _ => ofMembers data
  | _ => .error (.notObject data)

end GatedModules.Environment
