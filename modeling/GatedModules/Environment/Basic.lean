import GatedModules.Environment.Configuration
import GatedModules.Environment.Platform
import GatedModules.Lists

/-!
# Build environments

An environment is what the conditions of dependency edges are evaluated against: a platform, an
architecture, a configuration and feature flags. The platform is kept together with the name it was
given by, because unknown names all stand for the same platform.
-/

namespace GatedModules

/-- A build environment. The architecture and the values of the flags are kept as they were given;
an architecture that is no text fails only where a condition asks for it. -/
structure Environment where
  platform : Platform
  platformName : Text
  architecture : Json
  configuration : Configuration
  features : List (Text × Json)
  deriving DecidableEq, Repr, Inhabited

namespace Environment

/-- The architecture where none is given. -/
def defaultArchitecture : Json := .str "x64"

/-- The configuration where none is given. -/
def defaultConfiguration : Configuration := .development

/-- An environment on a platform; without a name the platform's own one is used. -/
def onPlatform (platform : Platform) (name : Text) (architecture : Json)
    (configuration : Configuration) (features : List (Text × Json)) : Environment where
  platform
  platformName := if name = "" then platform.name else name
  architecture
  configuration
  features

/-- Whether a flag is set. A missing flag is not. -/
def isEnabled (env : Environment) (feature : Text) : Bool :=
  match env.features.lookup feature with
  | some value => value.isSet
  | none => false

/-- The flags that are set, sorted by name. -/
def enabledFeatures (env : Environment) : List Text :=
  sortNames ((env.features.filter fun f => f.2.isSet).map (·.1))

/-- The flags sorted by name. -/
def sortedFeatures (env : Environment) : List (Text × Json) :=
  env.features.mergeSort fun f g => decide (f.1 ≤ g.1)

/-- An environment with its flags in order. -/
def normalized (env : Environment) : Environment := { env with features := env.sortedFeatures }

/-- Whether two environments agree in everything but the order of their flags. -/
def agrees (a b : Environment) : Bool := a.normalized == b.normalized

/-- One line about an environment. -/
def describe (env : Environment) : Text :=
  let features := env.enabledFeatures
  let shown : Text := if features.isEmpty then "" else " features=" ++ Text.intercalate "," features
  "platform=" ++ env.platformName ++ " arch=" ++ env.architecture.plain ++ " config="
    ++ env.configuration.name ++ shown

def toJson (env : Environment) : Json := .obj [
  ("platform", .str env.platformName),
  ("architecture", env.architecture),
  ("configuration", .str env.configuration.name),
  ("features", .obj env.sortedFeatures)]

end Environment

end GatedModules
