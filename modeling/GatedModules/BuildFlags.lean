import GatedModules.Environment.Configuration
import GatedModules.Lists
import GatedModules.Target.Basic

/-!
# Build flags

The version of the build settings gives the base flags. The configuration gives a profile, which
takes out of the base flags whatever it controls and puts its own flags behind them. The definitions
follow from the configuration and the features.
-/

namespace GatedModules

/-- Flags for the compiler and for the linker, and preprocessor definitions. -/
structure BuildFlags where
  compile : List Text
  link : List Text
  definitions : List Text
  deriving DecidableEq, Repr, Inhabited

namespace BuildFlags

/-- The flags of one configuration; `controlled` are the beginnings of the flags it decides on. -/
structure Profile where
  name : Text
  compile : List Text
  link : List Text
  controlled : List Text
  deriving DecidableEq, Repr

/-- The beginnings of the flags for optimisation and debugging. -/
def optimisationFlags : List Text :=
  ["-O", "-g", "-flto", "-fno-fat-lto-objects", "-Wl,--gc-sections", "-fuse-linker-plugin"]

def profile (configuration : Configuration) : Profile where
  name := configuration.name
  compile := match configuration with
    | .debug => ["-O0", "-g"]
    | .development => ["-O2", "-g"]
    | .shipping => ["-O3", "-flto", "-fno-fat-lto-objects"]
    | .test => ["-O2", "-g"]
  link := match configuration with
    | .shipping => ["-flto", "-fuse-linker-plugin", "-Wl,--gc-sections"]
    | _ => []
  controlled := optimisationFlags

/-- The compiler flags of a settings version. -/
def baseCompile : SettingsVersion → List Text
  | .v1 => ["-std=c++14", "-fno-exceptions", "-O2"]
  | .v2 => ["-std=c++17", "-fno-exceptions", "-Wshadow", "-O2"]
  | .latest => ["-std=c++20", "-fno-exceptions", "-Wshadow", "-Wundef", "-O2"]

/-- The linker flags of a settings version. -/
def baseLink : SettingsVersion → List Text
  | .v1 => []
  | .v2 | .latest => ["-Wl,--as-needed"]

/-- Whether a profile decides on a flag. -/
def Profile.controls (p : Profile) (flag : Text) : Bool :=
  p.controlled.any fun start => start.isPrefixOf flag

/-- The flags that a profile leaves alone. -/
def Profile.leave (p : Profile) (flags : List Text) : List Text :=
  flags.filter (!p.controls ·)

/-- The definition that marks a configuration. -/
def configurationDefinition (configuration : Configuration) : Text :=
  "BUILD_" ++ configuration.name.toUpper ++ "=1"

/-- The definitions for a configuration and the features that are set. -/
def definitionsFor (configuration : Configuration) (features : List Text) : List Text :=
  configurationDefinition configuration
    :: (sortNames (distinct features)).map fun feature => feature ++ "=1"

/-- The flags for a settings version, a configuration and the features that are set. -/
def select (version : SettingsVersion) (configuration : Configuration) (features : List Text) :
    BuildFlags :=
  let p := profile configuration
  { compile := p.leave (baseCompile version) ++ p.compile
    link := p.leave (baseLink version) ++ p.link
    definitions := definitionsFor configuration features }

/-- One line about the settings in use. -/
def banner (version : SettingsVersion) (configuration : Configuration) : Text :=
  "SETTINGS=" ++ version.name ++ " CONFIG=" ++ configuration.name

end BuildFlags

end GatedModules
