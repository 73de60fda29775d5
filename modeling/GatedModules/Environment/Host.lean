import GatedModules.Environment.Reader

/-!
# The host machine

An environment for the machine that the program runs on, from what the system says of itself.
-/

namespace GatedModules

/-- What a machine says of itself: the name of its system, the name of its processor and the size
of its pointers in bits. -/
structure Host where
  system : Text
  machine : Text
  bits : Nat
  deriving DecidableEq, Repr, Inhabited

namespace Host

/-- The architecture under its common name. -/
def architecture (host : Host) : Text :=
  let machine := Text.lower host.machine
  if machine = "x86_64" ∨ machine = "amd64" then "x64"
  else if machine = "aarch64" ∨ machine = "arm64" then "arm64"
  else if machine = "i386" ∨ machine = "i686" ∨ machine = "x86" then "x86"
  else if machine = "" then "unknown"
  else machine

/-- The name of the platform; a system that is not known keeps its own name. -/
def platformName (host : Host) : Text :=
  if host.system = "win32" then
    if Nat.pow 2 32 < Nat.pow 2 (host.bits - 1) - 1 then Platform.win64.name
    else Platform.win32.name
  else if host.system = "darwin" then Platform.mac.name
  else if Text.isPrefixOf "linux" host.system then
    if host.architecture = "arm64" then Platform.linuxArm64.name else Platform.linux.name
  else host.system

/-- The environment of the machine. -/
def environment (host : Host) (configuration : Json) (features : List (Text × Json)) :
    Except WordError Environment :=
  Environment.create (.str host.platformName) (.str host.architecture) configuration features

end Host

end GatedModules
