import GatedModules.Files.Tree
import GatedModules.Json.Reader
import GatedModules.Resolution.Resolve
import GatedModules.Table

/-!
# How a command ends

A command ends with an exit code, or it breaks down on an error that it does not report itself.
-/

namespace GatedModules

inductive ExitCode where
  | ok
  | resolutionError
  | inputError
  deriving DecidableEq, Repr

def ExitCode.value : ExitCode → Nat
  | .ok => 0
  | .resolutionError => 1
  | .inputError => 2

/-- An option that cannot do without the value that was dropped. -/
inductive DroppedValue where
  | registry
  | target
  | output
  | feature
  deriving DecidableEq, Repr

def DroppedValue.message : DroppedValue → String
  | .registry => "'list' object has no attribute 'exists'"
  | .target => "'list' object has no attribute 'is_file'"
  | .output => "'list' object has no attribute 'parent'"
  | .feature => "unhashable type: 'list'"

/-- An error that a command does not report itself, be it of a stage or of the output. -/
inductive Breakdown where
  | file (error : FileError)
  | content (container : Json.Container)
  | dropped (value : DroppedValue)
  | resolution (failure : ResolveFailure)
  | drawing (fault : DrawingFault)
  | printing (error : Text.Unwritable)
  deriving DecidableEq, Repr

abbrev Ending := Except Breakdown ExitCode

end GatedModules
