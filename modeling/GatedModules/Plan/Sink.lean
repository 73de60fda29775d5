import GatedModules.Files.Tree
import GatedModules.Plan.Serialized

/-!
# Sinks

A serialized plan is handed to a sink, which either drops it or writes it to a file.
-/

namespace GatedModules

/-- Where a serialized plan goes. -/
inductive PlanSink where
  | null
  | file (path : FilePath) (layout : Json.Layout)
  deriving DecidableEq, Repr

namespace PlanSink

/-- The layout of a file where none is asked for. -/
def defaultLayout : Json.Layout := .spaces 2

/-- A text that has been written, and its place. -/
structure Written where
  place : List Text
  text : String
  deriving DecidableEq, Repr

/-- What is written to a file for a plan. -/
def fileText (layout : Json.Layout) (p : SerializedPlan) : String := p.text layout ++ "\n"

/-- Takes a plan: what is written, if anything, and the files afterwards. Directories that the file
stands in are made if they are missing. -/
def apply (sink : PlanSink) (p : SerializedPlan) (files : FileTree) :
    Except FileError (Option Written × FileTree) :=
  match sink with
  | .null => .ok (none, files)
  | .file path layout => do
    let files ← files.ensureDirectories path.parent
    let (place, files) ← files.write path (fileText layout p)
    return (some ⟨place, fileText layout p⟩, files)

end PlanSink

end GatedModules
