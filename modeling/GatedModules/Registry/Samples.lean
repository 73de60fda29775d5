import GatedModules.Registry.Load

/-!
# Sample projects

A sample is a directory with a target and the modules for it. The samples that come with the program
stand in one directory and are known by their names there. A name may be any path, though, and one
that begins at the root or leads up finds a sample elsewhere.
-/

namespace GatedModules

/-- A target with the registry that it is resolved against. -/
structure Sample where
  target : Target
  registry : Registry

namespace Sample

/-- Why a sample is not loaded. -/
inductive LoadError where
  | unknown (name : Text) (available : List Text)
  | unreadable (error : FileError)
  | content (error : ContentError)
  | target (error : Target.ReadError)
  | entries (error : GatedModules.LoadError)
  | registry (error : Registry.ReadError)
  deriving DecidableEq, Repr

def LoadError.message : LoadError → Text
  | .unknown name available =>
    "Unknown sample '" ++ name ++ "' (available: " ++ Text.intercalate ", " available ++ ")"
  | .unreadable error => error.message
  | .content error => error.message
  | .target error => error.message
  | .entries error => error.message
  | .registry error => error.message

def targetFile (directory : FilePath) : FilePath := directory.child "target.json"

def modulesFile (directory : FilePath) : FilePath := directory.child "modules.json"

/-! ## Finding samples -/

/-- Whether a sample stands in a directory. -/
def isIn (files : FileTree) (directory : FilePath) : Except FileError Bool := do
  if ← files.findsFile (targetFile directory) then files.findsFile (modulesFile directory)
  else return false

/-- Whether a sample is listed: a directory with a target. -/
def isListed (files : FileTree) (directory : FilePath) : Except FileError Bool := do
  if ← files.findsDirectory directory then files.findsFile (targetFile directory)
  else return false

/-- Those of some names in a directory under which a sample is listed. -/
def listed (files : FileTree) (samples : FilePath) : List Text → Except FileError (List Text)
  | [] => .ok []
  | name :: rest => do
    let isSample ← isListed files (samples.child name)
    let others ← listed files samples rest
    return if isSample then name :: others else others

/-- The names of the samples in a directory; none if there is no such directory. -/
def names (files : FileTree) (samples : FilePath) : Except FileError (List Text) :=
  match files.locate samples with
  | .error .notFound => .ok []
  | .error fault => .error ⟨fault, samples⟩
  | .ok place =>
    match files.entry? place with
    | some .directory => listed files samples (files.names place)
    | some (.file _) => .error ⟨.notDirectory, samples⟩
    | none => .ok []

/-! ## Loading a sample -/

/-- The value that a file of a sample holds. -/
def readFile (files : FileTree) (path : FilePath) : Except LoadError Json :=
  match files.read path with
  | .error e => .error (.unreadable e)
  | .ok content => (readContent content).mapError .content

/-- The sample in a directory; its name stands in messages. -/
def read (files : FileTree) (directory : FilePath) (name : Text) : Except LoadError Sample := do
  let target ← (Target.ofJson (← readFile files (targetFile directory))).mapError .target
  let data ← readFile files (modulesFile directory)
  let modules ← (Registry.entries ("sample " ++ name) data).mapError .entries
  let registry ← (Registry.ofJsons modules).mapError .registry
  return { target, registry }

/-- The sample that a name leads to from the directory of the samples. -/
def load (files : FileTree) (samples : FilePath) (name : Text) : Except LoadError Sample := do
  let directory := samples.join name
  if ← (isIn files directory).mapError .unreadable then read files directory name
  else throw (.unknown name (← (names files samples).mapError .unreadable))

end Sample

end GatedModules
