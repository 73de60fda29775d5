import GatedModules.Command.Program
import GatedModules.Registry.Packaged
import GatedModules.Terminal.Drawing

/-!
# The command line

The outermost layer: it looks at the files that a command names, reads the clock, prints and writes.
-/

namespace GatedModules.Main

/-! ## Looking at the machine -/

/-- The text of a file without blanks around it, or nothing if there is no such file. -/
def readWord (path : String) : IO (Option String) := do
  try
    let text ← IO.FS.readFile path
    return some (String.ofList (Text.trimmed Text.isBlank text.toList))
  catch _ => return none

/-- What the host says of itself. -/
def readHost : IO Host := do
  let kernel ← readWord "/proc/sys/kernel/ostype"
  let processor ← readWord "/proc/sys/kernel/arch"
  let named ← IO.getEnv "PROCESSOR_ARCHITECTURE"
  let system : Text := match kernel with
    | some name => Text.lower name
    | none => if named.isSome then "win32" else "darwin"
  return { system, machine := ((processor.or named).getD "" : String), bits := USize.size.log2 }

/-- The place of the program, the samples among its files. -/
def programPlace : List Text := ["usr", "share", "gated-modules"]

/-- The path of a place, which does not depend on the current directory. -/
def placeText (place : List Text) : String := "/" ++ (Text.intercalate "/" place).printed

/-- What stands at a place, the content of a file included. -/
def readEntry (place : List Text) : IO (Option FileEntry) := do
  let path := (← IO.currentDir) / placeText place
  if ← path.isDir then return some .directory
  if ← path.pathExists then return some (.file (← IO.FS.readBinFile path))
  return none

/-- The tree with the places that some names lead through. -/
def observe (tree : FileTree) (place : List Text) : List Text → IO FileTree
  | [] => return tree
  | name :: rest => do
    let place := if name = ".." then place.dropLast else place ++ [name]
    if (tree.entry? place).any FileEntry.isDirectory then observe tree place rest
    else match ← readEntry place with
      | some entry => observe (tree.set place entry) place rest
      | none => return tree

/-- The tree with the places that a path leads through. -/
def observePath (tree : FileTree) (path : FilePath) : IO FileTree :=
  observe tree (tree.startOf path) path.names

/-- The tree of a program that has looked at nothing yet. -/
def firstTree : IO FileTree := do
  let here := (FilePath.ofText (← IO.currentDir).toString).names
  observe ⟨here, Sample.program programPlace⟩ [] here

/-- The tree with a registry: a file, or a directory and the JSON files in it. -/
def observeRegistry (tree : FileTree) (path : FilePath) : IO FileTree := do
  let tree ← observePath tree path
  match tree.locate path with
  | .ok place =>
    if (tree.entry? place).any FileEntry.isDirectory then
      let entries ← ((← IO.currentDir) / placeText place).readDir
      let names := (entries.toList.map fun e => Text.ofString e.fileName).filter Registry.isJsonName
      names.foldlM (fun tree name => observePath tree (path.child name)) tree
    else return tree
  | .error _ => return tree

def observeSource (tree : FileTree) : Option RegistrySource → IO FileTree
  | some (.path (.value path)) => observeRegistry tree path
  | some (.sample name) => do
    let directory := (Sample.path programPlace).join name
    [Sample.targetFile directory, Sample.modulesFile directory].foldlM observePath tree
  | _ => return tree

/-- The paths that options give. -/
def pathsOf (settings : List (Option (Setting FilePath))) : List FilePath :=
  settings.filterMap fun setting => match setting with
    | some (.value path) => some path
    | _ => none

/-- The files that an invocation names. -/
def readFiles : Invocation → IO FileTree
  | .resolve o => do
    let tree ← observeSource (← firstTree) o.source
    (pathsOf [o.target, o.output]).foldlM observePath tree
  | .modules o => do observeSource (← firstTree) o.source
  | _ => firstTree

def readMachine (invocation : Invocation) : IO Machine := do
  let depth ← IO.getEnv DepthLimit.variableName
  return {
    files := ← readFiles invocation
    samples := Sample.path programPlace
    assignments := depth.toList.map fun (value : String) => (DepthLimit.variableName, value)
    host := ← readHost
    drawing := Terminal.drawing }

/-! ## Running -/

/-- The seconds on the clock. -/
def readClock : IO Double := do return Double.ofFraction (← IO.monoMsNow) 1000

/-- The exit code of an ending. What a command broke down on is said here. -/
def exitCode : Ending → IO UInt32
  | .ok code => return code.value.toUInt32
  | .error e => do
    IO.eprintln (match e with
      | .file e => e.message
      | .content container => (Json.ReadError.tooDeep container).message
      | .dropped value => value.message
      | .resolution _ => "internal error"
      | .drawing (.markup message) | .drawing (.size message) => message.printed
      | .drawing (.unwritable e) | .printing e => e.message)
    return 1

/-- Writes a text to the place of a path, with the directories it stands in. -/
def writeText (path : FilePath) (text : String) : IO Unit := do
  IO.FS.createDirAll path.parent.text.printed
  IO.FS.writeFile path.text.printed text

/-- Leaves behind what a trace says, the file at the path that is given for it. -/
def leave (path : Option (Setting FilePath)) (t : Trace) : IO Unit := do
  match path, t.file with
  | some (.value path), some file => writeText path file.text
  | _, _ => pure ()
  IO.print t.output
  IO.eprint t.errors

/-- Goes through the stages of a resolution and plays the messages of each as it ends. -/
partial def resolve (m : Machine) (o : ResolveOptions) (stage : ResolveStage)
    (console : Console) : IO UInt32 := do
  let (next, messages) := stage.next m o
  let (console, trace) := Message.play { console with now := ← readClock } messages
  leave o.output trace
  match trace.stopped, next with
  | some breakdown, _ => exitCode (.error breakdown)
  | none, .ended ending => exitCode ending
  | none, next => resolve m o next console

/-- Writes what a run leaves behind. -/
def deliver (r : Program.Result) : IO UInt32 := do
  IO.print r.output
  IO.eprint r.errors
  exitCode r.ending

/-- Carries out an invocation. -/
def carryOut (invocation : Invocation) : IO UInt32 := do
  let m ← readMachine invocation
  match invocation with
  | .resolve o => resolve m o .settling (Program.console o.verbose .zero)
  | _ => deliver (Program.runCommand m .zero invocation)

end GatedModules.Main

def main (arguments : List String) : IO UInt32 := do
  match GatedModules.Invocation.read (arguments.map GatedModules.Text.ofString) with
  | .ok invocation => GatedModules.Main.carryOut invocation
  | .error dismissal => GatedModules.Main.deliver (GatedModules.Program.dismiss dismissal)
