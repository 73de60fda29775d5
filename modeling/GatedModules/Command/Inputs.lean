import GatedModules.Command.Message
import GatedModules.CommandLine.Invocation
import GatedModules.Environment.Host
import GatedModules.Registry.Load
import GatedModules.Registry.Samples
import GatedModules.Resolution.Limit

/-!
# The inputs of a command

A command works on the machine it runs on: the files and where among them the samples are, the
assignments of the process, what the host says of itself and the way to draw. From these and its
options come the depth limit, the environment, the registry and the target.
-/

namespace GatedModules

structure Machine where
  files : FileTree
  /-- The directory of the samples. -/
  samples : FilePath
  assignments : List (Text × Text)
  host : Host
  drawing : Drawing

/-- What keeps a command from getting its inputs. -/
inductive InputError where
  | limit (error : DepthLimit.ReadError)
  | dropped (value : DroppedValue)
  | word (error : WordError)
  | noSource
  | sample (error : Sample.LoadError)
  | load (error : LoadError)
  | noTarget
  deriving DecidableEq, Repr

namespace InputError

def message : InputError → Text
  | .limit error => error.message
  | .dropped value => value.message
  | .word error => error.message
  | .noSource => "Either --registry or --sample is required"
  | .sample error => error.message
  | .load error => error.message
  | .noTarget => "--target is required with --registry"

/-- The breakdown on a file, if a command does not report it: one that is missing and a path that
never reached the system are reported. -/
def fileBreakdown? (error : FileError) : Option Breakdown :=
  if error.fault = .notFound || error.fault.isInPath then none else some (.file error)

/-- What a command does not report itself: a value that was dropped, a file that is there and cannot
be read, and one whose content is nested too deeply. -/
def breakdown? : InputError → Option Breakdown
  | .dropped value => some (.dropped value)
  | .load (.tooDeep container) => some (.content container)
  | .load (.unreadable error) => fileBreakdown? error
  | .sample (.content (.malformed (.tooDeep container))) => some (.content container)
  | .sample (.unreadable error) => fileBreakdown? error
  | _ => none

end InputError

namespace Machine

/-- The depth limit for an option. -/
def limit (m : Machine) (maxDepth : Option Json) : Except InputError DepthLimit :=
  (DepthLimit.choose maxDepth (m.assignments.lookup (DepthLimit.variableName : Text))).mapError
    .limit

/-- A text that is given and not empty, or another one. -/
def givenOr (text : Option Text) (default : Text) : Text :=
  match text with
  | some s => if s = "" then default else s
  | none => default

/-- The flags that the features of a resolution set. -/
def flags (features : List (Setting Text)) : Except InputError (List (Text × Json)) := do
  let names ← features.mapM fun setting => match setting with
    | .value name => Except.ok name
    | .dropped => .error (.dropped .feature)
  return (distinct names).map fun name => (name, Json.bool true)

/-- The environment for the options of a resolution; what they do not say, the host does. -/
def environment (m : Machine) (o : ResolveOptions) : Except InputError Environment := do
  let features ← flags o.features
  let env ← (m.host.environment o.configuration features).mapError .word
  if o.platform.isNone && o.architecture.isNone then return env
  else (Environment.create (.str (givenOr o.platform m.host.platformName))
    (.str (givenOr o.architecture m.host.architecture)) o.configuration features).mapError .word

/-- The record of a registry that has been loaded. -/
def loadedRecord (r : Registry) (path : FilePath) : Message :=
  .logged ⟨.debug, "buildplan.registry",
    "Loaded " ++ toString r.size ++ " modules from " ++ path.text⟩

/-- What a source holds. -/
structure Loaded where
  registry : Registry
  target : Option Target
  messages : List Message

/-- The modules of a source, with the target of a sample. -/
def loadSource (m : Machine) : Option RegistrySource → Except InputError Loaded
  | none => .error .noSource
  | some (.sample name) =>
    match Sample.load m.files m.samples name with
    | .ok sample => .ok ⟨sample.registry, some sample.target, []⟩
    | .error e => .error (.sample e)
  | some (.path .dropped) => .error (.dropped .registry)
  | some (.path (.value path)) =>
    match Registry.load m.files path with
    | .ok registry => .ok ⟨registry, none, [loadedRecord registry path]⟩
    | .error e => .error (.load e)

/-- The target in a file that is given. -/
def loadTarget (m : Machine) (path : Option (Setting FilePath)) :
    Except InputError (Option Target) :=
  match path with
  | none => .ok none
  | some .dropped => .error (.dropped .target)
  | some (.value path) =>
    match Target.load m.files path with
    | .ok target => .ok (some target)
    | .error e => .error (.load e)

end Machine

end GatedModules
