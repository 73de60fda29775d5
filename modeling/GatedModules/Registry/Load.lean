import GatedModules.Files.Tree
import GatedModules.Json.Reader
import GatedModules.Registry.Basic
import GatedModules.Target.Basic
import GatedModules.Text.Utf8

/-!
# Loading registries and targets

A registry is a JSON file or a directory of them, whose files are read in the order of their names.
A file holds an object with a list of modules, a bare list, or one module. The order of declaration
is the order of the files, and within a file the order of the text.
-/

namespace GatedModules

/-- Why the content of a file is no JSON value. -/
inductive ContentError where
  | undecodable (fault : Text.Utf8.Fault)
  | malformed (error : Json.ReadError)
  deriving DecidableEq, Repr

/-- Why a registry or a target is not loaded. -/
inductive LoadError where
  | noRegistry (path : FilePath)
  | noTarget (path : FilePath)
  | unreadable (error : FileError)
  | undecodable (fault : Text.Utf8.Fault)
  | tooLong (digits : Nat)
  | tooDeep (container : Json.Container)
  | invalidJson (path : FilePath) (error : Json.ReadError)
  | noModules (source : Text)
  | registry (error : Registry.ReadError)
  | targetContent (path : FilePath) (error : ContentError)
  | target (path : FilePath) (error : Target.ReadError)
  deriving DecidableEq, Repr

def ContentError.message : ContentError → Text
  | .undecodable fault => fault.message
  | .malformed error => error.message

def LoadError.message : LoadError → Text
  | .noRegistry path => "Module registry not found: " ++ path.text
  | .noTarget path => "Target descriptor not found: " ++ path.text
  | .unreadable error => error.message
  | .undecodable fault => fault.message
  | .tooLong digits => (Json.ReadError.tooLong digits).message
  | .tooDeep container => (Json.ReadError.tooDeep container).message
  | .invalidJson path error => "Invalid JSON in " ++ path.text ++ ": " ++ error.message
  | .noModules source => source ++ ": expected a module object or a 'modules' list"
  | .registry error => error.message
  | .targetContent path error => path.text ++ ": " ++ error.message
  | .target path error => path.text ++ ": " ++ error.message

/-- The JSON value that some bytes hold. -/
def readContent (content : ByteArray) : Except ContentError Json :=
  match Text.Utf8.decode content with
  | .error fault => .error (.undecodable fault)
  | .ok cs => (Json.read (Text.unifyNewlines cs)).mapError .malformed

/-- Whether a value is an object. -/
def Json.isObject : Json → Bool
  | .obj _ => true
  | _ => false

namespace Registry

/-- The module descriptions that a value holds. -/
def entries (source : Text) (data : Json) : Except LoadError (List Json) :=
  let found := match data with
    | .obj _ => (data.member? "modules").getD (.arr [data])
    | _ => data
  match found with
  | .arr items => if items.all Json.isObject then .ok items else .error (.noModules source)
  | _ => .error (.noModules source)

/-- The value that a file of a registry holds. -/
def readFile (files : FileTree) (path : FilePath) : Except LoadError Json :=
  match files.read path with
  | .error e => .error (.unreadable e)
  | .ok content =>
    match readContent content with
    | .ok data => .ok data
    | .error (.undecodable fault) => .error (.undecodable fault)
    | .error (.malformed (.tooLong digits)) => .error (.tooLong digits)
    | .error (.malformed (.tooDeep container)) => .error (.tooDeep container)
    | .error (.malformed error) => .error (.invalidJson path error)

/-- The module descriptions of some files, in order, up to the first fault. -/
def readFiles (files : FileTree) : List FilePath → Except LoadError (List Json)
  | [] => .ok []
  | path :: rest => do
    let here ← entries path.text (← readFile files path)
    return here ++ (← readFiles files rest)

/-- Whether a name is that of a JSON file. -/
def isJsonName (name : Text) : Bool := (".json" : Text).points.isSuffixOf name.points

/-- The files that make up the registry at a path. -/
def sources (files : FileTree) (path : FilePath) : Except LoadError (List FilePath) :=
  match files.locate path with
  | .error .nameTooLong => .error (.unreadable ⟨.nameTooLong, path⟩)
  | .error _ => .error (.noRegistry path)
  | .ok place =>
    match files.entry? place with
    | some .directory => .ok (((files.names place).filter isJsonName).map path.child)
    | _ => .ok [path]

/-- The registry at a path. -/
def load (files : FileTree) (path : FilePath) : Except LoadError Registry := do
  let data ← readFiles files (← sources files path)
  (ofJsons data).mapError .registry

end Registry

/-- The target in a file. -/
def Target.load (files : FileTree) (path : FilePath) : Except LoadError Target :=
  match files.read path with
  | .ok content =>
    match readContent content with
    | .ok data => (Target.ofJson data).mapError (.target path)
    | .error (.malformed (.malformed kind offset line column)) =>
      .error (.invalidJson path (.malformed kind offset line column))
    | .error (.malformed (.tooDeep container)) => .error (.tooDeep container)
    | .error error => .error (.targetContent path error)
  | .error error =>
    if error.fault = .nameTooLong then .error (.unreadable error) else .error (.noTarget path)

end GatedModules
