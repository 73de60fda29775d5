import GatedModules.Lists
import GatedModules.Vocabulary

/-!
# Targets

A target is the artifact to be built. It names the modules that the resolution starts from.
-/

namespace GatedModules

/-- The kind of artifact. -/
inductive TargetKind where
  | executable
  | sharedLibrary
  | staticLibrary
  | testHarness
  deriving DecidableEq, Repr, Inhabited

namespace TargetKind

def all : List TargetKind := [.executable, .sharedLibrary, .staticLibrary, .testHarness]

def name : TargetKind → String
  | .executable => "Executable"
  | .sharedLibrary => "SharedLibrary"
  | .staticLibrary => "StaticLibrary"
  | .testHarness => "TestHarness"

def vocabulary : Vocabulary TargetKind where
  title := "Target kind"
  noun := "target kind"
  words := all.map fun k => (k.name, k)

end TargetKind

/-- The version of the build settings, which chooses the flags that every module gets. -/
inductive SettingsVersion where
  | v1
  | v2
  | latest
  deriving DecidableEq, Repr, Inhabited

namespace SettingsVersion

def all : List SettingsVersion := [.v1, .v2, .latest]

def name : SettingsVersion → String
  | .v1 => "V1"
  | .v2 => "V2"
  | .latest => "Latest"

def vocabulary : Vocabulary SettingsVersion where
  title := "Build settings version"
  noun := "build settings version"
  words := all.map fun v => (v.name, v)

end SettingsVersion

/-- A target; no root is named twice. -/
structure Target where
  name : Text
  kind : TargetKind
  version : SettingsVersion
  roots : List Text
  nodup : roots.Nodup
  deriving DecidableEq, Repr

namespace Target

def toJson (t : Target) : Json := .obj [
  ("name", .str t.name),
  ("kind", .str t.kind.name),
  ("build_settings_version", .str t.version.name),
  ("root_modules", .texts t.roots)]

/-! ## Reading -/

inductive ReadError where
  | notObject (value : Json)
  | missing (field : String)
  | invalidName (value : Json)
  | notRoots (target : Text)
  | word (error : WordError)
  | repeatedRoots (target : Text) (roots : List Text)
  deriving DecidableEq, Repr

def ReadError.message : ReadError → Text
  | .notObject value => "Target descriptor must be a JSON object, got " ++ value.kindName
  | .missing field => "Missing required field in target descriptor: '" ++ field ++ "'"
  | .invalidName value => "Target name must be a non-empty string, got " ++ value.display
  | .notRoots target => "Target '" ++ target ++ "': 'root_modules' must be a list of module names"
  | .word error => error.message
  | .repeatedRoots target roots =>
    "Target '" ++ target ++ "' lists duplicate root modules: " ++ Text.intercalate ", " roots

/-- The target with the given parts, if no root is named twice. -/
def make (name : Text) (kind : TargetKind) (version : SettingsVersion) (roots : List Text) :
    Except ReadError Target :=
  if h : roots.Nodup then .ok { name, kind, version, roots, nodup := h }
  else .error (.repeatedRoots name (repeated roots))

/-- The root names that a value lists, none of them empty. -/
def roots? (value : Json) : Option (List Text) :=
  match value.textList? with
  | some names => if names.contains "" then none else some names
  | none => none

/-- The target with a name and roots, its kind and version taken from an object. -/
def ofParts (name : Text) (roots : List Text) (data : Json) : Except ReadError Target := do
  let kind ← (TargetKind.vocabulary.read
    ((data.member? "kind").getD (.str TargetKind.executable.name))).mapError .word
  let version ← (SettingsVersion.vocabulary.read
    ((data.member? "build_settings_version").getD (.str SettingsVersion.latest.name))).mapError
    .word
  make name kind version roots

/-- The target that a value describes. -/
def ofJson (data : Json) : Except ReadError Target :=
  match data with
  | .obj _ =>
    match data.member? "name", data.member? "root_modules" with
    | none, _ => .error (.missing "name")
    | _, none => .error (.missing "root_modules")
    | some name, some roots =>
      match name with
      | .str name =>
        if name = "" then .error (.invalidName (.str name))
        else match roots? roots with
          | some roots => ofParts name roots data
          | none => .error (.notRoots name)
      | _ => .error (.invalidName name)
  | _ => .error (.notObject data)

end Target

end GatedModules
