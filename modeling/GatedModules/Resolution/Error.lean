import GatedModules.Json.Basic

/-!
# Why a target does not resolve
-/

namespace GatedModules

/-- What keeps a target from being resolved: a name that is not declared, with the module that
refers to it unless a root does; a cycle, whose path ends where it begins; or a chain of
dependencies that is longer than the limit. -/
inductive ResolutionError where
  | unknownModule (module : Text) (parent : Option Text) (target : Text)
  | cyclicDependency (path : List Text)
  | depthExceeded (limit : Int) (path : List Text)
  deriving DecidableEq, Repr

namespace ResolutionError

def kind : ResolutionError → String
  | .unknownModule .. => "UnknownModule"
  | .cyclicDependency _ => "CyclicDependency"
  | .depthExceeded .. => "DepthExceeded"

/-- A chain of modules. -/
def chain (path : List Text) : Text := Text.intercalate " -> " path

/-- A path of more than eight modules without its middle. -/
def shorten (path : List Text) : List Text :=
  if path.length ≤ 8 then path else path.take 4 ++ (("..." : Text) :: path.drop (path.length - 3))

/-- Who refers to an unknown module. -/
def referrer (parent : Option Text) (target : Text) : Text :=
  match parent with
  | some parent => "module '" ++ parent ++ "'"
  | none => if target = "" then "target roots" else "target '" ++ target ++ "'"

/-- What is said of a chain that is too long for a limit. -/
def depthText (limit : Text) (path : List Text) : Text :=
  "Dependency depth exceeds " ++ limit ++ ": " ++ chain (shorten path)

def message : ResolutionError → Text
  | .unknownModule module parent target =>
    "Unknown module '" ++ module ++ "' referenced by " ++ referrer parent target
  | .cyclicDependency path => "Cyclic dependency detected: " ++ chain path
  | .depthExceeded limit path => depthText (toString limit) path

def toJson (e : ResolutionError) : Json :=
  .obj <| ("kind", .str e.kind) :: ("message", .str e.message) :: match e with
    | .unknownModule module parent _ =>
      [("module", .str module), ("parent", match parent with
        | some parent => .str parent
        | none => .null)]
    | .cyclicDependency path => [("path", .texts path)]
    | .depthExceeded limit path => [("max_depth", .int limit), ("path", .texts path)]

end ResolutionError

end GatedModules
