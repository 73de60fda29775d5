import GatedModules.Module.Basic
import GatedModules.Predicate.Reader

/-!
# Reading modules

A module is read from an object. Members that are not known are ignored. The edges are those of the
three lists, then, block by block, those that have the block's condition.
-/

namespace GatedModules.Module

inductive ReadError where
  | notObject (value : Json)
  | missingName
  | invalidName (value : Json)
  | emptyName
  | pchMode (error : WordError)
  | notNames (owner key : Text)
  | notBlocks (owner : Text)
  | noCondition (owner : Text)
  | condition (owner : Text) (error : Predicate.ReadError)
  deriving DecidableEq, Repr

def ReadError.message : ReadError → Text
  | .notObject value => "Module descriptor must be a JSON object, got " ++ value.kindName
  | .missingName => "Missing required field in module descriptor: 'name'"
  | .invalidName value => "Module name must be a non-empty string, got " ++ value.display
  | .emptyName => "Module name must not be empty"
  | .pchMode error => error.message
  | .notNames owner key =>
    "Module '" ++ owner ++ "': '" ++ key ++ "' must be a list of module names"
  | .notBlocks owner => "Module '" ++ owner ++ "': 'conditional' must be a list of blocks"
  | .noCondition owner =>
    "Module '" ++ owner ++ "': conditional block needs a 'when' predicate"
  | .condition owner error => "Module '" ++ owner ++ "': " ++ error.message

/-- The module names that a value lists, none of them empty. -/
def names? (value : Json) : Option (List Text) :=
  match value.textList? with
  | some names => if names.contains "" then none else some names
  | none => none

/-- The edges of one kind that an object lists. -/
def readKind (owner : Text) (data : Json) (condition : Option Predicate)
    (kind : DependencyKind) : Except ReadError (List Edge) :=
  match names? ((data.member? kind.name).getD (.arr [])) with
  | some names => .ok (names.map fun name => { name, kind, condition })
  | none => .error (.notNames owner kind.name)

/-- The edges that the three lists of an object give. -/
def readKinds (owner : Text) (data : Json) (condition : Option Predicate) :
    Except ReadError (List Edge) := do
  let exported ← readKind owner data condition .exported
  let internal ← readKind owner data condition .internal
  let dynamic ← readKind owner data condition .dynamic
  return exported ++ internal ++ dynamic

/-- The edges of a block, with the condition that the block has. -/
def readBlock (owner : Text) (block : Json) : Except ReadError (List Edge) :=
  match block.member? "when" with
  | none => .error (.noCondition owner)
  | some data => do
    let condition ← (Predicate.ofJson data).mapError (.condition owner)
    readKinds owner block (some condition)

/-- The edges of some blocks, up to the first fault. -/
def readBlocks (owner : Text) : List Json → Except ReadError (List Edge)
  | [] => .ok []
  | block :: rest => do return (← readBlock owner block) ++ (← readBlocks owner rest)

/-- The mode that an object gives. -/
def readMode (data : Json) : Except ReadError PchMode :=
  (PchMode.read ((data.member? "pch_mode").getD (.str PchMode.none.name))).mapError .pchMode

/-- The edges that an object gives. -/
def readEdges (owner : Text) (data : Json) : Except ReadError (List Edge) := do
  let edges ← readKinds owner data none
  match (data.member? "conditional").getD (.arr []) with
  | .arr blocks => return edges ++ (← readBlocks owner blocks)
  | _ => throw (.notBlocks owner)

/-- The module with a name and edges, if the name is not empty. -/
def make (name : Text) (pchMode : PchMode) (edges : List Edge) : Except ReadError Module :=
  if h : name = "" then .error .emptyName else .ok (ofEdges name pchMode edges h)

/-- The module that a value describes. -/
def ofJson (data : Json) : Except ReadError Module :=
  match data with
  | .obj _ =>
    match data.member? "name" with
    | none => .error .missingName
    | some (.str name) =>
      if h : name = "" then .error (.invalidName (.str name))
      else do
        let mode ← readMode data
        let edges ← readEdges name data
        return ofEdges name mode edges h
    | some value => .error (.invalidName value)
  | _ => .error (.notObject data)

end GatedModules.Module
