import GatedModules.Json.Sequence
import GatedModules.Json.Writer
import GatedModules.Plan.Basic

/-!
# Serialized plans

The form of a plan that the toolchain takes: lists in the order of the plan, because the order of a
link line matters. A serialized plan that is read back is taken as it stands; only the shape of its
lists is looked at.
-/

namespace GatedModules

structure SerializedPlan where
  target : Json
  ordered : List Json
  linked : List Json
  dynamic : List Json
  pchModes : List (Json × Json)
  compile : List Json
  link : List Json
  definitions : List Json
  schemaVersion : Json
  deriving DecidableEq, Repr

namespace SerializedPlan

/-- The version of the layout that is written. -/
def currentSchema : Json := .int 1

/-- The entries of an object, the keys as member names. -/
def entriesJson (entries : List (Json × Json)) : Json :=
  .obj (entries.map fun e => (e.1.keyText, e.2))

def toJson (p : SerializedPlan) : Json := .obj [
  ("target", p.target),
  ("ordered_modules", .arr p.ordered),
  ("link_set", .arr p.linked),
  ("dynamic_set", .arr p.dynamic),
  ("precompiled_header_modes", entriesJson p.pchModes),
  ("compile_flags", .arr p.compile),
  ("link_flags", .arr p.link),
  ("definitions", .arr p.definitions),
  ("schema_version", p.schemaVersion)]

/-- The layout of the text of a plan where none is asked for. -/
def defaultLayout : Json.Layout := .spaces 2

/-- The text of a serialized plan. -/
def text (layout : Json.Layout) (p : SerializedPlan) : String := p.toJson.write layout

/-! ## Reading -/

inductive ReadError where
  | notObject (value : Json)
  | missing (field : String)
  | sequence (error : Json.SequenceError)
  deriving DecidableEq, Repr

def ReadError.message : ReadError → String
  | .notObject value => value.noMembersMessage
  | .missing field => Text.quoted field
  | .sequence error => error.message

/-- A member that has to be there. -/
def member (data : Json) (field : String) : Except ReadError Json :=
  match data.member? field with
  | some value => .ok value
  | none => .error (.missing field)

def elements (value : Json) : Except ReadError (List Json) := value.toElements.mapError .sequence

/-- The elements of a member, none if it is missing. -/
def elementsOrNone (data : Json) (field : String) : Except ReadError (List Json) :=
  elements ((data.member? field).getD (.arr []))

/-- The serialized plan that an object describes. -/
def ofMembers (data : Json) : Except ReadError SerializedPlan := do
  let target ← member data "target"
  let ordered ← elements (← member data "ordered_modules")
  let linked ← elements (← member data "link_set")
  let dynamic ← elements (← member data "dynamic_set")
  let pchModes ← ((data.member? "precompiled_header_modes").getD (.obj [])).toEntries.mapError
    .sequence
  let compile ← elementsOrNone data "compile_flags"
  let link ← elementsOrNone data "link_flags"
  let definitions ← elementsOrNone data "definitions"
  return {
    target, ordered, linked, dynamic, pchModes, compile, link, definitions
    schemaVersion := (data.member? "schema_version").getD currentSchema }

/-- The serialized plan that a value describes. -/
def ofJson (data : Json) : Except ReadError SerializedPlan :=
  match data with
  | .obj _ => ofMembers data
  | _ => .error (.notObject data)

end SerializedPlan

/-- The serialized form of a plan. Every module in the order gets its mode, once. -/
def Plan.serialize (p : Plan) : SerializedPlan where
  target := .str p.target
  ordered := p.ordered.map .str
  linked := p.linked.map .str
  dynamic := p.dynamic.map .str
  pchModes := (distinct p.ordered).map fun name => (.str name, .str (p.pchModeOf name).name)
  compile := p.flags.compile.map .str
  link := p.flags.link.map .str
  definitions := p.flags.definitions.map .str
  schemaVersion := SerializedPlan.currentSchema

end GatedModules
