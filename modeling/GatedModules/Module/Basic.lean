import GatedModules.Lists
import GatedModules.Module.Edge
import GatedModules.Module.PchMode

/-!
# Modules

A module has a name, a precompiled header mode and dependency edges. No edge occurs twice, and the
order of the edges is the order of their declaration.
-/

namespace GatedModules

structure Module where
  name : Text
  pchMode : PchMode
  edges : List Edge
  name_ne : name ≠ ""
  nodup : edges.Nodup
  deriving DecidableEq, Repr

namespace Module

/-- A module with the given edges, each where it is declared first. -/
def ofEdges (name : Text) (pchMode : PchMode) (edges : List Edge) (h : name ≠ "") : Module where
  name
  pchMode
  edges := distinct edges
  name_ne := h
  nodup := nodup_distinct edges

/-- The edges that are there in an environment, in order. -/
def activeEdges (m : Module) (env : Environment) : Except ArchitectureFault (List Edge) :=
  Edge.active env m.edges

/-- The names of the unconditional dependencies of a kind. -/
def unconditional (m : Module) (kind : DependencyKind) : List Text :=
  (m.edges.filter fun e => e.kind = kind ∧ e.condition = none).map Edge.name

/-- The conditional edges, each with its condition. -/
def conditionalEdges (m : Module) : List (Predicate × Edge) :=
  m.edges.filterMap fun e => e.condition.map (·, e)

/-- The names of the conditional dependencies, by kind and then by condition. -/
def conditionalGroups (m : Module) :
    List (DependencyKind × List (Predicate × List Text)) :=
  (grouped (fun e => e.2.kind) m.conditionalEdges).map fun (kind, edges) =>
    (kind, (grouped Prod.fst edges).map fun (condition, edges) =>
      (condition, edges.map (·.2.name)))

/-- The names of the conditional dependencies, by condition and then by kind. -/
def conditionalBlocks (m : Module) :
    List (Predicate × List (DependencyKind × List Text)) :=
  (grouped Prod.fst m.conditionalEdges).map fun (condition, edges) =>
    (condition, (grouped (fun e => e.2.kind) edges).map fun (kind, edges) =>
      (kind, edges.map (·.2.name)))

/-- The JSON form of a block of edges that share a condition. -/
def blockJson (condition : Predicate) (parts : List (DependencyKind × List Text)) : Json :=
  .obj (("when", condition.toJson) :: parts.map fun (kind, names) => (kind.name, .texts names))

/-- The members for the unconditional dependencies, by kind. -/
def unconditionalJson (m : Module) : List (Text × Json) :=
  DependencyKind.all.map fun kind => (kind.name, .texts (m.unconditional kind))

/-- The member for the conditional dependencies, a block for every condition, if there are any. -/
def conditionalJson (m : Module) : List (Text × Json) :=
  let blocks := m.conditionalBlocks.map fun (condition, parts) => blockJson condition parts
  if blocks.isEmpty then [] else [("conditional", .arr blocks)]

def toJson (m : Module) : Json :=
  .obj (("name", .str m.name) :: ("pch_mode", .str m.pchMode.name)
    :: (m.unconditionalJson ++ m.conditionalJson))

end Module

end GatedModules
