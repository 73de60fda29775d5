import GatedModules.BuildFlags
import GatedModules.Registry.Basic
import GatedModules.Resolution.Order

/-!
# Build plans

A plan is the outcome of a resolution: the modules in build order, which of them are linked and
which are loaded at run time, their precompiled header modes, the flags and the active edges.
-/

namespace GatedModules

/-- A build plan; no module is both linked and dynamic. -/
structure Plan where
  target : Text
  ordered : List Text
  linked : List Text
  dynamic : List Text
  pchModes : List (Text × PchMode)
  flags : BuildFlags
  edges : EdgeMap
  disjoint : ∀ name ∈ linked, name ∉ dynamic
  deriving DecidableEq, Repr

namespace Plan

/-- Modules that would be both linked and dynamic, sorted. -/
structure Overlap where
  names : List Text
  deriving DecidableEq, Repr

def Overlap.message (o : Overlap) : Text :=
  "Modules cannot be both linked and dynamic: " ++ Text.intercalate ", " o.names

/-- The plan with the given parts, if no module is both linked and dynamic. -/
def make (target : Text) (ordered linked dynamic : List Text)
    (pchModes : List (Text × PchMode)) (flags : BuildFlags) (edges : EdgeMap) :
    Except Overlap Plan :=
  if h : ∀ name ∈ linked, name ∉ dynamic then
    .ok { target, ordered, linked, dynamic, pchModes, flags, edges, disjoint := h }
  else .error ⟨sortNames (distinct (linked.filter dynamic.contains))⟩

/-- A module that has no entry among the edges of a plan. -/
structure NotPlanned where
  name : Text
  deriving DecidableEq, Repr

def NotPlanned.message (e : NotPlanned) : String := Text.quoted ("Module not in plan: " ++ e.name)

/-- The names that a module's edges lead to, those of the given kinds only if kinds are given. -/
def dependenciesOf (p : Plan) (name : Text) (kinds : Option (List DependencyKind)) :
    Except NotPlanned (List Text) :=
  match p.edges.lookup name with
  | none => .error ⟨name⟩
  | some edges =>
    .ok ((edges.filter fun e => (kinds.map (·.contains e.kind)).getD true).map Edge.name)

def isLinked (p : Plan) (name : Text) : Bool := p.linked.contains name

def isDynamic (p : Plan) (name : Text) : Bool := p.dynamic.contains name

/-- The precompiled header mode of a module; a module without a recorded one uses none. -/
def pchModeOf (p : Plan) (name : Text) : PchMode := (p.pchModes.lookup name).getD .none

/-- One line about a plan. -/
def summary (p : Plan) : Text :=
  p.target ++ ": " ++ toString p.ordered.length ++ " modules (" ++ toString p.linked.length
    ++ " linked, " ++ toString p.dynamic.length ++ " dynamic)"

end Plan

end GatedModules
