import GatedModules.Plan.Basic
import GatedModules.Resolution.Walk

/-!
# Resolving a target

A target is resolved in four stages: its roots have to be declared, a walk collects the modules that
the roots reach, these are put in build order, and each is linked or loaded at run time.
-/

namespace GatedModules

/-- Why there is no plan. Only the first two arise from a registry and an environment; the others
tell of a walk that would not fit the order or the plan. -/
inductive ResolveFailure where
  | rejected (error : ResolutionError)
  | unevaluable (fault : ArchitectureFault)
  | undeclared (error : Registry.UndeclaredName)
  | unordered (error : OrderError)
  | overlap (error : Plan.Overlap)
  deriving DecidableEq, Repr

def WalkError.toFailure : WalkError → ResolveFailure
  | .rejected error => .rejected error
  | .unevaluable fault => .unevaluable fault
  | .undeclared error => .undeclared error

/-- A registry with a depth limit, against which targets are resolved. -/
structure Resolver where
  registry : Registry
  limit : DepthLimit
  deriving DecidableEq, Repr

namespace Resolver

/-- The names of the modules that have to be linked: the roots and whatever an edge links. -/
def linkedNames (roots : List Text) (map : EdgeMap) : List Text :=
  roots ++ (map.flatMap fun entry => (entry.2.filter fun e => e.kind.isLinked).map Edge.name)

/-- The names that a dynamic edge leads to. -/
def dynamicNames (map : EdgeMap) : List Text :=
  map.flatMap fun entry => (entry.2.filter fun e => !e.kind.isLinked).map Edge.name

/-- The modules to link and those to load at run time. A module that anything links is linked. -/
def classify (roots : List Text) (map : EdgeMap) (ordered : List Text) :
    List Text × List Text :=
  let linked := linkedNames roots map
  let dynamic := dynamicNames map
  (ordered.filter linked.contains,
    ordered.filter fun name => dynamic.contains name && !linked.contains name)

/-- The precompiled header modes of some modules. -/
def pchModes (r : Registry) : List Text → Except Registry.UndeclaredName (List (Text × PchMode))
  | [] => .ok []
  | name :: rest => do return (name, (← r.get name).pchMode) :: (← pchModes r rest)

/-- What the walk for a target goes by. -/
def course (r : Resolver) (target : Target) (env : Environment) : Course :=
  ⟨r.registry, env, r.limit, target.name⟩

/-- The walk for a target whose roots are declared. -/
def walk (r : Resolver) (target : Target) (env : Environment) : Except Halt Walk :=
  match target.roots.find? fun root => !r.registry.declares root with
  | some root => .error ⟨.rejected (.unknownModule root none target.name), Walk.start⟩
  | none => Walk.whole (r.course target env) target.roots

/-- The plan for the modules that a walk has collected. -/
def plan (r : Resolver) (target : Target) (env : Environment) (map : EdgeMap) :
    Except ResolveFailure Plan := do
  let ordered ← (buildOrder r.registry map).mapError .unordered
  let modes ← (pchModes r.registry ordered).mapError .undeclared
  let (linked, dynamic) := classify target.roots map ordered
  let flags := BuildFlags.select target.version env.configuration env.enabledFeatures
  (Plan.make target.name ordered linked dynamic modes flags map).mapError .overlap

/-- The plan of a target in an environment. -/
def resolve (r : Resolver) (target : Target) (env : Environment) : Except ResolveFailure Plan :=
  match r.walk target env with
  | .ok w => r.plan target env w.entered
  | .error halt => .error halt.error.toFailure

/-- The modules that the walk for a target enters, whether it succeeds or not, in order. -/
def entered (r : Resolver) (target : Target) (env : Environment) : EdgeMap :=
  match r.walk target env with
  | .ok w => w.entered
  | .error halt => halt.reached.entered

end Resolver

end GatedModules
