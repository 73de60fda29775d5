import GatedModules.Predicate.Evaluation

/-!
# Dependency edges

An edge names a module that another one depends on, says how it depends on it and, where it does so
only in some environments, in which.
-/

namespace GatedModules

/-- How a module depends on another: it exports the dependency to its own dependents, it keeps it to
itself, or it loads it at run time without linking it. -/
inductive DependencyKind where
  | exported
  | internal
  | dynamic
  deriving DecidableEq, Repr, Inhabited

namespace DependencyKind

def all : List DependencyKind := [.exported, .internal, .dynamic]

def name : DependencyKind → String
  | .exported => "public"
  | .internal => "private"
  | .dynamic => "dynamic"

def ofName? (name : Text) : Option DependencyKind := all.find? fun k => k.name == name

/-- Whether a dependency of this kind is linked. -/
def isLinked : DependencyKind → Bool
  | .dynamic => false
  | _ => true

end DependencyKind

structure Edge where
  name : Text
  kind : DependencyKind
  condition : Option Predicate := none
  deriving DecidableEq, Repr, Inhabited

namespace Edge

/-- Whether an edge is there in an environment. -/
def isActive (env : Environment) (e : Edge) : Except ArchitectureFault Bool :=
  Predicate.evaluate? env e.condition

/-- The edges that are there in an environment, in order. -/
def active (env : Environment) : List Edge → Except ArchitectureFault (List Edge)
  | [] => .ok []
  | e :: es => do
    if ← e.isActive env then return e :: (← active env es) else active env es

theorem length_active_le {env : Environment} {es as : List Edge} (h : active env es = .ok as) :
    as.length ≤ es.length := by
  induction es generalizing as with
  | nil =>
    cases h
    exact Nat.le_refl 0
  | cons e es ih =>
    cases he : e.isActive env with
    | error fault => simp [active, he, bind, Except.bind] at h
    | ok b =>
      cases hes : active env es with
      | error fault => cases b <;> simp [active, he, hes, bind, Except.bind] at h
      | ok rest =>
        have hrest := ih hes
        cases b with
        | false =>
          obtain rfl : rest = as := by simpa [active, he, hes, bind, Except.bind] using h
          exact Nat.le_succ_of_le hrest
        | true =>
          obtain rfl : e :: rest = as := by
            simpa [active, he, hes, bind, Except.bind, pure, Except.pure] using h
          exact Nat.succ_le_succ hrest

end Edge

end GatedModules
