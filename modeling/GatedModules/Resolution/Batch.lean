import GatedModules.Resolution.Resolve

/-!
# Resolving several targets

The targets of a batch are resolved by workers that do not know of each other. Every result has a
place of its own, so the order in which the workers finish cannot be seen.
-/

namespace GatedModules

/-- The outcome for one target: the plan or the reason why the target does not resolve. -/
structure Outcome where
  target : Text
  plan? : Option Plan := none
  error? : Option ResolutionError := none
  deriving Repr

def Outcome.success (o : Outcome) : Bool := o.error?.isNone && o.plan?.isSome

/-- Why a batch does not start or does not end. -/
inductive BatchError where
  | noWorkers
  | failed (failure : ResolveFailure)
  deriving DecidableEq, Repr

namespace Resolver

/-- The outcome for a target; only a target that does not resolve has one without a plan. -/
def outcome (r : Resolver) (env : Environment) (target : Target) :
    Except ResolveFailure Outcome :=
  match r.resolve target env with
  | .ok plan => .ok { target := target.name, plan? := some plan }
  | .error (.rejected e) => .ok { target := target.name, error? := some e }
  | .error failure => .error failure

/-- The results in their places after the targets at the given places have finished. -/
def collect (r : Resolver) (env : Environment) (targets : List Target) (finished : List Nat) :
    List (Option (Except ResolveFailure Outcome)) :=
  finished.foldl (fun results i => results.set i ((targets[i]?).map (r.outcome env)))
    (List.replicate targets.length none)

/-- The results that have come in, in order, up to the first failure. -/
def deliver : List (Option (Except ResolveFailure Outcome)) → Except BatchError (List Outcome)
  | [] => .ok []
  | none :: rest => deliver rest
  | some result :: rest => do return (← result.mapError .failed) :: (← deliver rest)

/-- The outcomes of a batch whose workers finish in a given order. A number of workers, if given,
has to be positive, unless there is nothing to do. -/
def resolveInOrder (r : Resolver) (targets : List Target) (env : Environment)
    (workers : Option Int) (finished : List Nat) : Except BatchError (List Outcome) :=
  if targets.isEmpty then .ok []
  else match workers with
    | some n => if n ≤ 0 then .error .noWorkers else deliver (r.collect env targets finished)
    | none => deliver (r.collect env targets finished)

/-- The outcomes of a batch, in the order of the targets. -/
def resolveAll (r : Resolver) (targets : List Target) (env : Environment) (workers : Option Int) :
    Except BatchError (List Outcome) :=
  r.resolveInOrder targets env workers (List.range targets.length)

end Resolver

end GatedModules
