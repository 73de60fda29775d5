import GatedModules.Command.Inputs
import GatedModules.Command.Listings
import GatedModules.Plan.Sink

/-!
# The resolve command

The command goes through stages: it finds out its settings, loads the modules and the target,
resolves the target and hands the plan on. Each stage gives the messages that are shown when it is
over, the announcement of the next stage included, so the times in them are those of the work.
-/

namespace GatedModules

def programVersion : String := "0.3.0"

/-- Where the resolve command stands. -/
inductive ResolveStage where
  | settling
  | loading (limit : DepthLimit) (env : Environment)
  | resolving (limit : DepthLimit) (env : Environment) (registry : Registry) (target : Target)
  | emitting (plan : Plan)
  | ended (ending : Ending)

namespace ResolveStage

/-- A stage together with the messages that lead to it. -/
abbrev Progress := ResolveStage × List Message

def failed (code : ExitCode) : ResolveStage := .ended (.ok code)

/-! ## Settling -/

def opening : List Message :=
  [.shown (.start .standard), .shown (.header "buildplan" programVersion)]

/-- The end of a command that could not get its inputs. -/
def refused (e : InputError) : Progress :=
  match e.breakdown? with
  | some breakdown => (.ended (.error breakdown), [])
  | none => (failed .inputError, [.shown (.error e.message)])

/-- The limit and the environment of a resolution. -/
def settings (m : Machine) (o : ResolveOptions) : Except InputError (DepthLimit × Environment) := do
  let limit ← m.limit o.maxDepth
  let env ← m.environment o
  return (limit, env)

def settle (m : Machine) (o : ResolveOptions) : Progress :=
  match settings m o with
  | .error e => ((refused e).1, opening ++ (refused e).2)
  | .ok (limit, env) =>
    (.loading limit env, opening ++ [.shown (.enter "Loading module registry" (some (1, 3)) false)])

/-! ## Loading -/

/-- The end of a stage that could not load its inputs. -/
def loadFailed (e : InputError) : Progress :=
  ((refused e).1, .shown (.leave false) :: (refused e).2)

/-- The warning about a platform that is not known. -/
def platformWarning (env : Environment) : List Message :=
  if env.platform = .other then [.shown (.warning ("Unrecognised platform '" ++ env.platformName
    ++ "': platform-gated dependencies are inactive"))]
  else []

def resolvingTitle (target : Target) (env : Environment) : Text :=
  "Resolving " ++ target.name ++ " (" ++ env.describe ++ ")"

def load (m : Machine) (o : ResolveOptions) (limit : DepthLimit) (env : Environment) : Progress :=
  match m.loadSource o.source with
  | .error e => loadFailed e
  | .ok loaded =>
    match m.loadTarget o.target with
    | .error e => ((loadFailed e).1, loaded.messages ++ (loadFailed e).2)
    | .ok given =>
      let done := loaded.messages
        ++ [.shown (.note ("Modules: " ++ toString loaded.registry.size)), .shown (.leave true)]
      match given.or loaded.target with
      | none => ((refused .noTarget).1, done ++ (refused .noTarget).2)
      | some target =>
        (.resolving limit env loaded.registry target, done ++ platformWarning env
          ++ [.shown (.enter (resolvingTitle target env) (some (2, 3)) false)])

/-! ## Resolving -/

/-- The part of the program that resolves. -/
def resolverSource : String := "buildplan.resolver.resolver"

/-- The records of the platform names that a module's conditions pass over. -/
def passedOverRecords (env : Environment) (m : Module) : List Message :=
  (m.edges.flatMap fun e => (e.condition.map (Predicate.passedOver env)).getD []).map fun name =>
    .logged ⟨.debug, "buildplan.predicates",
      ("Ignoring unknown platform identifier " ++ Text.quoted name ++ " in predicate" : String)⟩

/-- The record of the edges that a module does not have in an environment. -/
def inactiveRecord (m : Module) (active : List Edge) : List Message :=
  let count := m.edges.length - active.length
  if count = 0 then []
  else [.logged ⟨.debug, resolverSource,
    m.name ++ ": " ++ toString count ++ " predicate-gated edge(s) inactive"⟩]

/-- The records of a walk, module by module. -/
def walkRecords (r : Registry) (env : Environment) (entered : EdgeMap) : List Message :=
  entered.flatMap fun (name, active) =>
    match r.find? name with
    | some m => passedOverRecords env m ++ inactiveRecord m active
    | none => []

/-- The messages about an error, below the line that names it. -/
def errorDetails : ResolutionError → List Text
  | .unknownModule module parent target =>
    ["Module: " ++ module, "Referenced by: " ++ parent.getD ("target " ++ target)]
  | .cyclicDependency path => ["Cycle: " ++ ResolutionError.chain path]
  | .depthExceeded limit path =>
    ["Max depth: " ++ toString limit, "Chain: " ++ ResolutionError.chain path]

def rejection (e : ResolutionError) : List Message :=
  .shown (.error ("Resolution failed [" ++ e.kind ++ "]"))
    :: (errorDetails e).map fun text => .shown (.detail text Console.detailIndent false)

def resolve (limit : DepthLimit) (env : Environment) (registry : Registry) (target : Target) :
    Progress :=
  let resolver : Resolver := ⟨registry, limit⟩
  let records := .logged ⟨.debug, resolverSource,
      "Resolving target " ++ target.name ++ " (" ++ env.describe ++ ")"⟩
    :: walkRecords registry env (resolver.entered target env)
  match resolver.resolve target env with
  | .ok plan =>
    (.emitting plan, records ++ [
      .logged ⟨.info, resolverSource, "Resolved " ++ plan.summary⟩,
      .shown (.note (BuildFlags.banner target.version env.configuration)),
      .shown (.note plan.summary), .shown (.leave true),
      .shown (.enter "Emitting build plan" (some (3, 3)) false)])
  | .error (.rejected e) =>
    (failed .resolutionError, records ++ [.shown (.leave false)] ++ rejection e)
  | .error failure =>
    (.ended (.error (.resolution failure)), records ++ [.shown (.leave false)])

/-! ## Emitting -/

/-- What is drawn for a plan: its listing, and below it the flags line by line. -/
def drawnParts (d : Drawing) (plan : Plan) : List (Except DrawingFault String) :=
  d.table plan.listing :: plan.flagTexts.map d.line

/-- The messages that show a plan. -/
def shownPlan (d : Drawing) (format : PlanFormat) (plan : Plan) : List Message :=
  match format with
  | .json => [.printed (plan.serialize.text SerializedPlan.defaultLayout ++ "\n" : String)]
  | .table => (drawnParts d plan).map .drawn

/-- The last message of a resolution. -/
def success (plan : Plan) : Message :=
  .shown (.success ("Resolved " ++ toString plan.ordered.length ++ " modules for " ++ plan.target))

/-- Writes a plan to a file. -/
def emitTo (m : Machine) (path : FilePath) (plan : Plan) : Progress :=
  match (PlanSink.file path PlanSink.defaultLayout).apply plan.serialize m.files with
  | .ok (written, _) =>
    (.ended (.ok .ok), written.toList.map .saved ++ [
      .logged ⟨.debug, "buildplan.emitter",
        "Wrote build plan for " ++ plan.target ++ " to " ++ path.text⟩,
      .shown (.detail ("Plan: " ++ path.text) Console.detailIndent false),
      .shown (.leave true), success plan])
  | .error e =>
    if e.fault.isInPath then (.ended (.error (.file e)), [.shown (.leave false)])
    else (failed .inputError, [.shown (.leave false),
      .shown (.error ("Cannot write build plan to " ++ path.text ++ ": " ++ e.message))])

/-- Shows a plan. -/
def display (d : Drawing) (format : PlanFormat) (plan : Plan) : Progress :=
  (.ended (.ok .ok), .shown (.leave true) :: shownPlan d format plan ++ [success plan])

def emit (m : Machine) (o : ResolveOptions) (plan : Plan) : Progress :=
  match o.output with
  | some .dropped => (.ended (.error (.dropped .output)), [.shown (.leave false)])
  | some (.value path) => emitTo m path plan
  | none => display m.drawing o.format plan

/-! ## All stages -/

/-- The stage that follows. -/
def next (m : Machine) (o : ResolveOptions) : ResolveStage → Progress
  | .settling => settle m o
  | .loading limit env => load m o limit env
  | .resolving limit env registry target => resolve limit env registry target
  | .emitting plan => emit m o plan
  | .ended ending => (.ended ending, [])

/-- An ending with more messages before those that it comes with. -/
def after (messages : List Message) (r : Ending × List Message) : Ending × List Message :=
  (r.1, messages ++ r.2)

/-- How many stages may follow. -/
def left : ResolveStage → Nat
  | .settling => 4
  | .loading .. => 3
  | .resolving .. => 2
  | .emitting _ => 1
  | .ended _ => 0

theorem left_refused (e : InputError) : (refused e).1.left = 0 := by
  unfold refused
  split <;> rfl

theorem left_settle_le (m : Machine) (o : ResolveOptions) : (settle m o).1.left ≤ 3 := by
  unfold settle
  split
  · simp [left_refused]
  · simp [left]

theorem left_load_le (m : Machine) (o : ResolveOptions) (limit : DepthLimit) (env : Environment) :
    (load m o limit env).1.left ≤ 2 := by
  unfold load
  split
  · simp [loadFailed, left_refused]
  · split
    · simp [loadFailed, left_refused]
    · dsimp only
      split
      · simp [left_refused]
      · simp [left]

theorem left_resolve_le (limit : DepthLimit) (env : Environment) (registry : Registry)
    (target : Target) : (resolve limit env registry target).1.left ≤ 1 := by
  unfold resolve
  dsimp only
  split <;> simp [failed, left]

theorem left_emit (m : Machine) (o : ResolveOptions) (plan : Plan) :
    (emit m o plan).1.left = 0 := by
  unfold emit emitTo display
  split
  · rfl
  · split
    · rfl
    · split <;> rfl
  · rfl

/-- The ending that follows a stage, with the messages up to it. -/
def finish (m : Machine) (o : ResolveOptions) : ResolveStage → Ending × List Message
  | .settling => after (settle m o).2 (finish m o (settle m o).1)
  | .loading limit env => after (load m o limit env).2 (finish m o (load m o limit env).1)
  | .resolving limit env registry target =>
    after (resolve limit env registry target).2 (finish m o (resolve limit env registry target).1)
  | .emitting plan => after (emit m o plan).2 (finish m o (emit m o plan).1)
  | .ended ending => (ending, [])
termination_by stage => stage.left
decreasing_by
  · exact Nat.lt_succ_of_le (left_settle_le m o)
  · exact Nat.lt_succ_of_le (left_load_le m o limit env)
  · exact Nat.lt_succ_of_le (left_resolve_le limit env registry target)
  · exact Nat.lt_succ_of_le (Nat.le_of_eq (left_emit m o plan))

end ResolveStage

/-- The ending of the resolve command, with its messages. -/
def ResolveOptions.run (o : ResolveOptions) (m : Machine) : Ending × List Message :=
  ResolveStage.finish m o .settling

end GatedModules
