import GatedModules.Command.Program
import GatedModules.Proofs.Activity

/-!
# How a resolution runs

Every stage of the resolve command knows what has been found out so far, and what the command ends
with follows from what the last stage knows.
-/

namespace GatedModules

/-! ## What a resolution needs -/

/-- Everything that a resolution needs can be had. -/
structure Machine.Loads (m : Machine) (o : ResolveOptions) (limit : DepthLimit) (env : Environment)
    (registry : Registry) (target : Target) : Prop where
  limit : m.limit o.maxDepth = .ok limit
  environment : m.environment o = .ok env
  source : ∃ loaded given, m.loadSource o.source = .ok loaded ∧ m.loadTarget o.target = .ok given ∧
    loaded.registry = registry ∧ given.or loaded.target = some target

/-- A plan gets where the options say, if they name a file. -/
def Machine.Delivers (m : Machine) (o : ResolveOptions) (plan : Plan) : Prop :=
  ∀ setting, o.output = some setting → ∃ path written, setting = .value path ∧
    (PlanSink.file path PlanSink.defaultLayout).apply plan.serialize m.files = .ok written

/-- The inputs are there and there is a plan for them. -/
def Machine.Plans (m : Machine) (o : ResolveOptions) (plan : Plan) : Prop :=
  ∃ limit env registry target, m.Loads o limit env registry target ∧
    (⟨registry, limit⟩ : Resolver).resolve target env = .ok plan

/-- The inputs are there and there is no plan for them. -/
def Machine.Rejects (m : Machine) (o : ResolveOptions) (e : ResolutionError) : Prop :=
  ∃ limit env registry target, m.Loads o limit env registry target ∧
    (⟨registry, limit⟩ : Resolver).resolve target env = .error (.rejected e)

theorem Machine.Loads.unique {m : Machine} {o : ResolveOptions} {limit limit' : DepthLimit}
    {env env' : Environment} {registry registry' : Registry} {target target' : Target}
    (h : m.Loads o limit env registry target) (h' : m.Loads o limit' env' registry' target') :
    limit = limit' ∧ env = env' ∧ registry = registry' ∧ target = target' := by
  obtain ⟨hlimit, henv, loaded, given, hloaded, hgiven, hregistry, htarget⟩ := h
  obtain ⟨hlimit', henv', loaded', given', hloaded', hgiven', hregistry', htarget'⟩ := h'
  rw [hlimit] at hlimit'
  rw [henv] at henv'
  rw [hloaded] at hloaded'
  rw [hgiven] at hgiven'
  cases hlimit'
  cases henv'
  cases hloaded'
  cases hgiven'
  rw [htarget] at htarget'
  cases htarget'
  exact ⟨rfl, rfl, hregistry.symm.trans hregistry', rfl⟩

theorem Machine.Plans.unique {m : Machine} {o : ResolveOptions} {plan plan' : Plan}
    (h : m.Plans o plan) (h' : m.Plans o plan') : plan = plan' := by
  obtain ⟨limit, env, registry, target, hloads, hplan⟩ := h
  obtain ⟨limit', env', registry', target', hloads', hplan'⟩ := h'
  obtain ⟨rfl, rfl, rfl, rfl⟩ := hloads.unique hloads'
  rw [hplan] at hplan'
  cases hplan'
  rfl

theorem Machine.Plans.not_rejects {m : Machine} {o : ResolveOptions} {plan : Plan}
    (h : m.Plans o plan) (e : ResolutionError) : ¬ m.Rejects o e := by
  rintro ⟨limit', env', registry', target', hloads', he⟩
  obtain ⟨limit, env, registry, target, hloads, hplan⟩ := h
  obtain ⟨rfl, rfl, rfl, rfl⟩ := hloads.unique hloads'
  rw [hplan] at he
  cases he

/-! ## What a stage knows -/

/-- What it means that a resolution ends with a code. -/
def ExitCode.Fits (m : Machine) (o : ResolveOptions) : ExitCode → Prop
  | .ok => ∃ plan, m.Plans o plan ∧ m.Delivers o plan
  | .resolutionError => ∃ e, m.Rejects o e
  | .inputError =>
    (∀ limit env registry target, ¬ m.Loads o limit env registry target) ∨
      ∃ plan, m.Plans o plan ∧ ¬ m.Delivers o plan

/-- What the exit code of a resolution tells. -/
structure ExitCode.Tells (m : Machine) (o : ResolveOptions) (code : ExitCode) : Prop where
  resolutionError : code = .resolutionError ↔ ∃ e, m.Rejects o e
  ok : code = .ok ↔ ∃ plan, m.Plans o plan ∧ m.Delivers o plan
  inputError : code = .inputError ↔
    (¬ ∃ e, m.Rejects o e) ∧ ¬ ∃ plan, m.Plans o plan ∧ m.Delivers o plan

theorem ExitCode.Fits.tells {m : Machine} {o : ResolveOptions} {code : ExitCode}
    (h : code.Fits m o) : code.Tells m o := by
  cases code with
  | ok =>
    have hplan : ∃ plan, m.Plans o plan ∧ m.Delivers o plan := h
    have hrejects : ¬ ∃ e, m.Rejects o e := by
      rintro ⟨e, he⟩
      obtain ⟨plan, hplans, -⟩ := hplan
      exact hplans.not_rejects e he
    constructor <;> simp [hplan, hrejects]
  | resolutionError =>
    have hrejects : ∃ e, m.Rejects o e := h
    have hplan : ¬ ∃ plan, m.Plans o plan ∧ m.Delivers o plan := by
      rintro ⟨plan, hplans, -⟩
      obtain ⟨e, he⟩ := hrejects
      exact hplans.not_rejects e he
    constructor <;> simp [hplan, hrejects]
  | inputError =>
    have hrejects : ¬ ∃ e, m.Rejects o e := by
      rintro ⟨e, he⟩
      rcases h with hnone | ⟨plan, hplans, -⟩
      · obtain ⟨limit, env, registry, target, hloads, -⟩ := he
        exact hnone limit env registry target hloads
      · exact hplans.not_rejects e he
    have hplan : ¬ ∃ plan, m.Plans o plan ∧ m.Delivers o plan := by
      rintro ⟨plan, hplans, hdelivers⟩
      rcases h with hnone | ⟨plan', hplans', hnot⟩
      · obtain ⟨limit, env, registry, target, hloads, -⟩ := hplans
        exact hnone limit env registry target hloads
      · exact hnot (hplans.unique hplans' ▸ hdelivers)
    constructor <;> simp [hplan, hrejects]

namespace ResolveStage

/-- What is known when a stage is reached. -/
def Known (m : Machine) (o : ResolveOptions) : ResolveStage → Prop
  | .settling => True
  | .loading limit env => m.limit o.maxDepth = .ok limit ∧ m.environment o = .ok env
  | .resolving limit env registry target => m.Loads o limit env registry target
  | .emitting plan => m.Plans o plan
  | .ended (.ok code) => code.Fits m o
  | .ended (.error _) => True

variable {m : Machine} {o : ResolveOptions}

theorem known_refused (e : InputError)
    (h : ∀ limit env registry target, ¬ m.Loads o limit env registry target) :
    (refused e).1.Known m o := by
  unfold refused
  split
  · trivial
  · exact .inl h

theorem known_settle : (settle m o).1.Known m o := by
  unfold settle
  split
  · rename_i e hsettings
    refine known_refused e fun limit env registry target hloads => ?_
    rw [settings, hloads.limit, hloads.environment] at hsettings
    cases hsettings
  · rename_i limit env hsettings
    obtain ⟨limit', hlimit, hrest⟩ := bind_eq_ok_iff.1 hsettings
    obtain ⟨env', henv, hpair⟩ := bind_eq_ok_iff.1 hrest
    cases hpair
    exact ⟨hlimit, henv⟩

theorem known_load {limit : DepthLimit} {env : Environment}
    (h : (ResolveStage.loading limit env).Known m o) : (load m o limit env).1.Known m o := by
  obtain ⟨hlimit, henv⟩ := h
  unfold load
  split
  · rename_i e hsource
    refine known_refused e fun _ _ _ _ hloads => ?_
    obtain ⟨loaded, -, hloaded, -⟩ := hloads.source
    rw [hsource] at hloaded
    cases hloaded
  · rename_i loaded hsource
    split
    · rename_i e htarget
      refine known_refused e fun _ _ _ _ hloads => ?_
      obtain ⟨-, given, -, hgiven, -⟩ := hloads.source
      rw [htarget] at hgiven
      cases hgiven
    · rename_i given hgiven
      dsimp only
      split
      · rename_i hnone
        refine known_refused _ fun _ _ _ _ hloads => ?_
        obtain ⟨loaded', given', hloaded', hgiven', -, htarget⟩ := hloads.source
        rw [hsource] at hloaded'
        rw [hgiven] at hgiven'
        cases hloaded'
        cases hgiven'
        rw [hnone] at htarget
        cases htarget
      · rename_i target htarget
        exact ⟨hlimit, henv, loaded, given, hsource, hgiven, rfl, htarget⟩

theorem known_resolve {limit : DepthLimit} {env : Environment} {registry : Registry}
    {target : Target} (h : (ResolveStage.resolving limit env registry target).Known m o) :
    (resolve limit env registry target).1.Known m o := by
  unfold resolve
  dsimp only
  split
  · rename_i plan hplan
    exact ⟨limit, env, registry, target, h, hplan⟩
  · rename_i e he
    exact ⟨e, limit, env, registry, target, h, he⟩
  · trivial

theorem known_emit {plan : Plan} (h : (ResolveStage.emitting plan).Known m o) :
    (emit m o plan).1.Known m o := by
  unfold emit
  split
  · trivial
  · rename_i path houtput
    unfold emitTo
    split
    · rename_i written files hwritten
      refine ⟨plan, h, fun setting hsetting => ?_⟩
      rw [houtput] at hsetting
      cases hsetting
      exact ⟨path, _, rfl, hwritten⟩
    · rename_i e he
      split
      · trivial
      · refine .inr ⟨plan, h, fun hdelivers => ?_⟩
        obtain ⟨path', written, hpath, hwritten⟩ := hdelivers _ houtput
        cases hpath
        rw [he] at hwritten
        cases hwritten
  · rename_i houtput
    refine ⟨plan, h, fun setting hsetting => ?_⟩
    rw [houtput] at hsetting
    cases hsetting

theorem known_next {stage : ResolveStage} (h : stage.Known m o) : (next m o stage).1.Known m o := by
  cases stage with
  | settling => exact known_settle
  | loading limit env => exact known_load h
  | resolving limit env registry target => exact known_resolve h
  | emitting plan => exact known_emit h
  | ended ending => exact h

/-- What is known at a stage is known at the end. -/
theorem known_finish {stage : ResolveStage} (h : stage.Known m o) :
    (ResolveStage.ended (finish m o stage).1).Known m o := by
  -- by the stages that are left: what is known goes on to the next one
  induction stage using finish.induct m o with
  | case1 ih =>
    rw [finish]
    exact ih (known_next h)
  | case2 limit env ih =>
    rw [finish]
    exact ih (known_next h)
  | case3 limit env registry target ih =>
    rw [finish]
    exact ih (known_next h)
  | case4 plan ih =>
    rw [finish]
    exact ih (known_next h)
  | case5 ending =>
    rw [finish]
    exact h

end ResolveStage

theorem ExitCode.fits_of_run {m : Machine} {o : ResolveOptions} {code : ExitCode}
    (h : (o.run m).1 = .ok code) : code.Fits m o := by
  have hsettling : ResolveStage.settling.Known m o := trivial
  have hknown : (ResolveStage.ended (o.run m).1).Known m o := ResolveStage.known_finish hsettling
  rw [h] at hknown
  exact hknown

end GatedModules
