import GatedModules.Command.Program
import GatedModules.Proofs.ResolveRun
import GatedModules.Proofs.Traces
import GatedModules.Proofs.TreeChanges

/-!
# How a plan is delivered

How a plan is handed on matters only once there is a plan. Until then nothing is printed and nothing
is saved, and a file gets the text that would be printed without it.
-/

namespace GatedModules

/-- The options with another way of handing the plan on. -/
def ResolveOptions.handing (o : ResolveOptions) (output : Option (Setting FilePath))
    (format : PlanFormat) : ResolveOptions := { o with output, format }

namespace ResolveStage

variable {m : Machine} {o : ResolveOptions}

/-! ## Quiet stages -/

theorem quiet_refused (e : InputError) : ∀ message ∈ (refused e).2, message.Quiet := by
  unfold refused
  split <;> simp

theorem quiet_settle : ∀ message ∈ (settle m o).2, message.Quiet := by
  unfold settle
  split
  · exact List.forall_mem_append.2 ⟨by simp [opening], quiet_refused _⟩
  · simp [opening]

theorem quiet_loaded {source : Option RegistrySource} {loaded : Machine.Loaded}
    (h : m.loadSource source = .ok loaded) : ∀ message ∈ loaded.messages, message.Quiet := by
  unfold Machine.loadSource at h
  split at h
  · cases h
  · split at h
    · cases h
      simp
    · cases h
  · cases h
  · split at h
    · cases h
      simp [Machine.loadedRecord]
    · cases h

theorem quiet_platformWarning (env : Environment) :
    ∀ message ∈ platformWarning env, message.Quiet := by
  unfold platformWarning
  split <;> simp

theorem quiet_load {limit : DepthLimit} {env : Environment} :
    ∀ message ∈ (load m o limit env).2, message.Quiet := by
  unfold load
  split
  · exact List.forall_mem_cons.2 ⟨trivial, quiet_refused _⟩
  · rename_i loaded hloaded
    have hmessages := quiet_loaded hloaded
    split
    · exact List.forall_mem_append.2
        ⟨hmessages, List.forall_mem_cons.2 ⟨trivial, quiet_refused _⟩⟩
    · dsimp only
      split
      all_goals simp only [List.forall_mem_append]
      · exact ⟨⟨hmessages, by simp⟩, quiet_refused _⟩
      · exact ⟨⟨⟨hmessages, by simp⟩, quiet_platformWarning env⟩, by simp⟩

theorem quiet_walkRecords (registry : Registry) (env : Environment) (entered : EdgeMap) :
    ∀ message ∈ walkRecords registry env entered, message.Quiet := by
  intro message hmessage
  obtain ⟨⟨name, active⟩, -, hmessage⟩ := List.mem_flatMap.1 hmessage
  dsimp only at hmessage
  split at hmessage
  · rcases List.mem_append.1 hmessage with h | h
    · obtain ⟨passedOver, -, rfl⟩ := List.mem_map.1 h
      trivial
    · unfold inactiveRecord at h
      dsimp only at h
      split at h
      · cases h
      · rw [List.mem_singleton.1 h]
        trivial
  · cases hmessage

theorem quiet_rejection (e : ResolutionError) : ∀ message ∈ rejection e, message.Quiet := by
  rw [rejection, List.forall_mem_cons, List.forall_mem_map]
  exact ⟨trivial, fun _ _ => trivial⟩

theorem quiet_resolve {limit : DepthLimit} {env : Environment} {registry : Registry}
    {target : Target} : ∀ message ∈ (resolve limit env registry target).2, message.Quiet := by
  have hrecords := quiet_walkRecords registry env (Resolver.entered ⟨registry, limit⟩ target env)
  unfold resolve
  dsimp only
  split
  all_goals simp only [List.cons_append, List.forall_mem_cons, List.forall_mem_append]
  · exact ⟨trivial, hrecords, by simp⟩
  · exact ⟨trivial, ⟨hrecords, by simp⟩, quiet_rejection _⟩
  · exact ⟨trivial, hrecords, by simp⟩

/-! ## Until there is a plan -/

/-- From a stage the command fails and neither prints nor saves, or it gets to a plan; and neither
depends on how the plan is to be handed on. -/
def Leads (m : Machine) (o : ResolveOptions) (stage : ResolveStage) : Prop :=
  (∃ ending messages, ending ≠ .ok .ok ∧ (∀ message ∈ messages, message.Quiet) ∧
    ∀ output format, finish m (o.handing output format) stage = (ending, messages)) ∨
  ∃ plan lead, m.Plans o plan ∧ (∀ message ∈ lead, message.Quiet) ∧ ∀ output format,
    finish m (o.handing output format) stage =
      after lead (finish m (o.handing output format) (.emitting plan))

theorem leads_ended {ending : Ending} (h : ending ≠ .ok .ok) : Leads m o (.ended ending) := by
  refine .inl ⟨ending, [], h, by simp, fun output format => ?_⟩
  rw [finish]

theorem leads_emitting {plan : Plan} (h : m.Plans o plan) : Leads m o (.emitting plan) :=
  .inr ⟨plan, [], h, by simp, fun _ _ => rfl⟩

/-- A stage leads where the next one leads. -/
theorem leads_of_next {stage : ResolveStage} (progress : Progress) (h : Leads m o progress.1)
    (quiet : ∀ message ∈ progress.2, message.Quiet)
    (hnext : ∀ output format, finish m (o.handing output format) stage =
      after progress.2 (finish m (o.handing output format) progress.1)) : Leads m o stage := by
  have hquiet {messages : List Message} (hmessages : ∀ message ∈ messages, message.Quiet) :
      ∀ message ∈ progress.2 ++ messages, message.Quiet :=
    List.forall_mem_append.2 ⟨quiet, hmessages⟩
  rcases h with ⟨ending, messages, hending, hmessages, hfinish⟩ |
    ⟨plan, lead, hplan, hlead, hfinish⟩
  · refine .inl ⟨ending, progress.2 ++ messages, hending, hquiet hmessages, fun output format => ?_⟩
    rw [hnext, hfinish]
    rfl
  · refine .inr ⟨plan, progress.2 ++ lead, hplan, hquiet hlead, fun output format => ?_⟩
    rw [hnext, hfinish]
    simp [after]

theorem leads_refused (e : InputError) : Leads m o (refused e).1 := by
  unfold refused
  split <;> exact leads_ended (by simp)

theorem leads_resolving {limit : DepthLimit} {env : Environment} {registry : Registry}
    {target : Target} (h : m.Loads o limit env registry target) :
    Leads m o (.resolving limit env registry target) := by
  refine leads_of_next (resolve limit env registry target) ?_ quiet_resolve fun _ _ => by
    rw [finish]
  unfold resolve
  dsimp only
  split
  · rename_i plan hplan
    exact leads_emitting ⟨limit, env, registry, target, h, hplan⟩
  · exact leads_ended (by simp)
  · exact leads_ended (by simp)

theorem leads_loading {limit : DepthLimit} {env : Environment}
    (h : (ResolveStage.loading limit env).Known m o) : Leads m o (.loading limit env) := by
  refine leads_of_next (load m o limit env) ?_ quiet_load fun _ _ => by rw [finish]; rfl
  unfold load
  split
  · exact leads_refused _
  · rename_i loaded hloaded
    split
    · exact leads_refused _
    · rename_i given hgiven
      dsimp only
      split
      · exact leads_refused _
      · rename_i target htarget
        exact leads_resolving ⟨h.1, h.2, loaded, given, hloaded, hgiven, rfl, htarget⟩

theorem leads_settling : Leads m o .settling := by
  refine leads_of_next (settle m o) ?_ quiet_settle fun _ _ => by rw [finish]; rfl
  have hknown := known_settle (m := m) (o := o)
  unfold settle at hknown ⊢
  split at hknown
  · exact leads_refused _
  · exact leads_loading hknown

theorem finish_emitting {plan : Plan} {ending : Ending} {messages : List Message}
    (h : emit m o plan = (.ended ending, messages)) :
    finish m o (.emitting plan) = (ending, messages) := by
  rw [finish, h, finish]
  simp [after]

/-- A run fails and neither prints nor saves, or it ends as handing a plan on ends. -/
theorem run_eq (m : Machine) (o : ResolveOptions) :
    (∃ ending messages, ending ≠ .ok .ok ∧ (∀ message ∈ messages, message.Quiet) ∧
      o.run m = (ending, messages)) ∨
    ∃ plan lead, m.Plans o plan ∧ (∀ message ∈ lead, message.Quiet) ∧
      ∀ output format ending messages,
        emit m (o.handing output format) plan = (.ended ending, messages) →
        (o.handing output format).run m = (ending, lead ++ messages) := by
  rcases leads_settling (m := m) (o := o) with ⟨ending, messages, hending, hquiet, hfinish⟩ |
    ⟨plan, lead, hplan, hlead, hfinish⟩
  · exact .inl ⟨ending, messages, hending, hquiet, hfinish o.output o.format⟩
  · refine .inr ⟨plan, lead, hplan, hlead, fun output format ending messages hemit => ?_⟩
    rw [ResolveOptions.run, hfinish, finish_emitting hemit]
    rfl

/-! ## When there is a plan -/

/-- What is said about a plan that has been saved. -/
def savedReport (path : FilePath) (plan : Plan) : List Message :=
  [.logged ⟨.debug, "buildplan.emitter",
      "Wrote build plan for " ++ plan.target ++ " to " ++ path.text⟩,
    .shown (.detail ("Plan: " ++ path.text) Console.detailIndent false),
    .shown (.leave true), success plan]

/-- The messages about a plan that is saved. -/
def savedMessages (path : FilePath) (plan : Plan) (written : PlanSink.Written) : List Message :=
  .saved written :: savedReport path plan

/-- The messages about a plan that is printed as a text. -/
def printedMessages (text : String) (plan : Plan) : List Message :=
  [.shown (.leave true), .printed text, success plan]

/-- A file gets the text that is printed: both layouts that nobody asked for are the same, and both
texts end with a line. -/
theorem printedMessages_fileText (d : Drawing) (plan : Plan) :
    printedMessages (PlanSink.fileText PlanSink.defaultLayout plan.serialize) plan =
      .shown (.leave true) :: shownPlan d .json plan ++ [success plan] := by
  have hlayout : SerializedPlan.defaultLayout = PlanSink.defaultLayout := rfl
  rw [shownPlan, hlayout]
  rfl

/-- Handing a plan on fails without printing or saving anything, or the plan is shown, or it is
saved. -/
theorem emit_cases (m : Machine) (o : ResolveOptions) (plan : Plan) :
    (∃ ending messages, ending ≠ .ok .ok ∧ (∀ message ∈ messages, message.Quiet) ∧
      emit m o plan = (.ended ending, messages)) ∨
    (o.output = none ∧ emit m o plan = display m.drawing o.format plan) ∨
    ∃ path written files, o.output = some (.value path) ∧
      (PlanSink.file path PlanSink.defaultLayout).apply plan.serialize m.files =
        .ok (some written, files) ∧
      emit m o plan = (.ended (.ok .ok), savedMessages path plan written) := by
  unfold emit
  split
  · exact .inl ⟨_, _, by simp, by simp, rfl⟩
  · rename_i path houtput
    unfold emitTo
    split
    · rename_i result files happly
      obtain ⟨written, rfl, -⟩ := PlanSink.apply_file happly
      exact .inr (.inr ⟨path, written, files, houtput, happly, rfl⟩)
    · split <;> exact .inl ⟨_, _, by simp, by simp, rfl⟩
  · rename_i houtput
    exact .inr (.inl ⟨houtput, rfl⟩)

end ResolveStage

namespace Message

open ResolveStage

variable (c : Console) {lead : List Message} (plan : Plan)

theorem play_savedMessages (path : FilePath) (written : PlanSink.Written)
    (quiet : ∀ message ∈ lead, message.Quiet) :
    (play c (lead ++ savedMessages path plan written)).2.output = "" ∧
    (play c (lead ++ savedMessages path plan written)).2.file = some written := by
  obtain ⟨houtput, hfile, -⟩ := play_quiet_append (c := c) quiet (savedMessages path plan written)
  have hquiet : ∀ message ∈ savedReport path plan, message.Quiet := by
    simp [savedReport, success]
  obtain ⟨hreport, hnone, -⟩ := quiet_play (c := (play c lead).1) hquiet
  rw [houtput, hfile, savedMessages, play_cons_of_runs rfl]
  simp [Trace.andThen, hreport, hnone]

theorem play_printedMessages (text : String) (quiet : ∀ message ∈ lead, message.Quiet) :
    (play c (lead ++ printedMessages text plan)).2.output = text ∧
    (play c (lead ++ printedMessages text plan)).2.file = none ∧
    (play c (lead ++ printedMessages text plan)).2.stopped = none := by
  obtain ⟨houtput, hfile, hstopped⟩ :=
    play_quiet_append (c := c) quiet (printedMessages text plan)
  generalize (play c lead).1 = c at houtput hfile hstopped
  obtain ⟨hleaveOutput, hleaveFile, hleave⟩ := quiet_step (c := c) (quiet_shown (.leave true))
  obtain ⟨hlastOutput, hlastFile, hlast⟩ :=
    quiet_step (c := ((shown (.leave true)).step c).1) (show (success plan).Quiet from trivial)
  rw [houtput, hfile, hstopped, printedMessages, play_cons_of_runs hleave,
    play_cons_of_runs (by simp), step_printed, play_cons_of_runs hlast]
  simp [Trace.andThen, play, hleaveOutput, hleaveFile, hlastOutput, hlastFile]

end Message

/-! ## A run of the command -/

/-- The drawing that leaves nothing, for runs in which nothing is drawn. -/
def blankDrawing : Drawing := ⟨fun _ => .ok "", fun _ => .ok ""⟩

namespace Program

variable {m : Machine} {now : Double} {o : ResolveOptions}

/-- Nothing is printed and no file is written. -/
def LeavesNothing (m : Machine) (now : Double) (o : ResolveOptions) : Prop :=
  (runCommand m now (.resolve o)).output = "" ∧ (runCommand m now (.resolve o)).written = none

/-- A plan is written to a file: nothing but the file and the directories that it stands in changes,
and it gets the text that is printed where no file is named. -/
def Saves (m : Machine) (now : Double) (o : ResolveOptions) (path : FilePath) : Prop :=
  (runCommand m now (.resolve o)).output = "" ∧ ∃ plan written files, m.Plans o plan ∧
    (PlanSink.file path PlanSink.defaultLayout).apply plan.serialize m.files =
      .ok (some written, files) ∧
    PlanSink.Changes path written m.files files ∧
    (runCommand m now (.resolve o)).written = some written ∧
    (runCommand m now (.resolve (o.handing none .json))).ending = .ok .ok ∧
    (runCommand m now (.resolve (o.handing none .json))).output = written.text ∧
    (runCommand m now (.resolve (o.handing none .json))).written = none

theorem leavesNothing_of_failure {code : ExitCode}
    (h : (runCommand m now (.resolve o)).ending = .ok code) (hcode : code ≠ .ok) :
    LeavesNothing m now o := by
  obtain ⟨-, hending⟩ := Trace.ending_eq_ok.1 h
  have hquiet : ∀ message ∈ (o.run m).2, message.Quiet := by
    rcases ResolveStage.run_eq m o with ⟨ending, messages, -, hquiet, hrun⟩ |
      ⟨plan, lead, -, hlead, hrun⟩
    · rw [hrun]
      exact hquiet
    · rcases ResolveStage.emit_cases m o plan with ⟨ending, messages, -, hquiet, hemit⟩ |
        ⟨-, hemit⟩ | ⟨path, written, files, -, -, hemit⟩
      all_goals
        have hown : o.run m = _ := hrun o.output o.format _ _ hemit
        rw [hown] at hending ⊢
      · exact List.forall_mem_append.2 ⟨hlead, hquiet⟩
      all_goals
        cases hending
        exact absurd rfl hcode
  obtain ⟨houtput, hfile, -⟩ := Message.quiet_play hquiet
  exact ⟨houtput, hfile⟩

theorem saves_of_ok {path : FilePath} (h : (runCommand m now (.resolve o)).ending = .ok .ok)
    (houtput : o.output = some (.value path)) : Saves m now o path := by
  obtain ⟨-, hending⟩ := Trace.ending_eq_ok.1 h
  rcases ResolveStage.run_eq m o with ⟨ending, messages, hending', -, hrun⟩ |
    ⟨plan, lead, hplan, hlead, hrun⟩
  · rw [hrun] at hending
    exact absurd hending hending'
  rcases ResolveStage.emit_cases m o plan with ⟨ending, messages, hending', -, hemit⟩ |
    ⟨hnone, -⟩ | ⟨path', written, files, houtput', happly, hemit⟩
  · have hown : o.run m = _ := hrun o.output o.format _ _ hemit
    rw [hown] at hending
    exact absurd hending hending'
  · rw [houtput] at hnone
    cases hnone
  · rw [houtput] at houtput'
    cases houtput'
    obtain ⟨written', hwritten, htext, hchanges⟩ := PlanSink.apply_file happly
    cases hwritten
    have hown : o.run m = _ := hrun o.output o.format _ _ hemit
    have hjson : (o.handing none .json).run m = (.ok .ok, lead ++
        ResolveStage.printedMessages written.text plan) := by
      rw [htext, ResolveStage.printedMessages_fileText m.drawing]
      exact hrun none .json _ _ rfl
    obtain ⟨hsilent, hsaved⟩ :=
      Message.play_savedMessages (console o.verbose now) plan path written hlead
    obtain ⟨houtputJson, hfileJson, hrunsJson⟩ :=
      Message.play_printedMessages (console o.verbose now) plan written.text hlead
    refine ⟨?_, plan, written, files, hplan, happly, hchanges, ?_, ?_, ?_, ?_⟩
    · rw [runCommand, ofMessages, hown]
      exact hsilent
    · rw [runCommand, ofMessages, hown]
      exact hsaved
    all_goals rw [runCommand, ofMessages, hjson]
    · exact Trace.ending_eq_ok.2 ⟨hrunsJson, rfl⟩
    · exact houtputJson
    · exact hfileJson

/-- Where a resolution ends with a code, the code tells what has come of it, and a plan goes nowhere
but where it should. -/
theorem resolve_tells (m : Machine) (now : Double) (o : ResolveOptions) (code : ExitCode)
    (h : (runCommand m now (.resolve o)).ending = .ok code) :
    code.Tells m o ∧ (code ≠ .ok → LeavesNothing m now o) ∧
    ∀ path, code = .ok → o.output = some (.value path) → Saves m now o path := by
  obtain ⟨-, hending⟩ := Trace.ending_eq_ok.1 h
  refine ⟨(ExitCode.fits_of_run hending).tells, leavesNothing_of_failure h, ?_⟩
  rintro path rfl houtput
  exact saves_of_ok h houtput

/-! A target without modules, whose plan goes to a directory that is not there yet. -/

def NoModules.machine : Machine where
  files := ⟨[], [(["mods.json"], .file "[\x7b\"name\": \"Core\"\x7d]".toUTF8),
    (["game.json"], .file "\x7b\"name\": \"Game\", \"root_modules\": []\x7d".toUTF8)]⟩
  samples := .ofText "/samples"
  assignments := []
  host := ⟨"Linux", "x86_64", 64⟩
  drawing := blankDrawing

def NoModules.options : ResolveOptions where
  registry := some (.value (.ofText "mods.json"))
  target := some (.value (.ofText "game.json"))
  output := some (.value (.ofText "out/plan.json"))

theorem noModules_ending :
    (runCommand NoModules.machine .zero (.resolve NoModules.options)).ending = .ok .ok := by
  decide +kernel

theorem noModules_tells :
    (runCommand NoModules.machine .zero (.resolve NoModules.options)).ending = .ok .ok ∧
    ExitCode.ok.Tells NoModules.machine NoModules.options ∧
    Saves NoModules.machine .zero NoModules.options (.ofText "out/plan.json") := by
  have htells := resolve_tells NoModules.machine .zero NoModules.options .ok noModules_ending
  exact ⟨noModules_ending, htells.1, htells.2.2 _ rfl rfl⟩

end Program

end GatedModules
