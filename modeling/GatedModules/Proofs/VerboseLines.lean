import GatedModules.Console.Basic
import Mathlib.Logic.Basic

/-!
# The lines of verbose mode

Two consoles see the same actions, and only one of them is in verbose mode. Once the clock has been
started the mode decides nothing but which lines are written: a line that is left out moves neither
the clock nor the channel, and an operation is timed whether or not it is announced.
-/

namespace GatedModules

/-- An action that leaves the mode of the console alone. -/
def ConsoleAction.KeepsMode : ConsoleAction → Prop
  | .setVerbose _ => False
  | _ => True

instance : DecidablePred ConsoleAction.KeepsMode
  | .setVerbose _ => .isFalse id
  | .clock _ | .start _ | .say .. | .phase .. | .detail .. | .header .. | .error _ | .warning _
  | .success _ | .enter .. | .note _ | .leave _ => .isTrue trivial

/-- Whether an action is for verbose mode only. A detail of a timed operation and its end are if
the operation is. -/
def ConsoleAction.isVerboseOnly (timers : List Timer) : ConsoleAction → Bool
  | .say _ verboseOnly | .phase _ _ _ verboseOnly | .detail _ _ verboseOnly
  | .enter _ _ verboseOnly => verboseOnly
  | .note _ | .leave _ => timers.head?.any Timer.verboseOnly
  | .clock _ | .start _ | .setVerbose _ | .header .. | .error _ | .warning _ | .success _ => false

/-- What some lines put on a channel. A line that cannot show its time is not put there. -/
def Channel.shown (channel : Channel) (lines : List Line) : List Text :=
  (lines.filter fun line => line.channel = channel).filterMap Line.shown?

theorem Channel.shown_flatMap {α : Type} (channel : Channel) (f : α → List Line) (l : List α) :
    channel.shown (l.flatMap f) = l.flatMap fun a => channel.shown (f a) := by
  unfold shown
  rw [List.filter_flatMap, List.filterMap_flatMap]

namespace Console

/-! ## What a step says -/

theorem startedAt_put {c : Console} (h : c.startedAt.isSome) (text : Text) (verboseOnly : Bool) :
    (c.put text verboseOnly).1.startedAt.isSome := by
  unfold put
  split
  · exact h
  · rfl

/-- The console after an action, before any line of it is written. -/
def moved (c : Console) : ConsoleAction → Console
  | .clock now => { c with now }
  | .start channel => { c with startedAt := some c.now, channel }
  | .setVerbose verbose => { c with verbose }
  | .enter _ _ verboseOnly => { c with timers := ⟨c.now, verboseOnly⟩ :: c.timers }
  | .leave _ => { c with timers := c.timers.tail }
  | _ => c

/-- The text that an action has for the user, and whether that is for verbose mode only. -/
def said? (c : Console) : ConsoleAction → Option (Text × Bool)
  | .clock _ | .start _ | .setVerbose _ => none
  | .say text verboseOnly => some (text, verboseOnly)
  | .phase number total text verboseOnly =>
    some (phaseText (toString number) (toString total) text, verboseOnly)
  | .detail text indent verboseOnly => some (detailText indent text, verboseOnly)
  | .header title version => some (title ++ " v" ++ version, false)
  | .error text => some ("ERROR: " ++ text, false)
  | .warning text => some ("WARNING: " ++ text, false)
  | .success text => some (text, false)
  | .enter operation phase verboseOnly => some (announcement operation phase, verboseOnly)
  | .note text =>
    c.timers.head?.map fun timer => (detailText detailIndent text, timer.verboseOnly)
  | .leave succeeded =>
    if succeeded then
      c.timers.head?.map fun timer =>
        (detailText detailIndent (doneText (c.now.sub timer.startedAt)), timer.verboseOnly)
    else none

/-- A step moves the console and then writes what there is to say. -/
theorem step_eq (c : Console) (action : ConsoleAction) :
    c.step action = (c.said? action).elim (c.moved action, [])
      fun said => (c.moved action).put said.1 said.2 := by
  cases action with
  | note text =>
    change c.putNote text = _
    unfold putNote said?
    cases c.timers <;> rfl
  | leave succeeded =>
    change c.leaveTimer succeeded = _
    unfold leaveTimer said? moved
    cases htimers : c.timers with
    | nil =>
      have hsame : { c with timers := [] } = c := by rw [← htimers]
      cases succeeded <;> simp [hsame]
    | cons timer rest => cases succeeded <;> rfl
  | _ => rfl

theorem startedAt_moved {c : Console} (h : c.startedAt.isSome) (action : ConsoleAction) :
    (c.moved action).startedAt.isSome := by
  cases action with
  | start channel => rfl
  | _ => exact h

theorem startedAt_step {c : Console} (h : c.startedAt.isSome) (action : ConsoleAction) :
    (c.step action).1.startedAt.isSome := by
  rw [step_eq]
  cases c.said? action with
  | none => exact startedAt_moved h action
  | some said => exact startedAt_put (startedAt_moved h action) _ _

/-! ## Runs by turns -/

/-- A turn of a run: whether its action is for verbose mode only, and the lines it writes. -/
structure Turn where
  verboseOnly : Bool
  lines : List Line
  deriving DecidableEq, Repr

def turns (c : Console) : List ConsoleAction → List Turn
  | [] => []
  | action :: rest =>
    ⟨action.isVerboseOnly c.timers, (c.step action).2⟩ :: (c.step action).1.turns rest

theorem run_cons (c : Console) (action : ConsoleAction) (rest : List ConsoleAction) :
    c.run (action :: rest)
      = (((c.step action).1.run rest).1, (c.step action).2 ++ ((c.step action).1.run rest).2) := rfl

theorem run_lines (c : Console) (actions : List ConsoleAction) :
    (c.run actions).2 = (c.turns actions).flatMap Turn.lines := by
  induction actions generalizing c with
  | nil => rfl
  | cons action rest ih => rw [run_cons, turns, List.flatMap_cons, ih]

/-! ## The mode -/

def inMode (c : Console) (verbose : Bool) : Console := { c with verbose }

theorem started_of_isSome {c : Console} (h : c.startedAt.isSome) : c.started = c := by
  obtain ⟨time, htime⟩ := Option.isSome_iff_exists.1 h
  cases c
  cases htime
  rfl

@[simp] theorem verbose_put (c : Console) (text : Text) (verboseOnly : Bool) :
    (c.put text verboseOnly).1.verbose = c.verbose := by
  unfold put
  split <;> rfl

theorem verbose_moved {action : ConsoleAction} (h : action.KeepsMode) (c : Console) :
    (c.moved action).verbose = c.verbose := by
  cases action with
  | setVerbose verbose => cases h
  | _ => rfl

theorem verbose_step {action : ConsoleAction} (h : action.KeepsMode) (c : Console) :
    (c.step action).1.verbose = c.verbose := by
  rw [step_eq, ← verbose_moved h c]
  cases c.said? action with
  | none => rfl
  | some said => exact verbose_put _ _ _

theorem moved_inMode {action : ConsoleAction} (h : action.KeepsMode) (c : Console) (v : Bool) :
    (c.inMode v).moved action = (c.moved action).inMode v := by
  cases action with
  | setVerbose verbose => cases h
  | _ => rfl

theorem said?_inMode (c : Console) (action : ConsoleAction) (v : Bool) :
    (c.inMode v).said? action = c.said? action := by
  cases action <;> rfl

/-- What is said for verbose mode only is said by an action for verbose mode only. -/
theorem said?_mark {c : Console} {action : ConsoleAction} {said : Text × Bool}
    (h : c.said? action = some said) : said.2 = action.isVerboseOnly c.timers := by
  cases action with
  | clock now | start channel | setVerbose verbose => cases h
  | note text =>
    obtain ⟨timer, htimer, rfl⟩ := Option.map_eq_some_iff.1 h
    simp [ConsoleAction.isVerboseOnly, htimer]
  | leave succeeded =>
    cases succeeded with
    | false => cases h
    | true =>
      obtain ⟨timer, htimer, rfl⟩ := Option.map_eq_some_iff.1 h
      simp [ConsoleAction.isVerboseOnly, htimer]
  | _ =>
    cases h
    rfl

/-! ## The same actions in the other mode -/

/-- What the console does outside verbose mode where it does `loud` in it. -/
def hushed (verboseOnly : Bool) (loud : Console × List Line) : Console × List Line :=
  (loud.1.inMode false, if verboseOnly then [] else loud.2)

section

variable {c : Console} (hstarted : c.startedAt.isSome) (hverbose : c.verbose = true)

include hstarted hverbose

theorem put_quiet (text : Text) (verboseOnly : Bool) :
    (c.inMode false).put text verboseOnly = hushed verboseOnly (c.put text verboseOnly) := by
  have hput : c.put text verboseOnly
      = (c, [{ channel := c.channel, time? := c.time?, text, verboseOnly }]) := by
    rw [put, hverbose, started_of_isSome hstarted]
    simp
  rw [hput]
  cases verboseOnly with
  | true => rfl
  | false =>
    have hquiet : (c.inMode false).started = c.inMode false := started_of_isSome hstarted
    rw [put, hquiet]
    rfl

theorem step_quiet {action : ConsoleAction} (h : action.KeepsMode) :
    (c.inMode false).step action = hushed (action.isVerboseOnly c.timers) (c.step action) := by
  rw [step_eq, step_eq, said?_inMode, moved_inMode h]
  cases hsaid : c.said? action with
  | none => simp [hushed]
  | some said =>
    rw [← said?_mark hsaid]
    exact put_quiet (startedAt_moved hstarted action) ((verbose_moved h c).trans hverbose) _ _

end

/-- From a started clock on, the console outside verbose mode does what it does in verbose mode,
less the lines of the actions for verbose mode. -/
theorem run_quiet {c : Console} (hstarted : c.startedAt.isSome) (hverbose : c.verbose = true)
    {actions : List ConsoleAction} (h : ∀ action ∈ actions, action.KeepsMode) :
    (c.inMode false).run actions
      = ((c.run actions).1.inMode false,
          ((c.turns actions).filter (!·.verboseOnly)).flatMap Turn.lines) := by
  induction actions generalizing c with
  | nil => rfl
  | cons action rest ih =>
    obtain ⟨haction, hrest⟩ := List.forall_mem_cons.1 h
    have hnext := ih (startedAt_step hstarted action)
      ((verbose_step haction c).trans hverbose) hrest
    rw [run_cons, step_quiet hstarted hverbose haction, hushed, hnext, run_cons, turns]
    cases action.isVerboseOnly c.timers <;> simp

/-- Verbose mode only adds lines. Of a run in verbose mode, the same run outside it writes those
lines, and no others, that come from actions not for verbose mode only. -/
theorem quiet_run_leaves_out (c : Console) (channel : Channel) (actions : List ConsoleAction)
    (h : ∀ action ∈ actions, action.KeepsMode) :
    let script := .start channel :: actions
    let quiet := (c.inMode false).run script
    let loud := (c.inMode true).run script
    let turns := (c.inMode true).turns script
    let kept := turns.filter (!·.verboseOnly)
    loud.2 = turns.flatMap Turn.lines ∧
    quiet.2 = kept.flatMap Turn.lines ∧
    (∀ stream : Channel,
      stream.shown quiet.2 = kept.flatMap fun turn => stream.shown turn.lines) ∧
    quiet.1 = loud.1.inMode false := by
  intro script quiet loud turns kept
  let begun : Console := { c.inMode true with startedAt := some c.now, channel }
  have hquiet : quiet = ((begun.run actions).1.inMode false,
      ((begun.turns actions).filter (!·.verboseOnly)).flatMap Turn.lines) :=
    run_quiet (c := begun) rfl rfl h
  have hlines : quiet.2 = kept.flatMap Turn.lines := congrArg Prod.snd hquiet
  refine ⟨run_lines _ script, hlines, fun stream => ?_, congrArg Prod.fst hquiet⟩
  rw [hlines, Channel.shown_flatMap]

/-- An operation for verbose mode within one that is not. The clock goes on under the lines that
are left out. -/
theorem nested_operation_leaves_out :
    let actions : List ConsoleAction :=
      [.enter "Resolving" (some (2, 3)) false, .enter "Walking" none true, .clock (.ofInt 1),
        .note "21 modules", .leave true, .note "2 modules", .leave true]
    let script := .start .standard :: actions
    let quiet := (inMode {} false).run script
    let loud := (inMode {} true).run script
    let kept := ((inMode {} true).turns script).filter (!·.verboseOnly)
    (∀ action ∈ actions, action.KeepsMode) ∧
    loud.2.length = 6 ∧
    Channel.standard.shown quiet.2
      = (["00:00.00 [2/3] Resolving...\n", "00:01.00       2 modules\n",
        "00:01.00       Done (1.00s)\n"] : List Text) ∧
    quiet.2 = kept.flatMap Turn.lines := by
  refine ⟨by decide, by decide +kernel, by decide +kernel, ?_⟩
  exact (quiet_run_leaves_out {} .standard _ (by decide)).2.1

end Console

end GatedModules
