import GatedModules.Command.Message
import GatedModules.Proofs.WholeTexts

/-!
# What messages leave behind

Messages that neither print, draw nor save leave lines for the user and nothing else, and what
follows them leaves what it would leave alone. Only what is printed or drawn can stop a command.
-/

namespace GatedModules

/-! ## Endings -/

theorem Trace.ending_eq_ok {t : Trace} {otherwise : Ending} {code : ExitCode} :
    t.ending otherwise = .ok code ↔ t.stopped = none ∧ otherwise = .ok code := by
  unfold ending
  cases t.stopped <;> simp

namespace Message

/-- A message that neither prints, draws nor saves. -/
def Quiet : Message → Prop
  | .shown _ | .logged _ => True
  | .printed _ | .drawn _ | .saved _ => False

@[simp] theorem quiet_shown (action : ConsoleAction) : (shown action).Quiet := trivial

@[simp] theorem quiet_logged (record : LogRecord) : (logged record).Quiet := trivial

@[simp] theorem step_saved (c : Console) (file : PlanSink.Written) :
    (saved file).step c = (c, { file := some file }) := rfl

@[simp] theorem step_printed (c : Console) (text : String) :
    (printed text).step c = (c, { output := text }) := by
  rw [step, Text.written_ofString]
  rfl

/-- What is wrong with a message that stops a command. -/
def Stops (b : Breakdown) : Message → Prop
  | .printed text => ∃ e, text.written = .error e ∧ b = .printing e
  | .drawn result => ∃ fault, result = .error fault ∧ b = .drawing fault
  | .shown _ | .logged _ | .saved _ => False

theorem quiet_step {c : Console} {message : Message} (h : message.Quiet) :
    (message.step c).2.output = "" ∧ (message.step c).2.file = none ∧
      (message.step c).2.stopped = none := by
  cases message with
  | shown action | logged record => exact ⟨rfl, rfl, rfl⟩
  | printed text | drawn result | saved file => cases h

/-! ## One message after the other -/

variable {c : Console} {message : Message} {rest : List Message}

theorem play_cons_of_runs (h : (message.step c).2.stopped = none) :
    play c (message :: rest) = ((play (message.step c).1 rest).1,
      (message.step c).2.andThen (play (message.step c).1 rest).2) := by
  rw [play]
  simp [h]

/-- What follows quiet messages prints, saves and stops as it would alone. -/
theorem play_quiet_append {lead : List Message} (quiet : ∀ message ∈ lead, message.Quiet)
    (rest : List Message) :
    (play c (lead ++ rest)).2.output = (play (play c lead).1 rest).2.output ∧
    (play c (lead ++ rest)).2.file = (play (play c lead).1 rest).2.file ∧
    (play c (lead ++ rest)).2.stopped = (play (play c lead).1 rest).2.stopped := by
  induction lead generalizing c with
  | nil => exact ⟨rfl, rfl, rfl⟩
  | cons message lead ih =>
    obtain ⟨hmessage, hlead⟩ := List.forall_mem_cons.1 quiet
    obtain ⟨houtput, hfile, hruns⟩ := quiet_step (c := c) hmessage
    rw [List.cons_append, play_cons_of_runs hruns, play_cons_of_runs hruns]
    simpa [Trace.andThen, houtput, hfile] using ih hlead

theorem quiet_play {messages : List Message} (quiet : ∀ message ∈ messages, message.Quiet) :
    (play c messages).2.output = "" ∧ (play c messages).2.file = none ∧
      (play c messages).2.stopped = none := by
  have happend := play_quiet_append (c := c) quiet []
  rw [List.append_nil] at happend
  exact happend

end Message

end GatedModules
