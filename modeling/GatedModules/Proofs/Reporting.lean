import GatedModules.Proofs.InputErrors
import GatedModules.Proofs.PlanDelivery
import GatedModules.Proofs.PlanOutcome

/-!
# What the resolve command reports

The command ends with an exit code unless there is a cause for a breakdown. A stage before there is
a plan can only end in one; handing the plan on, a drawing can stop the command as well. How deeply
calls may nest in the program itself is left out, as it is where files are loaded.
-/

namespace GatedModules

variable {m : Machine} {o : ResolveOptions}

/-- If a message stops the command, there is a cause. -/
def Message.Sound (m : Machine) (o : ResolveOptions) (message : Message) : Prop :=
  ∀ b, message.Stops b → b.Genuine m o

theorem Message.Quiet.sound {message : Message} (h : message.Quiet) : message.Sound m o := by
  intro b hb
  cases message with
  | shown action | logged record => exact hb.elim
  | printed text | drawn result | saved file => exact h.elim

/-! ## Stages -/

namespace ResolveStage

/-- What stops the messages of a stage has a cause, and so has a breakdown at its end. -/
structure Sound (m : Machine) (o : ResolveOptions) (p : Progress) : Prop where
  messages : ∀ message ∈ p.2, message.Sound m o
  ending : ∀ b, p.1 = .ended (.error b) → b.Genuine m o

/-- What stops the messages of a run has a cause, and so has a breakdown at its end. -/
structure SoundRun (m : Machine) (o : ResolveOptions) (r : Ending × List Message) : Prop where
  messages : ∀ message ∈ r.2, message.Sound m o
  ending : ∀ b, r.1 = .error b → b.Genuine m o

theorem Sound.after {p : Progress} (h : Sound m o p) {r : Ending × List Message}
    (hr : SoundRun m o r) : SoundRun m o (after p.2 r) :=
  ⟨List.forall_mem_append.2 ⟨h.messages, hr.messages⟩, hr.ending⟩

end ResolveStage

namespace DirectoryInRegistry

def machine : Machine where
  files := ⟨[], [(["mods"], .directory), (["mods", "old.json"], .directory),
    (["game.json"], .file "\x7b\"name\": \"Game\", \"root_modules\": []\x7d".toUTF8)]⟩
  samples := .ofText "/samples"
  assignments := []
  host := ⟨"linux", "x86_64", 64⟩
  drawing := blankDrawing

def arguments : List Text :=
  ["resolve", "-r", "mods", "-t", "game.json", "-p", "Linux", "-a", "x64"]

def options : ResolveOptions where
  registry := some (.value (.ofText "mods"))
  target := some (.value (.ofText "game.json"))
  platform := some "Linux"
  architecture := some "x64"

end DirectoryInRegistry

end GatedModules
