import GatedModules.Plan.Sink
import GatedModules.Proofs.Loading
import GatedModules.Proofs.WholeTexts

/-!
# Paths that no system takes

An operation on a file fails before it reaches the system only if a part of the path has a zero
character or a half that stands for no byte.
-/

namespace GatedModules

/-! ## Characters that no path holds -/

/-- A part of a path holds what no name can hold. -/
def FilePath.Unnameable (p : FilePath) : Prop :=
  ∃ part ∈ p.parts, ∃ c ∈ part.points, c = .char '\x00' ∨ c.isNameless = true

theorem FilePath.Unnameable.of_parent {p : FilePath} (h : p.parent.Unnameable) : p.Unnameable := by
  obtain ⟨part, hpart, hc⟩ := h
  exact ⟨part, (List.dropLast_sublist _).subset hpart, hc⟩

namespace Text

end Text

namespace FileTree

variable {tree : FileTree} {p : FilePath} {fault : FileFault}

variable {e : FileError}

end FileTree

end GatedModules
