import GatedModules.Proofs.Answers
import GatedModules.Proofs.Loading
import GatedModules.Proofs.PathFaults
import GatedModules.Proofs.ResolveRun

/-!
# What goes wrong with the inputs

An error that the resolve command does not report itself has its cause in the files, in an option
without its value or in what a plan is drawn from.
-/

namespace GatedModules

/-! ## Causes -/

/-- Every text that is drawn for a plan. -/
def Plan.drawnTexts (p : Plan) : List Text := p.listing.texts ++ p.flagTexts

namespace Breakdown

/-- What has to be wrong for a file that is there not to be read or written. -/
inductive FileCause (m : Machine) (o : ResolveOptions) (e : FileError) : Prop
  | registry (path : FilePath) (source : o.source = some (.path (.value path)))
    (h : Registry.Unreadable m.files path e)
  | sample (name : Text) (source : o.source = some (.sample name))
    (h : Sample.Unreadable m.files m.samples name e)
  | target (path : FilePath) (target : o.target = some (.value path))
    (error : e = ⟨.nameTooLong, path⟩) (h : m.files.locate path = .error .nameTooLong)
  | output (path : FilePath) (output : o.output = some (.value path))
    (h : path.Unnameable)

/-- A file of the registry or of the sample or the target file is nested too deeply. -/
inductive ContentCause (m : Machine) (o : ResolveOptions) (c : Json.Container) : Prop
  | registry (path file : FilePath) (source : o.source = some (.path (.value path)))
    (held : Registry.Holds m.files path file) (h : Registry.TooDeep m.files file c)
  | sample (name : Text) (file : FilePath) (source : o.source = some (.sample name))
    (part : Sample.IsPart (m.samples.join name) file) (h : Registry.TooDeep m.files file c)
  | target (file : FilePath) (target : o.target = some (.value file))
    (h : Registry.TooDeep m.files file c)

/-- An option is given without the value that it cannot do without. -/
def DroppedCause (o : ResolveOptions) : DroppedValue → Prop
  | .registry => o.source = some (.path .dropped)
  | .target => o.target = some .dropped
  | .output => o.output = some .dropped
  | .feature => .dropped ∈ o.features

/-- A plan is to be drawn, and its texts or the assignments do not let it be. -/
structure DrawingCause (m : Machine) (o : ResolveOptions) (fault : DrawingFault) : Prop where
  format : o.format = .table
  output : o.output = none
  drawn : ∃ plan, m.Plans o plan ∧ fault.ComesFrom m.assignments plan.drawnTexts

/-- A breakdown has its cause. No resolution breaks down that is not rejected, and a plan that is
printed is printed to its end. -/
def Genuine (m : Machine) (o : ResolveOptions) : Breakdown → Prop
  | .file e => FileCause m o e
  | .content c => ContentCause m o c
  | .dropped value => DroppedCause o value
  | .drawing fault => DrawingCause m o fault
  | .resolution _ | .printing _ => False

end Breakdown

theorem DrawingFault.ComesFrom.mono {assignments : List (Text × Text)} {texts more : List Text}
    {fault : DrawingFault} (h : fault.ComesFrom assignments texts) (hsub : texts ⊆ more) :
    fault.ComesFrom assignments more := by
  cases fault with
  | markup message | unwritable error =>
    obtain ⟨text, htext, hpoint⟩ := h
    exact ⟨text, hsub htext, hpoint⟩
  | size message => exact h

variable {m : Machine} {o : ResolveOptions}

/-- Where the command does not report an error there is a cause. -/
def InputError.Genuine (m : Machine) (o : ResolveOptions) (e : InputError) : Prop :=
  ∀ b, e.breakdown? = some b → b.Genuine m o

namespace Machine

end Machine

/-! ## Sources -/

namespace Machine

end Machine

end GatedModules
