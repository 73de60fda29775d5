import GatedModules.Main
import GatedModules.Proofs.Arrangement
import GatedModules.Proofs.Batches
import GatedModules.Proofs.ClockText
import GatedModules.Proofs.CommonOrder
import GatedModules.Proofs.Depth
import GatedModules.Proofs.DerivedViews
import GatedModules.Proofs.DividedRegistry
import GatedModules.Proofs.Emission
import GatedModules.Proofs.EnvironmentForm
import GatedModules.Proofs.EnvironmentView
import GatedModules.Proofs.FileContent
import GatedModules.Proofs.FlagsOnce
import GatedModules.Proofs.Likeness
import GatedModules.Proofs.Locality
import GatedModules.Proofs.Meaning
import GatedModules.Proofs.ModuleForm
import GatedModules.Proofs.ModuleGrammar
import GatedModules.Proofs.Monotonicity
import GatedModules.Proofs.NamesOnce
import GatedModules.Proofs.NormalForm
import GatedModules.Proofs.PredicateSpelling
import GatedModules.Proofs.ReaderLimits
import GatedModules.Proofs.RecursiveWalk
import GatedModules.Proofs.RegistryGrammar
import GatedModules.Proofs.Reloading
import GatedModules.Proofs.Reordering
import GatedModules.Proofs.Reporting
import GatedModules.Proofs.Resolution
import GatedModules.Proofs.Roles
import GatedModules.Proofs.Specialization
import GatedModules.Proofs.SteadyPlacing
import GatedModules.Proofs.TerminalDrawing
import GatedModules.Proofs.Traversal
import GatedModules.Proofs.Unplaced
import GatedModules.Proofs.Utf8
import GatedModules.Proofs.VerboseLines
import GatedModules.Proofs.WalkSimulation
import GatedModules.Proofs.WalkTurns
import GatedModules.Resolution.Batch
