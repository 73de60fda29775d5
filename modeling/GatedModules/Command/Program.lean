import GatedModules.Command.Resolve
import GatedModules.CommandLine.Help

/-!
# The program

A run of the program reads the arguments and carries out the command that they name. Help texts and
refusals end a run before any command begins.
-/

namespace GatedModules

/-- What a run of the program leaves behind: how it ends, what it writes to the two standard streams
and to a file, and whether the arguments alone ended it. -/
structure Program.Result where
  ending : Ending
  output : String := ""
  errors : String := ""
  written : Option PlanSink.Written := none
  dismissed : Bool := false

namespace Program

/-- Lines with their ends. -/
def joinLines (lines : List String) : String := String.join (lines.map (· ++ "\n"))

/-! ## The commands that list -/

/-- The ending of the modules command, with its messages. -/
def listModules (m : Machine) (o : ListOptions) : Ending × List Message :=
  match m.loadSource o.source with
  | .ok loaded =>
    (.ok .ok, loaded.messages ++ [.drawn (m.drawing.table loaded.registry.listing)])
  | .error e =>
    match e.breakdown? with
    | some breakdown => (.error breakdown, [])
    | none => (.ok .inputError, [.shown (.error e.message)])

/-- The ending of the samples command, with its messages. -/
def listSamples (m : Machine) : Ending × List Message :=
  match Sample.names m.files m.samples with
  | .ok names => (.ok .ok, names.map fun name => .printed (name ++ "\n"))
  | .error e => (.error (.file e), [])

/-! ## A run -/

/-- A console for a command. -/
def console (verbose : Bool) (now : Double) : Console := { verbose, now }

/-- What a command leaves behind whose messages are all written at one time. -/
def ofMessages (verbose : Bool) (now : Double) (r : Ending × List Message) : Result :=
  let trace := (Message.play (console verbose now) r.2).2
  { ending := trace.ending r.1
    output := trace.output
    errors := trace.errors
    written := trace.file }

/-- What the run of a command leaves behind, the clock being stopped. -/
def runCommand (m : Machine) (now : Double) : Invocation → Result
  | .nothing => { ending := .ok .inputError, output := joinLines Page.program.help }
  | .resolve o => ofMessages o.verbose now (o.run m)
  | .modules o => ofMessages o.verbose now (listModules m o)
  | .samples => ofMessages false now (listSamples m)

/-- What a run leaves behind that ends before any command. Of a refusal that is the usage, with the
error below it. -/
def dismiss : Dismissal → Result
  | .help page => { ending := .ok .ok, output := joinLines page.help, dismissed := true }
  | .version =>
    { ending := .ok .ok, output := joinLines ["buildplan " ++ programVersion], dismissed := true }
  | .refused page error =>
    { ending := .ok .inputError
      errors := joinLines page.usage
        ++ (page.title ++ ": error: " ++ error.message ++ "\n" : Text).escaped
      dismissed := true }

/-- What a run of the program leaves behind, the clock being stopped. -/
def run (m : Machine) (now : Double) (arguments : List Text) : Result :=
  match Invocation.read arguments with
  | .ok invocation => runCommand m now invocation
  | .error dismissal => dismiss dismissal

end Program

end GatedModules
