import GatedModules.Console.Clock
import GatedModules.Text.Basic

/-!
# The console

Lines for the user carry the time since the console was started. Some lines are shown in verbose
mode only. A timed operation announces itself, and if it succeeds a line tells how long it took.
-/

namespace GatedModules

/-- Where the lines go: to the standard error stream or to a stream of the caller's, who may have
several. -/
inductive Channel where
  | standard
  | custom (stream : Nat := 0)
  deriving DecidableEq, Repr, Inhabited

/-- A line with the time that it shows. -/
structure Line where
  channel : Channel
  time? : Option ClockTime
  text : Text
  verboseOnly : Bool
  deriving DecidableEq, Repr

/-- A line with its time, if the time can be shown. -/
def Line.shown? (line : Line) : Option Text :=
  line.time?.map fun time => time.text ++ " " ++ line.text ++ "\n"

/-- A timed operation that has not ended. -/
structure Timer where
  startedAt : Double
  verboseOnly : Bool
  deriving DecidableEq, Repr

/-- The state of the console. The timers are those of the nested timed operations, the innermost
first, and `now` is what the clock shows. -/
structure Console where
  startedAt : Option Double := none
  channel : Channel := .standard
  verbose : Bool := false
  now : Double := .zero
  timers : List Timer := []
  deriving DecidableEq, Repr

/-- What happens to a console. -/
inductive ConsoleAction where
  | clock (now : Double)
  | start (channel : Channel)
  | setVerbose (verbose : Bool)
  | say (text : Text) (verboseOnly : Bool)
  | phase (number total : Int) (text : Text) (verboseOnly : Bool)
  | detail (text : Text) (indent : Nat) (verboseOnly : Bool)
  | header (title version : Text)
  | error (text : Text)
  | warning (text : Text)
  | success (text : Text)
  | enter (operation : Text) (phase : Option (Int × Int)) (verboseOnly : Bool)
  | note (text : Text)
  | leave (succeeded : Bool)
  deriving DecidableEq, Repr

namespace Console

/-- The console with its clock started. A console that has not been started starts when the time is
first asked for. -/
def started (c : Console) : Console := { c with startedAt := some (c.startedAt.getD c.now) }

/-- The seconds since the start. -/
def elapsed (c : Console) : Double := c.now.sub (c.startedAt.getD c.now)

/-- The time since the start, if it can be shown. -/
def time? (c : Console) : Option ClockTime := ClockTime.ofSeconds? c.elapsed

/-- Writes a line, unless it is for verbose mode and the console is not in it. A line that is not
written does not start the clock. -/
def put (c : Console) (text : Text) (verboseOnly : Bool) : Console × List Line :=
  if verboseOnly && !c.verbose then (c, [])
  else (c.started, [{ channel := c.channel, time? := c.time?, text, verboseOnly }])

/-- The number of spaces in front of a detail. -/
def detailIndent : Nat := 6

def detailText (indent : Nat) (text : Text) : Text :=
  String.ofList (List.replicate indent ' ') ++ text

def phaseText (number total text : Text) : Text := "[" ++ number ++ "/" ++ total ++ "] " ++ text

/-- The announcement of a timed operation. -/
def announcement (operation : Text) (phase : Option (Int × Int)) : Text :=
  match phase with
  | some (number, total) => phaseText (toString number) (toString total) (operation ++ "...")
  | none => operation ++ "..."

/-- The line at the end of a timed operation that took some seconds. -/
def doneText (seconds : Double) : Text := "Done (" ++ (seconds.fixed 2 : Text) ++ "s)"

/-- A detail of the innermost timed operation. -/
def putNote (c : Console) (text : Text) : Console × List Line :=
  match c.timers with
  | timer :: _ => c.put (detailText detailIndent text) timer.verboseOnly
  | [] => (c, [])

/-- Ends the innermost timed operation. -/
def leaveTimer (c : Console) (succeeded : Bool) : Console × List Line :=
  match c.timers with
  | timer :: rest =>
    let ended := { c with timers := rest }
    if succeeded then
      ended.put (detailText detailIndent (doneText (c.now.sub timer.startedAt))) timer.verboseOnly
    else (ended, [])
  | [] => (c, [])

/-- The console after an action, and the lines that the action writes. -/
def step (c : Console) : ConsoleAction → Console × List Line
  | .clock now => ({ c with now }, [])
  | .start channel => ({ c with startedAt := some c.now, channel }, [])
  | .setVerbose verbose => ({ c with verbose }, [])
  | .say text verboseOnly => c.put text verboseOnly
  | .phase number total text verboseOnly =>
    c.put (phaseText (toString number) (toString total) text) verboseOnly
  | .detail text indent verboseOnly => c.put (detailText indent text) verboseOnly
  | .header title version => c.put (title ++ " v" ++ version) false
  | .error text => c.put ("ERROR: " ++ text) false
  | .warning text => c.put ("WARNING: " ++ text) false
  | .success text => c.put text false
  | .enter operation phase verboseOnly =>
    { c with timers := ⟨c.now, verboseOnly⟩ :: c.timers }.put (announcement operation phase)
      verboseOnly
  | .note text => c.putNote text
  | .leave succeeded => c.leaveTimer succeeded

/-- The console after some actions, and the lines that they write, in order. -/
def run (c : Console) : List ConsoleAction → Console × List Line
  | [] => (c, [])
  | action :: rest =>
    let (next, lines) := c.step action
    let (last, others) := next.run rest
    (last, lines ++ others)

end Console

end GatedModules
