import GatedModules.Command.Ending
import GatedModules.Console.Basic
import GatedModules.Plan.Sink

/-!
# Messages of a command

While it runs, a command tells the user what it does. Besides the lines of the console there are
records for diagnosis, which are shown in verbose mode only, texts that are printed, drawings and a
file that is saved. What cannot be printed or drawn ends the command, and what should follow it is
lost.
-/

namespace GatedModules

inductive LogLevel where
  | debug
  | info
  deriving DecidableEq, Repr

def LogLevel.name : LogLevel → String
  | .debug => "DEBUG"
  | .info => "INFO"

/-- A record for diagnosis, with the part of the program that it comes from. -/
structure LogRecord where
  level : LogLevel
  source : String
  text : Text
  deriving DecidableEq, Repr

/-- A record as a line. -/
def LogRecord.shown (r : LogRecord) : Text :=
  r.level.name ++ " " ++ r.source ++ ": " ++ r.text ++ "\n"

inductive Message where
  | shown (action : ConsoleAction)
  | logged (record : LogRecord)
  | printed (text : Text)
  | drawn (result : Except DrawingFault String)
  | saved (file : PlanSink.Written)
  deriving Repr

/-- What messages leave behind: what is written to the two standard streams and to a file, and what
the command breaks down on if not everything can be written. -/
structure Trace where
  output : String := ""
  errors : String := ""
  file : Option PlanSink.Written := none
  stopped : Option Breakdown := none
  deriving DecidableEq, Repr

namespace Trace

/-- The trace of texts on the stream for errors. -/
def ofLines (lines : List Text) : Trace := { errors := String.join (lines.map Text.escaped) }

/-- The trace of what gets to the stream for output, if anything does. -/
def ofOutput (result : Except Breakdown String) : Trace :=
  match result with
  | .ok output => { output }
  | .error e => { stopped := some e }

/-- A trace with another one behind it. -/
def andThen (first second : Trace) : Trace where
  output := first.output ++ second.output
  errors := first.errors ++ second.errors
  file := second.file.or first.file
  stopped := second.stopped

/-- How a command ends that left a trace. -/
def ending (t : Trace) (otherwise : Ending) : Ending :=
  match t.stopped with
  | some breakdown => .error breakdown
  | none => otherwise

end Trace

namespace Message

/-- The console after a message, and what the message leaves behind. -/
def step (c : Console) : Message → Console × Trace
  | .shown action =>
    let (next, lines) := c.step action
    (next, .ofLines (lines.filterMap Line.shown?))
  | .logged record => (c, .ofLines (if c.verbose then [record.shown] else []))
  | .printed text => (c, .ofOutput (text.written.mapError .printing))
  | .drawn result => (c, .ofOutput (result.mapError .drawing))
  | .saved file => (c, { file := some file })

/-- The console after some messages, and what they leave behind. -/
def play (c : Console) : List Message → Console × Trace
  | [] => (c, {})
  | message :: rest =>
    let (next, trace) := message.step c
    if trace.stopped.isSome then (next, trace)
    else
      let (last, others) := play next rest
      (last, trace.andThen others)

end Message

end GatedModules
