import GatedModules.Files.Name
import GatedModules.Text.Lines

/-!
# File paths

A path is a list of parts. Empty parts and `.` say nothing and are left out; `..` is kept, because
where it leads depends on the files.
-/

namespace GatedModules

/-- Where a path begins: in the current directory or at the root. Two slashes in front lead to the
root as one does, but they are shown. -/
inductive PathStart where
  | here
  | root
  | doubleRoot
  deriving DecidableEq, Repr, Inhabited

namespace PathStart

def text : PathStart → Text
  | .here => ""
  | .root => "/"
  | .doubleRoot => "//"

/-- The start of a path that is written like this. Three slashes are as good as one. -/
def ofText (t : Text) : PathStart :=
  match (t.points.takeWhile (· = .char '/')).length with
  | 0 => .here
  | 2 => .doubleRoot
  | _ => .root

end PathStart

structure FilePath where
  start : PathStart
  parts : List Text
  deriving DecidableEq, Repr, Inhabited

namespace FilePath

/-- The path that a text gives. -/
def ofText (t : Text) : FilePath where
  start := .ofText t
  parts := ((Text.piecesAt (· = .char '/') t.points).map Text.mk).filter fun part =>
    part ≠ "" && part ≠ "."

/-- A path as it is shown; the path without parts is the directory itself. -/
def text (p : FilePath) : Text :=
  if p.start = .here ∧ p.parts = [] then "." else p.start.text ++ Text.intercalate "/" p.parts

/-- The names of the files that a path leads through. -/
def names (p : FilePath) : List Text := p.parts.map Text.asName

/-- The path without its last part. -/
def parent (p : FilePath) : FilePath := { p with parts := p.parts.dropLast }

/-- The path with one more part. -/
def child (p : FilePath) (name : Text) : FilePath := { p with parts := p.parts ++ [name] }

/-- The path that a text leads to from a directory. A text that begins at the root leads away from
it. -/
def join (p : FilePath) (t : Text) : FilePath :=
  let other := ofText t
  if other.start = .here then { p with parts := p.parts ++ other.parts } else other

/-- The longest path that the system takes, in bytes. -/
def limit : Nat := 4095

/-- The longest part of a path that the system takes, in bytes. -/
def partLimit : Nat := 255

def isTooLong (p : FilePath) : Bool := limit < p.text.nameSize

/-- The halves in a path that stand for nothing in a name. -/
def nameless? (p : FilePath) : Option Text.Unwritable := p.text.unwritable? CodePoint.isNameless

/-- Whether a zero character stands in a path, which no system takes. -/
def holdsZero (p : FilePath) : Bool := p.parts.any fun part => part.points.contains (.char '\x00')

end FilePath

end GatedModules
