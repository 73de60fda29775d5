import GatedModules.Text.Writing

/-!
# Tables and their drawing

A table is a title and rows of texts under titles. Tables and single lines are drawn by a library,
which may color them, fit them to the terminal and take what stands in brackets for markup. How it
draws is left open. That nothing is drawn has to come from the texts or from the size of the
terminal, which the environment can set.
-/

namespace GatedModules

structure Column where
  title : String
  /-- Whether the cells stand at the right. -/
  atRight : Bool := false
  deriving DecidableEq, Repr

structure Table where
  title : Text
  columns : List Column
  rows : List (List Text)
  deriving DecidableEq, Repr

/-- Every text that a table shows. -/
def Table.texts (t : Table) : List Text :=
  t.title :: t.columns.map (fun column => (column.title : Text)) ++ t.rows.flatten

/-- Why something is not drawn: markup that means nothing, a text that the stream does not take, or
a size that no terminal has. -/
inductive DrawingFault where
  | markup (message : Text)
  | unwritable (error : Text.Unwritable)
  | size (message : Text)
  deriving DecidableEq, Repr

/-- A way to draw: what gets to the stream for output, which is all of it or nothing. -/
structure Drawing where
  table : Table → Except DrawingFault String
  line : Text → Except DrawingFault String

/-- The variables that set the size of the terminal. -/
def Drawing.sizeVariables : List Text := ["COLUMNS", "LINES"]

/-- Whether a fault can come from the assignments and texts that are drawn. -/
def DrawingFault.ComesFrom (assignments : List (Text × Text)) (texts : List Text) :
    DrawingFault → Prop
  | .markup _ => ∃ text ∈ texts, .char '[' ∈ text.points
  | .unwritable _ => ∃ text ∈ texts, ∃ point ∈ text.points, point.isHalf = true
  | .size _ => ∃ name ∈ Drawing.sizeVariables, (assignments.lookup name).isSome

/-- A drawing whose faults come from the assignments and from what is drawn. -/
structure Drawing.Documented (d : Drawing) (assignments : List (Text × Text)) : Prop where
  table : ∀ t fault, d.table t = .error fault → fault.ComesFrom assignments t.texts
  line : ∀ text fault, d.line text = .error fault → fault.ComesFrom assignments [text]

end GatedModules
