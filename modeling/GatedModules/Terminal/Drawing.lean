import GatedModules.Table
import GatedModules.Terminal.Highlight
import GatedModules.Terminal.Wrap

/-!
# Drawing for a terminal

One way to draw, without color and without markup. A table is drawn with lines around its cells.
Every column is as wide as its widest cell or its title, with one space on either side. A cell of
several lines makes its row higher, and the other cells of the row are blank below their own lines.
A line of text is wrapped at the margin of the terminal.
-/

namespace GatedModules

/-- The characters of a horizontal line: its left end, the line, a crossing and its right end. -/
structure Rule where
  left : String
  line : Char
  cross : String
  right : String

namespace Terminal

def top : Rule := ⟨"┏", '━', "┳", "┓"⟩

def underTitles : Rule := ⟨"┡", '━', "╇", "┩"⟩

def bottom : Rule := ⟨"└", '─', "┴", "┘"⟩

/-! ## Cells -/

/-- The characters that end a line where the width of a cell is measured. -/
def lineEnds : List CodePoint := ['\n', '\x1c', '\x1d', '\x1e', '\x85', '\u2028', '\u2029']

/-- The places that a cell asks for. Its tabs do not count. -/
def cellWidth (cell : Text) : Nat :=
  ((Text.piecesAt (fun g => lineEnds.contains g.point) cell.still.glyphs).map Text.width).foldl
    max 0

/-- A line without what does not fit into `room` places, an ellipsis standing for it. -/
def shorten (room : Nat) (line : List Glyph) : List Glyph :=
  if room < Text.width line then Text.cropped (room - 1) line ++ [{ point := '…' }] else line

/-- A line with spaces behind it. -/
def padded (room : Nat) (line : List Glyph) : List Glyph :=
  line ++ Text.spaces (room - Text.width line)

/-- A line filled up to `room` places. A joiner at its end swallows a space, so what the first
spaces leave open is filled up once more. -/
def filled (atRight : Bool) (room : Nat) (line : List Glyph) : List Glyph :=
  if atRight then Text.spaces (room - Text.width line) ++ line
  else padded room (padded room line)

/-- A line with a space on either side. Joiners at the beginning of a line that was cut can leave
it too long, and then there is none on the right. -/
def boxed (room : Nat) (line : List Glyph) : List Glyph :=
  Text.spaces 1 ++ line ++ if room < Text.width line then [] else Text.spaces 1

/-- The lines of a cell in a column of some width. -/
def cellLines (column : Column) (room : Nat) (cell : Text) : List Text :=
  (Text.piecesAt (fun g => g.point = .char '\n') cell.still.glyphs).map fun line =>
    .ofGlyphs (boxed room (filled column.atRight room (shorten room (Text.expandTabs line))))

/-! ## Drawing -/

/-- The width of every column. -/
def widths (t : Table) : List Nat :=
  t.columns.mapIdx fun i column =>
    (t.rows.map fun row => cellWidth ((row[i]?).getD "")).foldl max (cellWidth column.title)

/-- The width of the whole table, a space on either side of every cell and a line between them. -/
def width (t : Table) : Nat := total ((widths t).map (· + 3)) + 1

def drawRule (widths : List Nat) (rule : Rule) : Text :=
  rule.left
    ++ rule.cross.intercalate (widths.map fun w => String.ofList (List.replicate (w + 2) rule.line))
    ++ rule.right

/-- A line of a row between vertical lines. -/
def drawLine (bar : String) (parts : List Text) : Text :=
  bar ++ Text.intercalate bar parts ++ bar

/-- The lines of a row. -/
def drawRow (t : Table) (bar : String) (cells : List Text) : List Text :=
  let drawn := ((t.columns.zip (widths t)).zip cells).map fun c =>
    (c.1.2, cellLines c.1.1 c.1.2 c.2)
  let height := (drawn.map fun c => c.2.length).foldl max 1
  (List.range height).map fun i =>
    drawLine bar (drawn.map fun c => (c.2[i]?).getD (.ofGlyphs (Text.spaces (c.1 + 2))))

/-- The lines of a table. -/
def tableLines (t : Table) : List Text :=
  (Text.wrap (width t) t.title.still.glyphs).map
      (fun line => .ofGlyphs (Text.centered (width t) line))
    ++ [drawRule (widths t) top] ++ drawRow t "┃" (t.columns.map fun column => column.title)
    ++ [drawRule (widths t) underTitles]
    ++ t.rows.flatMap (drawRow t "│")
    ++ [drawRule (widths t) bottom]

/-! ## Lines of text -/

/-- The columns of the terminal. -/
def margin : Nat := 80

/-- The glyphs of a text in which some parts stand out. Without a joiner a line is as wide as its
pieces, and it does not matter where these begin. -/
def lineGlyphs (t : Text) : List Glyph :=
  if t.points.contains Text.joiner then t.highlighted else t.glyphs

/-- The lines that a text takes. -/
def textLines (t : Text) : List Text :=
  (Text.wrap margin (lineGlyphs t.still)).map fun line => .ofGlyphs (Text.putOut margin line)

/-- Lines with their ends, as far as the stream takes them. -/
def written (lines : List Text) : Except DrawingFault String :=
  (Text.join (lines.map (· ++ "\n"))).written.mapError .unwritable

def drawing : Drawing where
  table t := written (tableLines t)
  line t := written (textLines t)

end Terminal

end GatedModules
