import GatedModules.Lists
import GatedModules.Terminal.Width
import GatedModules.Text.Lines

/-!
# Wrapped text

A text is broken into lines at its blanks, each line taking as many words as fit. The blanks behind
a word stay with it and do not count when the word is fitted in; what of them would stand past the
margin is left out. A word that is longer than a line is cut.
-/

namespace GatedModules.Text

def isBlankGlyph (g : Glyph) : Bool := g.point.isBlank

/-- The words of a text, each with the blanks behind it, the first also with those before it. -/
def words (gs : List Glyph) : List (List Glyph) :=
  match gs.splitBy fun a b => !(isBlankGlyph a && !isBlankGlyph b) with
  | first :: second :: rest =>
    if first.all isBlankGlyph then (first ++ second) :: rest else first :: second :: rest
  | pieces => pieces

/-- A list without the elements at its end that `p` accepts. -/
def dropTail (p : α → Bool) (xs : List α) : List α := (xs.reverse.dropWhile p).reverse

/-- The pieces of at most `room` places that clusters are dealt out to; the first `used` places of
the first piece are taken. -/
def deal (room : Nat) (used : Nat) : List Cluster → List (List Glyph)
  | [] => [[]]
  | cluster :: rest =>
    if used + cluster.places ≤ room then
      match deal room (used + cluster.places) rest with
      | [] => [cluster.glyphs]
      | piece :: pieces => (cluster.glyphs ++ piece) :: pieces
    else
      match deal room cluster.places rest with
      | [] => [[], cluster.glyphs]
      | piece :: pieces => [] :: (cluster.glyphs ++ piece) :: pieces

/-- The lines that a line and the words behind it make; `used` places of the line are taken. -/
def fill (room : Nat) (line : List Glyph) (used : Nat) : List (List Glyph) → List (List Glyph)
  | [] => [line]
  | word :: rest =>
    let size := width (dropTail isBlankGlyph word)
    if used + size ≤ room then fill room (line ++ word) (used + width word) rest
    else
      let pieces := if room < size then deal room 0 (clusters word) else [word]
      let last := pieces.getLast?.getD []
      (if line.isEmpty then [] else [line]) ++ pieces.dropLast ++ fill room last (width last) rest

/-- A line without the blanks at its end that stand past the margin. -/
def cutMargin (room : Nat) (line : List Glyph) : List Glyph :=
  line.take room ++ dropTail isBlankGlyph (line.drop room)

/-- The lines of a text without line ends. -/
def wrapLine (room : Nat) (gs : List Glyph) : List (List Glyph) :=
  (fill room [] 0 (words (expandTabs gs))).map fun line => cropped room (cutMargin room line)

/-- The lines of a text. -/
def wrap (room : Nat) (gs : List Glyph) : List (List Glyph) :=
  (piecesAt (fun g => g.point = .char '\n') gs).flatMap (wrapLine room)

/-- A line in the middle of `room` places, filled up with spaces. -/
def centered (room : Nat) (line : List Glyph) : List Glyph :=
  let line := dropTail isBlankGlyph line
  let left := (room - width line) / 2
  spaces left ++ line ++ spaces (room - width line - left)

/-! ## Pieces of a line -/

/-- The pieces of a line up to the one that reaches the margin, which is cut there. -/
def cutPieces (room : Nat) : List (List Glyph) → List Glyph
  | [] => []
  | piece :: rest =>
    if width piece < room then piece ++ cutPieces (room - width piece) rest
    else cropped room piece

/-- A line that is put out piece by piece. A joiner at the end of a piece takes nothing along, so
the pieces can be wider than the line, and then they are cut. -/
def putOut (room : Nat) (line : List Glyph) : List Glyph :=
  let pieces := line.splitBy fun _ g => !g.opens
  if room < total (pieces.map width) then cutPieces room pieces else line

end GatedModules.Text
