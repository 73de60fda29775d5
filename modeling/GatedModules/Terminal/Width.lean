import GatedModules.Terminal.WidthTable
import GatedModules.Text.Basic

/-!
# The width of a text

The number of places that a text takes on a terminal. Some code points belong to the one before
them: a mark takes no place, a joiner takes the code point behind it along, and a selector has a
symbol shown as a picture, which is wider.
-/

namespace GatedModules

/-- A code point in a line, and whether a new piece of the line begins with it. -/
structure Glyph where
  point : CodePoint
  opens : Bool := false
  deriving DecidableEq, Repr

namespace Text

/-- The glyphs of a text in one piece. -/
def glyphs (t : Text) : List Glyph := t.points.map fun point => { point }

def ofGlyphs (gs : List Glyph) : Text := ⟨gs.map Glyph.point⟩

/-- The places that a code point takes by itself. -/
def places (p : CodePoint) : Nat :=
  if placeless.holds p.toChar then 0 else if wide.holds p.toChar then 2 else 1

/-- The code point that takes the one behind it along. -/
def joiner : CodePoint := '\u200d'

/-- The code point that has the symbol before it shown as a picture. -/
def selector : CodePoint := '\ufe0f'

/-- What the places of a code point depend on besides itself. -/
structure Before where
  /-- The last code point that took a place, until a selector has been at it. -/
  base : Option CodePoint := none
  /-- Whether a joiner stands right before. -/
  joined : Bool := false

namespace Before

/-- The places that a code point adds to what is before it. -/
def added (b : Before) (p : CodePoint) : Nat :=
  if b.joined || p = joiner then 0
  else if p = selector then if b.base.any fun p => widening.holds p.toChar then 1 else 0
  else places p

def next (b : Before) (p : CodePoint) : Before :=
  if b.joined then { b with joined := false }
  else if p = joiner then { b with joined := true }
  else if p = selector then { b with base := none }
  else if places p = 0 then b
  else { b with base := some p }

end Before

/-- The places that a text takes behind another. -/
def widthAfter (b : Before) : List Glyph → Nat
  | [] => 0
  | g :: rest => b.added g.point + widthAfter (b.next g.point) rest

/-- The places that a text takes. -/
def width (gs : List Glyph) : Nat := widthAfter {} gs

/-! ## Clusters -/

/-- Glyphs that stay together, with the places that they take. -/
structure Cluster where
  glyphs : List Glyph
  places : Nat
  deriving DecidableEq, Repr

/-- The clusters of a text of which the first has been begun. -/
def clustersAfter (b : Before) (begun : Cluster) : List Glyph → List Cluster
  | [] => [begun]
  | g :: rest =>
    if b.joined || places g.point = 0 then
      clustersAfter (b.next g.point) ⟨begun.glyphs ++ [g], begun.places + b.added g.point⟩ rest
    else begun :: clustersAfter (b.next g.point) ⟨[g], places g.point⟩ rest

/-- The clusters of a text. A joiner at its beginning has nothing to take the next one to. -/
def clusters : List Glyph → List Cluster
  | [] => []
  | g :: rest =>
    let before := if g.point = joiner then {} else Before.next {} g.point
    clustersAfter before ⟨[g], places g.point⟩ rest

/-- The space that stands for what is left of a cluster. -/
def Cluster.space (c : Cluster) : Glyph := ⟨' ', c.glyphs.head?.any Glyph.opens⟩

/-- The first `room` places of a text. A space stands for what is left of a cluster that is cut
through. -/
def cutClusters (room : Nat) : List Cluster → List Glyph
  | [] => []
  | cluster :: rest =>
    if room = 0 then []
    else if cluster.places ≤ room then
      cluster.glyphs ++ cutClusters (room - cluster.places) rest
    else [cluster.space]

/-- A text cut to `room` places. -/
def cropped (room : Nat) (gs : List Glyph) : List Glyph :=
  if width gs ≤ room then gs else cutClusters room (clusters gs)

/-! ## Spaces -/

def spaces (count : Nat) : List Glyph := List.replicate count { point := ' ' }

/-- The distance between two tab stops. -/
def tabStop : Nat := 8

def isTab (g : Glyph) : Bool := g.point = .char '\t'

/-- Some pieces behind a column, each of which ends with its only tab; the last one may have none.
Instead of a tab there are a space and more spaces up to the next stop. -/
def spread (column : Nat) : List (List Glyph) → List Glyph
  | [] => []
  | piece :: rest =>
    let spaced := piece.map fun g => if isTab g then { g with point := ' ' } else g
    let column := column + width spaced
    let space := if piece.any isTab then (tabStop - column % tabStop) % tabStop else 0
    spaced ++ spaces space ++ spread (column + space) rest

/-- A text with spaces up to the next stop in place of every tab. -/
def expandTabs (gs : List Glyph) : List Glyph := spread 0 (gs.splitBy fun a _ => !isTab a)

/-- The controls that would move the cursor: bell, backspace, vertical tab, form feed and carriage
return. -/
def cursorControls : List CodePoint := ['\x07', '\x08', '\x0b', '\x0c', '\x0d']

/-- A text without the controls that would move the cursor. -/
def still (t : Text) : Text := ⟨t.points.filter fun p => !cursorControls.contains p⟩

end Text

end GatedModules
