import GatedModules.Text.Quoted

/-!
# Writing texts

The stream for output takes characters only: a text with a half of a pair in it is not written at
all. The stream for errors takes every text, and a half is written as an escape.
-/

namespace GatedModules.Text

/-- Halves in a text that stand together and are at fault: where they stand, the number of the first
and how many they are. -/
structure Unwritable where
  position : Nat
  first : Nat
  count : Nat
  deriving DecidableEq, Repr

def Unwritable.message (e : Unwritable) : String :=
  let place :=
    if e.count = 1 then
      "character '\\u" ++ hex 4 e.first ++ "' in position " ++ toString e.position
    else
      "characters in position " ++ toString e.position ++ "-" ++ toString (e.position + e.count - 1)
  "'utf-8' codec can't encode " ++ place ++ ": surrogates not allowed"

/-- The halves from the first one on that `isFault` accepts, up to the next character. -/
def unwritable? (isFault : CodePoint → Bool) (t : Text) : Option Unwritable :=
  match t.points.dropWhile fun p => !isFault p with
  | [] => none
  | p :: rest => some {
      position := (t.points.takeWhile fun p => !isFault p).length
      first := p.value
      count := (rest.takeWhile CodePoint.isHalf).length + 1 }

/-- What is written for a text on the stream for output. -/
def written (t : Text) : Except Unwritable String :=
  match t.unwritable? CodePoint.isHalf with
  | some e => .error e
  | none => .ok t.printed

/-- What is written for a text on the stream for errors. -/
def escaped (t : Text) : String :=
  String.join (t.points.map fun point => match point with
    | .char c => c.toString
    | .half _ => "\\u" ++ hex 4 point.value)

end GatedModules.Text
