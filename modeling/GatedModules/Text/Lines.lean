/-!
# Lines

A text read from a file ends its lines with `\n` alone, and a place in it has a line and a column,
both counted from one.
-/

namespace GatedModules.Text

/-- The pieces of a list between the elements that `p` accepts. -/
def piecesAt (p : α → Bool) : List α → List (List α)
  | [] => [[]]
  | x :: rest =>
    if p x then [] :: piecesAt p rest
    else match piecesAt p rest with
      | [] => [[x]]
      | piece :: pieces => (x :: piece) :: pieces

/-- The text with `\r\n` and a lone `\r` made into `\n`. -/
def unifyNewlines : List Char → List Char
  | [] => []
  | '\r' :: '\n' :: rest => '\n' :: unifyNewlines rest
  | '\r' :: rest => '\n' :: unifyNewlines rest
  | c :: rest => c :: unifyNewlines rest

/-- The line and the column that follow a piece of text. -/
def placeAfter (cs : List Char) : Nat × Nat :=
  (cs.count '\n' + 1, (cs.reverse.takeWhile (· != '\n')).length + 1)

end GatedModules.Text
