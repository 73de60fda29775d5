import GatedModules.Lists
import GatedModules.Text.Utf8
import GatedModules.Text.Writing

/-!
# The names of files

To the system a name is a string of bytes, which need not be that of any characters. A byte that
belongs to no character is a half from `U+DC80` to `U+DCFF` in the text of the name; no other half
can stand in a name.
-/

namespace GatedModules

namespace CodePoint

/-- The byte that a half stands for. -/
def byte? (p : CodePoint) : Option Nat :=
  if 0xDC80 ≤ p.value ∧ p.value ≤ 0xDCFF then some (p.value - 0xDC00) else none

/-- Whether no name can hold a code point. -/
def isNameless (p : CodePoint) : Bool := p.isHalf && p.byte?.isNone

/-- How many bytes a code point takes in a name. -/
def nameSize : CodePoint → Nat
  | .char c => c.utf8Size
  | .half _ => 1

end CodePoint

namespace Text

/-- How many bytes a name has. -/
def nameSize (t : Text) : Nat := total (t.points.map CodePoint.nameSize)

/-- The character whose bytes the first few halves stand for. -/
def fusedFirst? (ps : List CodePoint) (size : Nat) : Option Char :=
  match (ps.take size).mapM CodePoint.byte? with
  | some bytes =>
    match Utf8.decodeFrom 0 none bytes with
    | .ok [c] => some c
    | _ => none
  | none => none

/-- Some code points with a character in place of the halves that stand for its bytes. -/
def fuse (ps : List CodePoint) : List CodePoint :=
  match ps with
  | [] => []
  | p :: rest =>
    match [2, 3, 4].findSome? (fusedFirst? ps) with
    | some c => .char c :: fuse (rest.drop (c.utf8Size - 1))
    | none => p :: fuse rest
termination_by ps.length

/-- A name as the system gives it back. -/
def asName (t : Text) : Text := ⟨fuse t.points⟩

end Text

end GatedModules
