import GatedModules.Json.Basic

/-!
# Values read as sequences

Where a list is wanted, a text counts as its characters and an object as its names. Where an object
is wanted, a list of pairs does as well.
-/

namespace GatedModules.Json

/-- What is said when a member of a value is wanted that has none. -/
def noMembersMessage : Json → String
  | .arr _ => "list indices must be integers or slices, not str"
  | .str _ => "string indices must be integers, not 'str'"
  | value => "'" ++ value.kindName ++ "' object is not subscriptable"

/-- The items of a value that is a sequence. -/
def elements? : Json → Option (List Json)
  | .arr items => some items
  | .str t => some (t.points.map fun point => .str ⟨[point]⟩)
  | .obj members => some (members.map fun m => .str m.1)
  | _ => none

/-- Why a value cannot be read as a list or as an object; `index` is the place of an item. -/
inductive SequenceError where
  | notIterable (value : Json)
  | itemNotSequence (index : Nat)
  | itemNotPair (index length : Nat)
  | unhashable (key : Json)
  deriving DecidableEq, Repr

def SequenceError.message : SequenceError → String
  | .notIterable value => "'" ++ value.kindName ++ "' object is not iterable"
  | .itemNotSequence index =>
    "cannot convert dictionary update sequence element #" ++ toString index ++ " to a sequence"
  | .itemNotPair index length =>
    "dictionary update sequence element #" ++ toString index ++ " has length " ++ toString length
      ++ "; 2 is required"
  | .unhashable key => "unhashable type: '" ++ key.kindName ++ "'"

/-- A value as a list. -/
def toElements (value : Json) : Except SequenceError (List Json) :=
  match value.elements? with
  | some items => .ok items
  | none => .error (.notIterable value)

/-- Whether a value can be the key of an entry. -/
def isKey : Json → Bool
  | .arr _ | .obj _ => false
  | _ => true

/-- The number that a key stands for; a truth value counts as zero or one. -/
def keyNumber? : Json → Option (Int × Nat)
  | .bool b => some (if b then 1 else 0, 1)
  | .int n => some (n, 1)
  | .float (.finite s m e) => some (Double.finite s m e).toFraction
  | _ => none

/-- Whether two keys are the same entry. Numbers are compared by value. -/
def sameKey (a b : Json) : Bool :=
  match a.keyNumber?, b.keyNumber? with
  | some (m, d), some (n, e) => m * e == n * d
  | none, none => a == b
  | _, _ => false

/-- A key as the name of a member. -/
def keyText : Json → Text
  | .null => "null"
  | .bool b => if b then "true" else "false"
  | .str t => t
  | .float .nan => "NaN"
  | .float (.infinite negative) => if negative then "-Infinity" else "Infinity"
  | value => value.display

/-- Entries with one more: the value of an old key is replaced in its place. -/
def setEntry (key value : Json) : List (Json × Json) → List (Json × Json)
  | [] => [(key, value)]
  | (k, v) :: rest =>
    if sameKey k key then (k, value) :: rest else (k, v) :: setEntry key value rest

/-- The entries that a list of pairs gives, counted from `index`. -/
def toEntriesFrom (index : Nat) (entries : List (Json × Json)) :
    List Json → Except SequenceError (List (Json × Json))
  | [] => .ok entries
  | item :: rest =>
    match item.elements? with
    | none => .error (.itemNotSequence index)
    | some [key, value] =>
      if key.isKey then toEntriesFrom (index + 1) (setEntry key value entries) rest
      else .error (.unhashable key)
    | some parts => .error (.itemNotPair index parts.length)

/-- A value as entries: an object's members, or a list of pairs. -/
def toEntries (value : Json) : Except SequenceError (List (Json × Json)) :=
  match value with
  | .obj members => .ok (members.map fun m => (.str m.1, m.2))
  | _ => do toEntriesFrom 0 [] (← value.toElements)

end GatedModules.Json
