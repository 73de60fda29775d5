import GatedModules.Json.Basic

/-!
# Writing JSON

The text of a value is ASCII. On one line its parts are separated by `, ` and `: `; with an
indentation each part has a line of its own, indented once per level.
-/

namespace GatedModules.Json

/-- `\u` and the four hexadecimal digits of a UTF-16 unit. -/
def escapeUnit (n : Nat) : String := "\\u" ++ Text.hex 4 n

/-- A character without a printable ASCII form as one UTF-16 unit or as a surrogate pair. -/
def escapeWide (n : Nat) : String :=
  if n < 0x10000 then escapeUnit n
  else escapeUnit (0xD800 + (n - 0x10000) / 0x400) ++ escapeUnit (0xDC00 + (n - 0x10000) % 0x400)

/-- A character inside a JSON string. -/
def writeChar (c : Char) : String :=
  if c = '"' then "\\\""
  else if c = '\\' then "\\\\"
  else if c = '\n' then "\\n"
  else if c = '\r' then "\\r"
  else if c = '\t' then "\\t"
  else if c = '\x08' then "\\b"
  else if c = '\x0c' then "\\f"
  else if 0x20 ≤ c.toNat ∧ c.toNat < 0x7F then c.toString
  else escapeWide c.toNat

/-- A code point inside a JSON string. -/
def writePoint : CodePoint → String
  | .char c => writeChar c
  | point => escapeUnit point.value

def writeString (t : Text) : String :=
  "\"" ++ String.join (t.points.map writePoint) ++ "\""

/-- A double; the three values that are no numbers have names. -/
def writeDouble : Double → String
  | .nan => "NaN"
  | .infinite negative => if negative then "-Infinity" else "Infinity"
  | x => x.text

/-- How the parts of a value are laid out: on one line, or on lines of their own behind one copy of
a text per level. -/
inductive Layout where
  | line
  | indented (unit : String)
  deriving DecidableEq, Repr

namespace Layout

/-- A layout with a number of spaces per level; a negative number is as good as none. -/
def spaces (n : Int) : Layout := .indented (String.ofList (List.replicate n.toNat ' '))

/-- The start of a new line at a level. -/
def newLine (unit : String) (level : Nat) : String :=
  "\n" ++ String.join (List.replicate level unit)

/-- Puts the parts of a value between two brackets at a level. -/
def enclose (layout : Layout) (level : Nat) (opening closing : String) (parts : List String) :
    String :=
  if parts.isEmpty then opening ++ closing
  else match layout with
    | .line => opening ++ ", ".intercalate parts ++ closing
    | .indented unit =>
      opening ++ newLine unit (level + 1) ++ ("," ++ newLine unit (level + 1)).intercalate parts
        ++ newLine unit level ++ closing

end Layout

mutual

/-- The text of a value that stands at a level. -/
def writeAt (layout : Layout) (level : Nat) : Json → String
  | .null => "null"
  | .bool b => if b then "true" else "false"
  | .int n => toString n
  | .float x => writeDouble x
  | .str t => writeString t
  | .arr items => layout.enclose level "[" "]" (writeItems layout (level + 1) items)
  | .obj members =>
    layout.enclose level "\x7b" "\x7d" (writeMembers layout (level + 1) members)

def writeItems (layout : Layout) (level : Nat) : List Json → List String
  | [] => []
  | a :: as => writeAt layout level a :: writeItems layout level as

def writeMembers (layout : Layout) (level : Nat) : List (Text × Json) → List String
  | [] => []
  | (k, a) :: as =>
    (writeString k ++ ": " ++ writeAt layout level a) :: writeMembers layout level as

end

/-- The text of a value. -/
def write (layout : Layout) (value : Json) : String := writeAt layout 0 value

end GatedModules.Json
