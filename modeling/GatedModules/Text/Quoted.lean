import GatedModules.Number.Text
import GatedModules.Text.Basic
import GatedModules.Text.PrintableTable

/-!
# Quoted text in messages

A text is quoted so that every part of it can be seen: a code point without a printed form of its
own is written as an escape. Single quotes stand around it, or double quotes where the text holds a
single quote and no double one.
-/

namespace GatedModules.Text

def isPrintable (c : Char) : Bool := !unprintable.holds c

/-- A number in hexadecimal, with at least `width` digits. -/
def hex (width n : Nat) : String := padLeft width '0' (String.ofList (Nat.toDigits 16 n))

/-- The quotation mark for a text. -/
def quoteMark (t : Text) : Char :=
  if t.points.contains (.char '\'') && !t.points.contains (.char '"') then '"' else '\''

/-- A character as it stands between two marks. -/
def quoteChar (mark c : Char) : String :=
  if c = mark ∨ c = '\\' then "\\" ++ c.toString
  else if c = '\t' then "\\t"
  else if c = '\n' then "\\n"
  else if c = '\r' then "\\r"
  else if isPrintable c then c.toString
  else if c.toNat ≤ 0xFF then "\\x" ++ hex 2 c.toNat
  else if c.toNat ≤ 0xFFFF then "\\u" ++ hex 4 c.toNat
  else "\\U" ++ hex 8 c.toNat

/-- A code point as it stands between two marks. -/
def quotePoint (mark : Char) : CodePoint → String
  | .char c => quoteChar mark c
  | point => "\\u" ++ hex 4 point.value

/-- The text between quotation marks. -/
def quoted (t : Text) : String :=
  let mark := quoteMark t
  mark.toString ++ String.join (t.points.map (quotePoint mark)) ++ mark.toString

end GatedModules.Text
