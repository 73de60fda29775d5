import GatedModules.Text.Basic
import GatedModules.Text.CaseTable

/-!
# Lower case

The full lower-case mapping of a text. One character becomes two, the capital I with a dot, and one
depends on its neighbours, the capital sigma, which has a form of its own at the end of a word.
-/

namespace GatedModules.Text

/-- The lower-case letter that the runs give for a character, or the character itself. -/
def CaseRun.lowerIn : List CaseRun → Char → Char
  | [], c => c
  | run :: rest, c =>
    if c.toNat < run.first then c
    else if c.toNat ≤ run.last ∧ (c.toNat - run.first) % run.step = 0 then
      Char.ofNat ((c.toNat : Int) + run.shift).toNat
    else CaseRun.lowerIn rest c

/-- Whether the nearest character that is not skipped is a letter with case. -/
def nextToCased (cs : List Char) : Bool :=
  match cs.dropWhile caseIgnorable.holds with
  | [] => false
  | c :: _ => cased.holds c

/-- The lower case of `c` between the characters before it, nearest first, and those after it. -/
def lowerBetween (before : List Char) (c : Char) (after : List Char) : List Char :=
  if c = 'Σ' then [if nextToCased before && !nextToCased after then 'ς' else 'σ']
  else if c = 'İ' then ['i', '\u0307']
  else [CaseRun.lowerIn lowerRuns c]

/-- The lower case of the rest of a text; a half has no case and stays. -/
def lowerFrom (before : List Char) : List CodePoint → List CodePoint
  | [] => []
  | .char c :: after =>
    (lowerBetween before c (after.map CodePoint.toChar)).map .char ++ lowerFrom (c :: before) after
  | point :: after => point :: lowerFrom (point.toChar :: before) after

/-- The text in lower case. -/
def lower (t : Text) : Text := ⟨lowerFrom [] t.points⟩

/-- Whether two texts are equal up to letter case. -/
def sameLower (s t : Text) : Bool := lower s == lower t

theorem sameLower_iff {s t : Text} : sameLower s t = true ↔ lower s = lower t := by
  simp [sameLower]

end GatedModules.Text
