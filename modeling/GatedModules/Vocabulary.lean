import GatedModules.Json.Basic
import GatedModules.Text.Lower

/-!
# Vocabularies

Several settings take one of a few words. A word is recognised whatever the case of its letters,
and the first word that fits decides.
-/

namespace GatedModules

/-- The words for the values of a setting; `title` is what the setting is called at the start of a
sentence and `noun` inside one. -/
structure Vocabulary (α : Type) where
  title : String
  noun : String
  words : List (Text × α)
  /-- Whether a message about an unknown word lists the known ones. -/
  listed : Bool := false

/-- Why a value is not a word of a vocabulary. -/
inductive WordError where
  | notText (title : String) (value : Json)
  | unknown (noun : String) (word : Text) (choices : List Text)
  deriving DecidableEq, Repr

def WordError.message : WordError → Text
  | .notText title value => title ++ " must be a string, got " ++ value.display
  | .unknown noun word choices =>
    let expected : Text :=
      if choices.isEmpty then "" else " (expected one of: " ++ Text.intercalate ", " choices ++ ")"
    "Unknown " ++ noun ++ " '" ++ word ++ "'" ++ expected

namespace Vocabulary

variable {α : Type} (v : Vocabulary α)

/-- The value of a word. -/
def find? (word : Text) : Option α :=
  (v.words.find? fun w => Text.sameLower w.1 word).map (·.2)

/-- The value of a word that is spelled exactly as the vocabulary has it. -/
def spelled? (word : Text) : Option α := v.words.lookup word

/-- The value that a JSON value names. -/
def read (value : Json) : Except WordError α :=
  match value with
  | .str word =>
    match v.find? word with
    | some a => .ok a
    | none => .error (.unknown v.noun word (if v.listed then v.words.map (·.1) else []))
  | _ => .error (.notText v.title value)

theorem read_str_eq_ok_iff {word : Text} {a : α} :
    v.read (.str word) = .ok a ↔ v.find? word = some a := by
  unfold read
  split
  · rename_i w h
    cases h
    split <;> simp_all
  · simp_all

end Vocabulary

end GatedModules
