import GatedModules.Text.Digit
import GatedModules.Text.Quoted

/-!
# Command-line arguments

An argument that begins with a dash is an option if it can be read as one. A long option may be cut
short as long as only one option begins so, and takes its value behind `=` or from the next
argument. A short option has one letter; behind it stands its value or, if it takes none, the letter
of another option. Everything behind `--` is positional.
-/

namespace GatedModules

/-- An option: what it is for, its names and whether it takes a value. -/
structure OptionSpec (κ : Type) where
  key : κ
  names : List Text
  takesValue : Bool
  deriving DecidableEq, Repr

/-- What an argument is. An option may have a text attached behind its name. -/
inductive ArgumentRole (κ : Type) where
  | separator
  | positional
  | unknown
  | option (spec : OptionSpec κ) (name : Text) (attached : Option Text)
  deriving DecidableEq, Repr

structure Argument (κ : Type) where
  text : Text
  role : ArgumentRole κ
  deriving DecidableEq, Repr

/-- A long option that several options could be meant by. -/
structure AmbiguousOption where
  text : Text
  names : List Text
  deriving DecidableEq, Repr

namespace OptionSpec

variable {κ : Type}

/-- The option of a name. -/
def named? (specs : List (OptionSpec κ)) (name : Text) : Option (OptionSpec κ) :=
  specs.find? fun spec => spec.names.contains name

/-- Every name with its option. -/
def allNames (specs : List (OptionSpec κ)) : List (Text × OptionSpec κ) :=
  specs.flatMap fun spec => spec.names.map fun name => (name, spec)

/-- The names of an option as messages show them. -/
def title (spec : OptionSpec κ) : Text := Text.intercalate "/" spec.names

end OptionSpec

namespace Argument

variable {κ : Type}

/-- Whether a text begins like a long option. -/
def isLong (t : Text) : Bool := ("--" : Text).isPrefixOf t

/-- Splits a text at its first `=`. -/
def splitValue (t : Text) : Text × Option Text :=
  let start := t.points.takeWhile (· ≠ .char '=')
  match t.points.dropWhile (· ≠ .char '=') with
  | _ :: value => (⟨start⟩, some ⟨value⟩)
  | [] => (⟨start⟩, none)

/-- The options that a text may mean: those whose name it begins, if it is long, or the one whose
letter it begins with. -/
def candidates (specs : List (OptionSpec κ)) (t : Text) :
    List (Text × OptionSpec κ × Option Text) :=
  if isLong t then
    let (start, value) := splitValue t
    ((OptionSpec.allNames specs).filter fun n => start.isPrefixOf n.1).map fun n =>
      (n.1, n.2, value)
  else
    ((OptionSpec.allNames specs).filter fun n => n.1.points = t.points.take 2).map fun n =>
      (n.1, n.2, some ⟨t.points.drop 2⟩)

/-- Whether a code point is a decimal digit of any script. -/
def isDigit (p : CodePoint) : Bool := (Text.digitValue? p.toChar).isSome

/-- Whether a text is a dash and a number. A line end may follow a number. -/
def isNegativeNumber (t : Text) : Bool :=
  let ps := if t.points.getLast? = some (.char '\n') then t.points.dropLast else t.points
  match ps with
  | .char '-' :: number =>
    match number.dropWhile isDigit with
    | [] => !number.isEmpty
    | .char '.' :: fraction => !fraction.isEmpty && fraction.all isDigit
    | _ => false
  | _ => false

/-- The role of an argument that begins with a dash, has something behind it and is not a name. -/
def dashedRole (specs : List (OptionSpec κ)) (text : Text) :
    Except AmbiguousOption (ArgumentRole κ) :=
  let (start, value) := splitValue text
  match OptionSpec.named? specs start, value with
  | some spec, some value => .ok (.option spec start (some value))
  | _, _ =>
    match candidates specs text with
    | [(name, spec, value)] => .ok (.option spec name value)
    | [] =>
      let isValue := isNegativeNumber text || text.points.contains (.char ' ')
      .ok (if isValue then .positional else .unknown)
    | several => .error ⟨text, several.map (·.1)⟩

/-- The role of an argument that does not stand behind `--`. -/
def roleOf (specs : List (OptionSpec κ)) (text : Text) :
    Except AmbiguousOption (ArgumentRole κ) :=
  if text.points.head? ≠ some (.char '-') then .ok .positional
  else match OptionSpec.named? specs text with
    | some spec => .ok (.option spec text none)
    | none => if text = "-" then .ok .positional else dashedRole specs text

/-- The roles of some arguments. -/
def classify (specs : List (OptionSpec κ)) :
    List Text → Except AmbiguousOption (List (Argument κ))
  | [] => .ok []
  | text :: rest =>
    if text = "--" then .ok (⟨text, .separator⟩ :: rest.map (⟨·, .positional⟩))
    else do return ⟨text, ← roleOf specs text⟩ :: (← classify specs rest)

end Argument

end GatedModules
