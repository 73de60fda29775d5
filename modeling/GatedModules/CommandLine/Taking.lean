import GatedModules.CommandLine.Argument

/-!
# Taking options

The options are taken one argument after the other. An argument may give several options, the
letters of short ones behind a single dash, and none of them is taken unless all can be.
-/

namespace GatedModules

/-- What an option has for a value. A value that is attached to the option and reads `--` is
dropped. -/
inductive Setting (α : Type) where
  | value (a : α)
  | dropped
  deriving DecidableEq, Repr

namespace Setting

variable {α β : Type}

def map (f : α → β) : Setting α → Setting β
  | .value a => .value (f a)
  | .dropped => .dropped

def getD (default : α) : Setting α → α
  | .value a => a
  | .dropped => default

end Setting

/-- An option that is given. The setting of a flag says nothing. -/
structure Given (κ : Type) where
  spec : OptionSpec κ
  setting : Setting Text
  deriving DecidableEq, Repr

/-- Why an option cannot be taken. -/
inductive OptionFault (κ : Type) where
  | missingValue (spec : OptionSpec κ)
  | ignoredValue (spec : OptionSpec κ) (value : Text)
  deriving DecidableEq, Repr

/-- The options that an argument gives, and whether the next argument is the value of the last. -/
structure Taking (κ : Type) where
  given : List (Given κ)
  usesNext : Bool := false
  deriving DecidableEq, Repr

namespace Taking

variable {κ : Type}

/-- The same taking with one option more in front. -/
def after (first : Given κ) (t : Taking κ) : Taking κ := { t with given := first :: t.given }

/-- A flag that is given. -/
def flag (spec : OptionSpec κ) : Given κ := ⟨spec, .dropped⟩

/-- An option with the value that is attached to it. -/
def attached (spec : OptionSpec κ) (text : Text) : Given κ :=
  ⟨spec, if text = "--" then .dropped else .value text⟩

/-- Takes an option that stands alone; its value is the next argument. -/
def alone (spec : OptionSpec κ) (next : Option (Argument κ)) :
    Except (OptionFault κ) (Taking κ) :=
  if spec.takesValue then
    match next with
    | some ⟨value, .positional⟩ => .ok { given := [⟨spec, .value value⟩], usesNext := true }
    | _ => .error (.missingValue spec)
  else .ok { given := [flag spec] }

/-- Takes an option with a text attached. If the option takes no value and is a short one, the text
has to go on with the letter of another option. -/
def withText (specs : List (OptionSpec κ)) (next : Option (Argument κ)) (spec : OptionSpec κ)
    (long : Bool) (text : List CodePoint) : Except (OptionFault κ) (Taking κ) :=
  if spec.takesValue then .ok { given := [attached spec ⟨text⟩] }
  else
    let ignored := .error (.ignoredValue spec ⟨text⟩)
    match text with
    | [] => ignored
    | letter :: rest =>
      match OptionSpec.named? specs ⟨['-', letter]⟩ with
      | none => ignored
      | some other =>
        if long then ignored
        else if rest.isEmpty then (alone other next).map (after (flag spec))
        else (withText specs next other false rest).map (after (flag spec))
termination_by text.length

/-- Takes the options of an argument. -/
def ofArgument (specs : List (OptionSpec κ)) (next : Option (Argument κ)) (spec : OptionSpec κ)
    (name : Text) : Option Text → Except (OptionFault κ) (Taking κ)
  | none => alone spec next
  | some text => withText specs next spec (Argument.isLong name) text.points

end Taking

end GatedModules
