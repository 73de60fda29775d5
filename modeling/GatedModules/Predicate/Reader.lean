import GatedModules.Predicate.Basic

/-!
# Reading predicates

A predicate is a truth value or an object with one member, which names the test. A test of names
takes one name or a list of them.
-/

namespace GatedModules.Predicate

inductive ReadError where
  | notPredicate (value : Json)
  | notNames (test : Text) (value : Json)
  | notFlag (value : Json)
  | notList (test : Text) (value : Json)
  | unknownTest (test : Text)
  deriving DecidableEq, Repr

def ReadError.message : ReadError → Text
  | .notPredicate value =>
    "Predicate must be a boolean or a single-key object, got " ++ value.display
  | .notNames test value =>
    "'" ++ test ++ "' predicate expects a string or list of strings, got " ++ value.display
  | .notFlag value => "'feature' predicate expects a flag name, got " ++ value.display
  | .notList test value => "'" ++ test ++ "' predicate expects a list, got " ++ value.display
  | .unknownTest test => "Unknown predicate type '" ++ test ++ "'"

/-- The names that a test of names takes. -/
def readNames (test : Text) (value : Json) : Except ReadError (List Text) :=
  match value with
  | .str name => .ok [name]
  | _ =>
    match value.textList? with
    | some names => .ok names
    | none => .error (.notNames test value)

/-- The test of a feature flag, which has a name. -/
def readFlag (value : Json) : Except ReadError Predicate :=
  match value with
  | .str name => if name = "" then .error (.notFlag value) else .ok (.featureEnabled name)
  | _ => .error (.notFlag value)

mutual

/-- The predicate that a value describes. -/
def ofJson : Json → Except ReadError Predicate
  | .bool true => .ok .always
  | .bool false => .ok (.anyOf [])
  | .obj [(test, value)] =>
    if test = "platform" then (readNames test value).map .platformIn
    else if test = "architecture" then (readNames test value).map .architectureIn
    else if test = "configuration" then (readNames test value).map .configurationIn
    else if test = "feature" then readFlag value
    else if test = "all" then
      match value with
      | .arr items => (ofJsons items).map .allOf
      | _ => .error (.notList test value)
    else if test = "any" then
      match value with
      | .arr items => (ofJsons items).map .anyOf
      | _ => .error (.notList test value)
    else if test = "not" then (ofJson value).map .negation
    else .error (.unknownTest test)
  | value => .error (.notPredicate value)

/-- The predicates that the items of a list describe, up to the first fault. -/
def ofJsons : List Json → Except ReadError (List Predicate)
  | [] => .ok []
  | item :: rest => do return (← ofJson item) :: (← ofJsons rest)

end

end GatedModules.Predicate
