/-!
# Patterns

A pattern says how a piece of a list may look. Where there are several ways they are tried in order,
and the first one counts with which all of the pattern fits. Parts of a pattern can be marked, and a
match tells where they lie.
-/

namespace GatedModules

/-- Two places in a list: where a piece of it begins and where it ends. -/
structure Span where
  start : Nat
  stop : Nat
  deriving DecidableEq, Repr

inductive Pattern (α : Type) where
  | empty
  /-- One element. -/
  | one (accepts : α → Bool)
  /-- No element, but a place between two; at the ends of the list one of them is missing. -/
  | between (accepts : Option α → Option α → Bool)
  | both (first second : Pattern α)
  | either (first second : Pattern α)
  /-- A pattern any number of times, as often as possible. -/
  | many (p : Pattern α)
  /-- A pattern any number of times, as rarely as possible. -/
  | few (p : Pattern α)
  | marked (p : Pattern α)

/-- How far a match has come: its place, the element before that, the elements that follow, and the
marked pieces so far, the last one first. -/
structure Matching (α : Type) where
  place : Nat
  before : Option α
  rest : List α
  marks : List Span

namespace Pattern

variable {α : Type}

/-! ## Composing -/

/-- Some patterns one after the other. -/
def sequence : List (Pattern α) → Pattern α
  | [] => .empty
  | p :: ps => .both p (sequence ps)

/-- The first of some patterns that fits. -/
def choice : List (Pattern α) → Pattern α
  | [] => .between fun _ _ => false
  | p :: ps => .either p (choice ps)

/-- A pattern if it is there. -/
def optional (p : Pattern α) : Pattern α := .either p .empty

/-- A pattern once or more often. -/
def repeated (p : Pattern α) : Pattern α := .both p (.many p)

/-- A pattern so many times. -/
def times (count : Nat) (p : Pattern α) : Pattern α := sequence (List.replicate count p)

/-- A pattern at most so many times, as often as possible. -/
def upTo : Nat → Pattern α → Pattern α
  | 0, _ => .empty
  | n + 1, p => optional (.both p (upTo n p))

/-- A pattern once or more often, but at most so many times. -/
def repeatedUpTo (most : Nat) (p : Pattern α) : Pattern α := .both p (upTo (most - 1) p)

/-! ## Matching -/

/-- A way to go on with a match. -/
abbrev Continuation (α : Type) := Matching α → Option (Matching α)

/-- Repeats a step up to `limit` times before it goes on, as often as possible. -/
def repeatMany (step : Matching α → Continuation α → Option (Matching α)) :
    Nat → Matching α → Continuation α → Option (Matching α)
  | 0, m, goOn => goOn m
  | limit + 1, m, goOn => step m (fun m => repeatMany step limit m goOn) <|> goOn m

/-- Repeats a step up to `limit` times before it goes on, as rarely as possible. -/
def repeatFew (step : Matching α → Continuation α → Option (Matching α)) :
    Nat → Matching α → Continuation α → Option (Matching α)
  | 0, m, goOn => goOn m
  | limit + 1, m, goOn => goOn m <|> step m fun m => repeatFew step limit m goOn

/-- Matches a pattern and goes on. Nothing is repeated more than `limit` times. -/
def run (limit : Nat) : Pattern α → Matching α → Continuation α → Option (Matching α)
  | .empty, m, goOn => goOn m
  | .one accepts, m, goOn =>
    match m.rest with
    | a :: rest =>
      if accepts a then goOn { m with place := m.place + 1, before := a, rest } else none
    | [] => none
  | .between accepts, m, goOn => if accepts m.before m.rest.head? then goOn m else none
  | .both first second, m, goOn => first.run limit m fun m => second.run limit m goOn
  | .either first second, m, goOn => first.run limit m goOn <|> second.run limit m goOn
  | .many p, m, goOn => repeatMany (fun m goOn => p.run limit m goOn) limit m goOn
  | .few p, m, goOn => repeatFew (fun m goOn => p.run limit m goOn) limit m goOn
  | .marked p, m, goOn =>
    p.run limit m fun n => goOn { n with marks := ⟨m.place, n.place⟩ :: n.marks }

/-- The marked pieces of all matches from a place on. A match begins where the one before it has
ended or later, no sooner than at `resume`. -/
def marksFrom (p : Pattern α) (limit place resume : Nat) (before : Option α) :
    List α → List Span
  | [] => []
  | a :: rest =>
    let found :=
      if place < resume then none
      else p.run limit { place, before, rest := a :: rest, marks := [] } some
    match found with
    | some m => m.marks ++ marksFrom p limit (place + 1) m.place a rest
    | none => marksFrom p limit (place + 1) resume a rest

/-- The marked pieces of all matches in a list that are not empty. A pattern of one element at least
is repeated no more often than there are elements. -/
def marks (p : Pattern α) (as : List α) : List Span :=
  (p.marksFrom as.length 0 0 none as).filter fun span => span.start < span.stop

end Pattern

end GatedModules
