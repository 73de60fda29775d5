import GatedModules.Lists
import GatedModules.Registry.Basic
import GatedModules.Resolution.Error
import GatedModules.Resolution.Limit

/-!
# Walking the module graph

The walk goes depth first from the roots of a target, in the order of the roots and of the edges.
Each module it comes to is entered once: its edges are evaluated there and then, and kept. A module
is open until all its edges have been taken, and finished from then on. An edge to an open module
closes a cycle.
-/

namespace GatedModules

/-- Where the walk stands with a module that it has come to. -/
inductive Mark where
  | opened
  | finished
  deriving DecidableEq, Repr

/-- An open module with the edges that have yet to be taken. -/
structure Frame where
  name : Text
  pending : List Edge
  deriving DecidableEq, Repr

/-- The state of a walk: the open modules, the last one first; the marks, the latest first; and the
active edges of every module that was entered, in the order of entering. -/
structure Walk where
  frames : List Frame
  marks : List (Text × Mark)
  entered : List (Text × List Edge)
  deriving DecidableEq, Repr

/-- Why a walk stops: the target does not resolve, a condition cannot be evaluated, or a root that
should have been checked is not declared. -/
inductive WalkError where
  | rejected (error : ResolutionError)
  | unevaluable (fault : ArchitectureFault)
  | undeclared (error : Registry.UndeclaredName)
  deriving DecidableEq, Repr

/-- A walk that stopped, with the state it had reached. -/
structure Halt where
  error : WalkError
  reached : Walk
  deriving DecidableEq, Repr

/-- What a walk goes by: the modules, the environment, the limit and the name of the target. -/
structure Course where
  registry : Registry
  env : Environment
  limit : DepthLimit
  target : Text

namespace Walk

def start : Walk := ⟨[], [], []⟩

/-- The mark of a module, if the walk has come to it. -/
def mark? (w : Walk) (name : Text) : Option Mark := w.marks.lookup name

/-- The open modules, the first one first. -/
def path (w : Walk) : List Text := (w.frames.map Frame.name).reverse

/-- Opens a module. -/
def enter (c : Course) (m : Module) (w : Walk) : Except Halt Walk :=
  match m.activeEdges c.env with
  | .ok edges => .ok {
      frames := ⟨m.name, edges⟩ :: w.frames
      marks := (m.name, .opened) :: w.marks
      entered := w.entered ++ [(m.name, edges)] }
  | .error fault => .error ⟨.unevaluable fault, w⟩

/-- The end of a path from where a name occurs in it. -/
def pathFrom (name : Text) (path : List Text) : List Text := path.dropWhile (· != name)

/-- Takes the next edge of the last open module, or finishes that module if it has none left. -/
def step (c : Course) (w : Walk) : Except Halt Walk :=
  match w.frames with
  | [] => .ok w
  | ⟨name, []⟩ :: rest =>
    .ok { w with frames := rest, marks := (name, .finished) :: w.marks }
  | ⟨name, e :: pending⟩ :: rest =>
    let taken := { w with frames := ⟨name, pending⟩ :: rest }
    match w.mark? e.name with
    | some .finished => .ok taken
    | some .opened =>
      .error ⟨.rejected (.cyclicDependency (pathFrom e.name w.path ++ [e.name])), w⟩
    | none =>
      match c.registry.find? e.name with
      | none => .error ⟨.rejected (.unknownModule e.name (some name) c.target), w⟩
      | some m =>
        if c.limit.value ≤ w.frames.length then
          .error ⟨.rejected (.depthExceeded c.limit.value (w.path ++ [e.name])), w⟩
        else enter c m taken

/-! ## The walk ends

Every step leaves less to do, for a module that the walk comes to brings no more than its edges and
itself to be finished. -/

/-- What is left to do for the open modules. -/
def load (w : Walk) : Nat := total (w.frames.map fun f => f.pending.length + 1)

/-- The declared modules that the walk has not come to. -/
def unseen (r : Registry) (w : Walk) : List Module :=
  r.modules.filter fun m => (w.mark? m.name).isNone

/-- How many steps are left if the walk comes to every module. -/
def left (r : Registry) (w : Walk) : Nat :=
  total ((unseen r w).map fun m => m.edges.length + 1) + load w

theorem mark?_cons {frames : List Frame} {marks : List (Text × Mark)}
    {entered : List (Text × List Edge)} {name n : Text} {k : Mark} :
    (Walk.mk frames ((name, k) :: marks) entered).mark? n =
      if n = name then some k else marks.lookup n := by
  by_cases h : n = name
  · simp [mark?, h]
  · have hb : (n == name) = false := by simpa using h
    simp [mark?, List.lookup_cons, hb, h]

theorem unseen_mark (r : Registry) (w : Walk) (frames : List Frame) (name : Text) (k : Mark)
    (entered : List (Text × List Edge)) :
    unseen r ⟨frames, (name, k) :: w.marks, entered⟩ =
      (unseen r w).filter fun m => m.name ≠ name := by
  rw [unseen, unseen, List.filter_filter]
  refine List.filter_congr fun m _ => ?_
  rw [mark?_cons]
  by_cases h : m.name = name <;> simp [h, mark?]

theorem enter_eq_ok {c : Course} {m : Module} {w w' : Walk} (h : enter c m w = .ok w') :
    ∃ edges, m.activeEdges c.env = .ok edges ∧
      w' = ⟨⟨m.name, edges⟩ :: w.frames, (m.name, .opened) :: w.marks,
        w.entered ++ [(m.name, edges)]⟩ := by
  unfold enter at h
  split at h
  · rename_i edges he
    exact ⟨edges, he, (Except.ok.inj h).symm⟩
  · cases h

theorem left_enter_le {c : Course} {m : Module} {w w' : Walk} (hm : m ∈ c.registry.modules)
    (hmark : w.mark? m.name = none) (h : enter c m w = .ok w') :
    left c.registry w' ≤ left c.registry w := by
  obtain ⟨edges, hedges, rfl⟩ := enter_eq_ok h
  have hmem : m ∈ unseen c.registry w := List.mem_filter.2 ⟨hm, by rw [hmark]; rfl⟩
  have hunseen := total_filter_add_le (p := fun m' => m'.name ≠ m.name)
    (fun m => m.edges.length + 1) hmem (by simp)
  have hactive := Edge.length_active_le hedges
  rw [left, left, unseen_mark]
  simp only [load, List.map_cons, total_cons]
  omega

theorem step_lt {c : Course} {w w' : Walk} (hne : w.frames ≠ []) (h : step c w = .ok w') :
    left c.registry w' < left c.registry w := by
  unfold step at h
  split at h
  · rename_i hf
    exact absurd hf hne
  · rename_i name rest hf
    cases h
    have hunseen := total_filter_le (fun m : Module => m.name ≠ name) (fun m => m.edges.length + 1)
      (unseen c.registry w)
    rw [left, left, unseen_mark]
    simp only [load, hf, List.map_cons, total_cons, List.length_nil]
    omega
  · rename_i name e pending rest hf
    dsimp only at h
    have htaken : left c.registry { w with frames := ⟨name, pending⟩ :: rest } <
        left c.registry w := by
      simp [left, unseen, load, mark?, hf]
    split at h
    · cases h
      exact htaken
    · cases h
    · rename_i hmark
      split at h
      · cases h
      · rename_i m hm
        split at h
        · cases h
        · have hname : m.name = e.name := by
            simpa using List.find?_some hm
          have hle := left_enter_le (List.mem_of_find?_eq_some hm) (by rw [hname]; exact hmark) h
          exact Nat.lt_of_le_of_lt hle htaken

/-- Steps until no module is open. -/
def run (c : Course) (w : Walk) : Except Halt Walk :=
  if _none : w.frames = [] then .ok w
  else
    match _next : step c w with
    | .error halt => .error halt
    | .ok next => run c next
termination_by left c.registry w
decreasing_by exact step_lt ‹_› ‹_›

/-- The walk from some roots; a root that it has come to already is left out. -/
def fromRoots (c : Course) (w : Walk) : List Text → Except Halt Walk
  | [] => .ok w
  | root :: rest =>
    match w.mark? root with
    | some _ => fromRoots c w rest
    | none =>
      match c.registry.get root with
      | .error e => .error ⟨.undeclared e, w⟩
      | .ok m => do
        let opened ← enter c m w
        let next ← run c opened
        fromRoots c next rest

/-- The walk from all roots of a target. -/
def whole (c : Course) (roots : List Text) : Except Halt Walk := fromRoots c start roots

end Walk

end GatedModules
