import GatedModules.Lists
import GatedModules.Registry.Basic

/-!
# The build order

Every module is placed after the modules it depends on. Of the modules whose dependencies are all
placed, the one declared first goes next, so the edges and the order of declaration leave no choice.
-/

namespace GatedModules

/-- The active edges of some modules, by name. -/
abbrev EdgeMap := List (Text × List Edge)

namespace EdgeMap

/-- The names that a module's edges lead to, each once. -/
def dependencies (edges : List Edge) : List Text := distinct (edges.map Edge.name)

/-- The modules with an edge to a module. -/
def dependents (map : EdgeMap) (name : Text) : List Text :=
  (map.filter fun entry => (dependencies entry.2).contains name).map (·.1)

/-- The first name that an edge leads to and that has no entry of its own. -/
def missing? (map : EdgeMap) : Option Text :=
  (map.flatMap fun entry => dependencies entry.2).find? fun name => (map.lookup name).isNone

end EdgeMap

/-- Why modules cannot be put in order: an edge leads out of the map, a module is not declared, or
the modules that are left over all wait for one another. -/
inductive OrderError where
  | missing (name : Text)
  | undeclared (error : Registry.UndeclaredName)
  | unplaced (names : List Text)
  deriving DecidableEq, Repr

def OrderError.message : OrderError → Text
  | .missing name => Text.quoted name
  | .undeclared error => error.message
  | .unplaced names => "Topological sort left modules unplaced: " ++ Text.intercalate ", " names

/-- The state of the placing: how many dependencies every module still waits for, the modules that
wait for none, by declaration, and the modules that are placed. -/
structure Placement where
  waiting : List (Text × Nat)
  ready : List (Nat × Text)
  placed : List Text
  deriving DecidableEq, Repr

namespace Placement

/-- A queue with one more entry, the entry with the least index in front. -/
def insertReady (index : Nat) (name : Text) : List (Nat × Text) → List (Nat × Text)
  | [] => [(index, name)]
  | (i, n) :: rest =>
    if index < i then (index, name) :: (i, n) :: rest else (i, n) :: insertReady index name rest

/-- Puts a module that waits for nothing into the queue. -/
def makeReady (r : Registry) (s : Placement) (name : Text) : Except OrderError Placement :=
  match r.indexOf name with
  | .ok index => .ok { s with ready := insertReady index name s.ready }
  | .error e => .error (.undeclared e)

/-- The counts with one dependency less for a module. -/
def countDown (name : Text) : List (Text × Nat) → List (Text × Nat)
  | [] => []
  | (n, k) :: rest => if n = name then (n, k - 1) :: rest else (n, k) :: countDown name rest

/-- Takes one dependency off a module, which becomes ready if it was the last one. -/
def release (r : Registry) (s : Placement) (name : Text) : Except OrderError Placement :=
  let counted := { s with waiting := countDown name s.waiting }
  if s.waiting.lookup name = some 1 then makeReady r counted name else .ok counted

/-- Takes one dependency off some modules. -/
def releaseAll (r : Registry) (s : Placement) : List Text → Except OrderError Placement
  | [] => .ok s
  | name :: rest => do releaseAll r (← release r s name) rest

/-- Places the first module of the queue. -/
def step (r : Registry) (map : EdgeMap) (s : Placement) : Except OrderError Placement :=
  match s.ready with
  | [] => .ok s
  | (_, name) :: rest =>
    releaseAll r { s with ready := rest, placed := s.placed ++ [name] } (map.dependents name)

/-! ## The placing ends

A module enters the queue only when its last dependency is counted off. -/

/-- The dependencies that are still counted, and the modules that are ready. -/
def load (s : Placement) : Nat := total (s.waiting.map (·.2)) + s.ready.length

theorem length_insertReady (index : Nat) (name : Text) (q : List (Nat × Text)) :
    (insertReady index name q).length = q.length + 1 := by
  induction q with
  | nil => rfl
  | cons e q ih =>
    unfold insertReady
    split <;> simp [ih]

theorem total_countDown_le (name : Text) (counts : List (Text × Nat)) :
    total ((countDown name counts).map (·.2)) ≤ total (counts.map (·.2)) := by
  induction counts with
  | nil => simp [countDown]
  | cons c counts ih =>
    unfold countDown
    split
    · simp
    · simp
      omega

theorem total_countDown_lt {name : Text} {counts : List (Text × Nat)} {k : Nat}
    (h : counts.lookup name = some (k + 1)) :
    total ((countDown name counts).map (·.2)) < total (counts.map (·.2)) := by
  induction counts with
  | nil => simp at h
  | cons c counts ih =>
    obtain ⟨n, m⟩ := c
    unfold countDown
    by_cases hn : n = name
    · subst hn
      simp only [List.lookup_cons_self, Option.some.injEq] at h
      simp [h]
    · have hb : (name == n) = false := by simpa using fun e => hn e.symm
      rw [List.lookup_cons, hb] at h
      have := ih h
      simp [hn]
      omega

theorem load_makeReady {r : Registry} {s t : Placement} {name : Text}
    (h : makeReady r s name = .ok t) : load t = load s + 1 := by
  unfold makeReady at h
  split at h
  · cases h
    simp [load, length_insertReady]
    omega
  · cases h

theorem load_release_le {r : Registry} {s t : Placement} {name : Text}
    (h : release r s name = .ok t) : load t ≤ load s := by
  unfold release at h
  dsimp only at h
  split at h
  · rename_i hl
    have := load_makeReady h
    have := total_countDown_lt hl
    simp [load] at *
    omega
  · cases h
    have := total_countDown_le name s.waiting
    simp [load]
    omega

theorem load_releaseAll_le {r : Registry} {names : List Text} {s t : Placement}
    (h : releaseAll r s names = .ok t) : load t ≤ load s := by
  induction names generalizing s with
  | nil => cases h; exact Nat.le_refl _
  | cons name names ih =>
    unfold releaseAll at h
    cases hr : release r s name with
    | error e => rw [hr] at h; cases h
    | ok u =>
      rw [hr] at h
      exact Nat.le_trans (ih h) (load_release_le hr)

theorem load_step_lt {r : Registry} {map : EdgeMap} {s t : Placement} (hne : s.ready ≠ [])
    (h : step r map s = .ok t) : load t < load s := by
  unfold step at h
  split at h
  · rename_i hs; exact absurd hs hne
  · rename_i i name rest hs
    have := load_releaseAll_le h
    simp [load, hs] at *
    omega

/-- Places modules until none is ready. -/
def run (r : Registry) (map : EdgeMap) (s : Placement) : Except OrderError Placement :=
  if _none : s.ready = [] then .ok s
  else
    match _next : step r map s with
    | .error e => .error e
    | .ok next => run r map next
termination_by load s
decreasing_by exact load_step_lt ‹_› ‹_›

/-- Puts the modules that wait for nothing into the queue. -/
def makeAllReady (r : Registry) (s : Placement) : List (Text × Nat) → Except OrderError Placement
  | [] => .ok s
  | (name, k) :: rest => do
    if k = 0 then makeAllReady r (← makeReady r s name) rest else makeAllReady r s rest

/-- The state before any module is placed. -/
def start (r : Registry) (map : EdgeMap) : Except OrderError Placement :=
  let counts := map.map fun entry => (entry.1, (EdgeMap.dependencies entry.2).length)
  makeAllReady r ⟨counts, [], []⟩ counts

/-- The modules that still wait for a dependency, sorted by name. -/
def stuck (s : Placement) : List Text :=
  sortNames ((s.waiting.filter fun entry => decide (0 < entry.2)).map (·.1))

end Placement

/-- The modules of an edge map in build order. -/
def buildOrder (r : Registry) (map : EdgeMap) : Except OrderError (List Text) :=
  match map.missing? with
  | some name => .error (.missing name)
  | none => do
    let first ← Placement.start r map
    let last ← Placement.run r map first
    if last.placed.length = map.length then return last.placed
    else throw (.unplaced last.stuck)

end GatedModules
