import GatedModules.Proofs.WalkOutcome
import GatedModules.Proofs.WalkSimulation

/-!
# The walk as a recursive search

Depth-first search is written here without open modules to keep: a module is visited by visiting
what its effective edges lead to, one after another, and is finished when that returns. The walk
keeps by hand what the calls would keep. What the calls that are under way have left to do is a
function of the open modules, and every step of the walk leaves its value as it was.
-/

namespace GatedModules

/-- What a recursive search has found: the modules that it has finished, and the active edges of
every module that it has visited, in the order of the visits. -/
structure Search where
  finished : List Text
  entered : EdgeMap

namespace Search

def start : Search := ⟨[], []⟩

def finish (name : Text) (s : Search) : Search := { s with finished := name :: s.finished }

mutual

/-- Visits a module, the last on a path of modules whose visits are in progress. -/
def visit (c : Course) (path : List Text) (m : Module) (s : Search) : Except WalkError Search :=
  match m.activeEdges c.env with
  | .error fault => .error (.unevaluable fault)
  | .ok edges =>
    (follow c path edges { s with entered := s.entered ++ [(m.name, edges)] }).map (finish m.name)
termination_by (c.limit.value - path.length, 1, 0)

/-- Follows edges of the module at the end of a path. -/
def follow (c : Course) (path : List Text) (edges : List Edge) (s : Search) :
    Except WalkError Search :=
  match edges with
  | [] => .ok s
  | e :: rest =>
    if e.name ∈ s.finished then follow c path rest s
    else if e.name ∈ path then
      .error (.rejected (.cyclicDependency (Walk.pathFrom e.name path ++ [e.name])))
    else
      match c.registry.find? e.name with
      | none => .error (.rejected (.unknownModule e.name path.getLast? c.target))
      | some m =>
        if c.limit.value ≤ path.length then
          .error (.rejected (.depthExceeded c.limit.value (path ++ [e.name])))
        else (visit c (path ++ [e.name]) m s).bind (follow c path rest)
termination_by (c.limit.value - path.length, 0, edges.length)
decreasing_by
  · exact Prod.Lex.right _ (Prod.Lex.right _ (Nat.lt_succ_self _))
  · rename_i hroom
    refine Prod.Lex.left _ _ ?_
    rw [List.length_append, List.length_singleton]
    omega
  · exact Prod.Lex.right _ (Prod.Lex.right _ (Nat.lt_succ_self _))

end

/-- Visits the roots that are not finished, in order. -/
def fromRoots (c : Course) : List Text → Search → Except WalkError Search
  | [], s => .ok s
  | root :: rest, s =>
    if root ∈ s.finished then fromRoots c rest s
    else
      match c.registry.get root with
      | .error e => .error (.undeclared e)
      | .ok m => (visit c [root] m s).bind (fromRoots c rest)

/-- The recursive search from all roots of a target. -/
def whole (c : Course) (roots : List Text) : Except WalkError Search := fromRoots c roots start

/-! ## What is left to do -/

/-- What the calls that are under way have left to do, when the modules that they visit are open,
the last one first. -/
def unwind (c : Course) : List Frame → Search → Except WalkError Search
  | [], s => .ok s
  | f :: rest, s =>
    (follow c ((f :: rest).map Frame.name).reverse f.pending s).bind fun found =>
      unwind c rest (found.finish f.name)

/-- The search has found what the walk has. -/
structure Records (w : Walk) (s : Search) : Prop where
  entered : s.entered = w.entered
  finished : ∀ a, a ∈ s.finished ↔ w.Finished a

/-- How a search ends, and where a walk is: the search ends as calls do that have found what the
walk has and have its open modules still to do, or it fails with the error of the walk. -/
def Matches (c : Course) (y : Except WalkError Search) : Except Halt Walk → Prop
  | .ok w => ∃ s, Records w s ∧ y = unwind c w.frames s
  | .error halt => y = .error halt.error

variable {c : Course} {roots : List Text} {w : Walk} {s : Search}

theorem records_start : Records Walk.start start := by
  constructor
  · rfl
  · intro a
    simp [start, Walk.Finished, Walk.start, Walk.mark?]

theorem Records.mem_finished (h : Records w s) {a : Text} (ha : w.mark? a = some .finished) :
    a ∈ s.finished :=
  (h.finished a).2 ha

theorem Records.not_mem_finished (h : Records w s) {a : Text} {k : Option Mark}
    (ha : w.mark? a = k) (hk : k ≠ some .finished) : a ∉ s.finished := by
  intro hmem
  exact hk (ha.symm.trans ((h.finished a).1 hmem))

theorem Records.finish {name : Text} {rest : List Frame} (h : Records w s) :
    Records ⟨rest, (name, .finished) :: w.marks, w.entered⟩ (s.finish name) := by
  constructor
  · exact h.entered
  · intro a
    rw [Walk.finished_cons_finished_iff, ← h.finished]
    exact List.mem_cons

/-! ## Steps leave it as it was -/

/-- Entering a module starts a visit of it, below which the open modules wait. -/
theorem Records.enter {m : Module} (h : Records w s) (hnew : w.mark? m.name = none) :
    Matches c ((visit c (w.path ++ [m.name]) m s).bind (unwind c w.frames))
      (Walk.enter c m w) := by
  rw [visit]
  unfold Walk.enter
  cases hedges : m.activeEdges c.env with
  | error fault => rfl
  | ok edges =>
    refine ⟨{ s with entered := s.entered ++ [(m.name, edges)] }, ?_, ?_⟩
    · constructor
      · rw [h.entered]
      · intro a
        rw [Walk.finished_cons_opened_iff hnew]
        exact h.finished a
    · simp only [unwind, List.map_cons, List.reverse_cons, Walk.path]
      cases follow c ((w.frames.map Frame.name).reverse ++ [m.name]) edges _ <;> rfl

theorem unwind_frames {f : Frame} {rest : List Frame} (hf : w.frames = f :: rest) :
    unwind c w.frames s =
      (follow c w.path f.pending s).bind fun found => unwind c rest (found.finish f.name) := by
  rw [Walk.path, hf, unwind]

section

variable {name : Text} {e : Edge} {pending : List Edge} {rest : List Frame}
  (h : Records w s) (hf : w.frames = ⟨name, e :: pending⟩ :: rest)
include h hf

theorem Records.take_finished (hmark : w.mark? e.name = some .finished) :
    Matches c (unwind c w.frames s) (Walk.step c w) := by
  rw [Walk.step_of_finished hf hmark, hf]
  refine ⟨s, ⟨h.entered, h.finished⟩, ?_⟩
  rw [unwind, follow, if_pos (h.mem_finished hmark)]
  rfl

theorem Records.take_opened (hinv : Walk.Invariant c roots none w)
    (hmark : w.mark? e.name = some .opened) :
    Matches c (unwind c w.frames s) (Walk.step c w) := by
  have hpath : e.name ∈ w.path := Walk.mem_path.2 ((hinv.opened e.name).1 hmark)
  have hunfinished : e.name ∉ s.finished := h.not_mem_finished hmark (by simp)
  rw [Walk.step_of_opened hf hmark, Matches, unwind_frames hf, follow, if_neg hunfinished,
    if_pos hpath]
  rfl

/-- An edge to a module that the walk has not come to is neither left out nor closes a cycle. -/
theorem Records.follow_new (hinv : Walk.Invariant c roots none w) (hmark : w.mark? e.name = none) :
    follow c w.path (e :: pending) s =
      match c.registry.find? e.name with
      | none => .error (.rejected (.unknownModule e.name (some name) c.target))
      | some m =>
        if c.limit.value ≤ w.frames.length then
          .error (.rejected (.depthExceeded c.limit.value (w.path ++ [e.name])))
        else (visit c (w.path ++ [e.name]) m s).bind (follow c w.path pending) := by
  have hunfinished : e.name ∉ s.finished := h.not_mem_finished hmark (by simp)
  have hclosed : e.name ∉ w.path := by
    intro hmem
    rw [Walk.mem_path, ← hinv.opened, hmark] at hmem
    cases hmem
  have hparent : w.path.getLast? = some name := by
    simp [Walk.path, hf]
  have hlength : w.path.length = w.frames.length := by
    simp [Walk.path]
  rw [follow, if_neg hunfinished, if_neg hclosed, hparent, hlength]

theorem Records.take_new (hinv : Walk.Invariant c roots none w) (hmark : w.mark? e.name = none) :
    Matches c (unwind c w.frames s) (Walk.step c w) := by
  rw [unwind_frames hf, h.follow_new hf hinv hmark]
  cases hm : c.registry.find? e.name with
  | none =>
    rw [Walk.step_of_undeclared hf hmark hm]
    rfl
  | some m =>
    by_cases hdeep : c.limit.value ≤ w.frames.length
    · rw [Walk.step_of_deep hf hmark hm hdeep]
      simp only [if_pos hdeep]
      rfl
    · rw [Walk.step_of_new hf hmark hm hdeep]
      simp only [if_neg hdeep]
      -- The visit is under way, and the module whose edge was taken waits below.
      obtain ⟨-, hname⟩ := Registry.find?_eq_some_iff.1 hm
      have htaken : Records { w with frames := ⟨name, pending⟩ :: rest } s :=
        ⟨h.entered, h.finished⟩
      have hpath : Walk.path { w with frames := ⟨name, pending⟩ :: rest } = w.path := by
        rw [Walk.path, Walk.path, hf]
        rfl
      have henter := htaken.enter (c := c) (m := m) (hname ▸ hmark)
      rw [hpath, hname] at henter
      have hwait : (fun found => (follow c w.path pending found).bind fun found =>
          unwind c rest (found.finish name)) = unwind c (⟨name, pending⟩ :: rest) := by
        funext found
        rw [← hpath, Walk.path, unwind]
      rw [← hwait] at henter
      generalize visit c (w.path ++ [e.name]) m s = visited at henter ⊢
      cases visited <;> exact henter

end

theorem Records.step (h : Records w s) (hinv : Walk.Invariant c roots none w)
    (hopen : w.frames ≠ []) : Matches c (unwind c w.frames s) (Walk.step c w) := by
  obtain ⟨⟨name, pending⟩, rest, hf⟩ := List.exists_cons_of_ne_nil hopen
  cases pending with
  | nil =>
    rw [Walk.step_of_done hf, hf]
    refine ⟨s.finish name, h.finish, ?_⟩
    rw [unwind, follow]
    rfl
  | cons e pending =>
    cases hmark : w.mark? e.name with
    | none => exact h.take_new hf hinv hmark
    | some k =>
      cases k with
      | opened => exact h.take_opened hf hinv hmark
      | finished => exact h.take_finished hf hmark

/-! ## Runs -/

theorem Records.run (h : Records w s) (hinv : Walk.Invariant c roots none w) :
    Matches c (unwind c w.frames s) (Walk.run c w) := by
  induction w using Walk.run.induct (c := c) generalizing s with
  | case1 w hidle =>
    rw [Walk.run_of_idle hidle]
    exact ⟨s, h, rfl⟩
  | case2 w hopen halt hs =>
    have hstep := h.step hinv hopen
    rw [Walk.run_eq_bind hopen, hs]
    rw [hs] at hstep
    exact hstep
  | case3 w hopen next hs ih =>
    have hstep := h.step hinv hopen
    rw [hs] at hstep
    obtain ⟨s', hnext, hleft⟩ := hstep
    rw [Walk.run_eq_bind hopen, hs, hleft]
    exact ih hnext (hinv.step hs)

/-- A root that is new is opened and the walk runs until it is done, as the visit of it does. -/
theorem Records.visit_root {m : Module} (h : Records w s) (hinv : Walk.Invariant c roots none w)
    (hidle : w.frames = []) (hm : m ∈ c.registry.modules) (hroot : m.name ∈ roots)
    (hnew : w.mark? m.name = none) :
    (∃ halt, (Walk.enter c m w).bind (Walk.run c) = .error halt ∧
      visit c [m.name] m s = .error halt.error) ∨
    ∃ next found, (Walk.enter c m w).bind (Walk.run c) = .ok next ∧
      visit c [m.name] m s = .ok found ∧ Records next found ∧
      Walk.Invariant c roots none next ∧ next.frames = [] := by
  have hvisit : (visit c (w.path ++ [m.name]) m s).bind (unwind c w.frames) =
      visit c [m.name] m s := by
    rw [Walk.path, hidle]
    change (visit c [m.name] m s).bind (unwind c []) = _
    cases visit c [m.name] m s <;> rfl
  have henter := h.enter (c := c) hnew
  rw [hvisit] at henter
  cases he : Walk.enter c m w with
  | error halt =>
    rw [he] at henter
    exact .inl ⟨halt, rfl, henter⟩
  | ok opened =>
    rw [he] at henter
    obtain ⟨s', hopened, hleft⟩ := henter
    have hopenedInv := hinv.open_root hidle hm hroot hnew he
    have hrun := hopened.run hopenedInv
    rw [← hleft] at hrun
    cases hr : Walk.run c opened with
    | error halt =>
      rw [hr] at hrun
      exact .inl ⟨halt, hr, hrun⟩
    | ok next =>
      rw [hr] at hrun
      obtain ⟨found, hnext, hdone⟩ := hrun
      obtain ⟨hnextInv, hidle', -⟩ := hopenedInv.run hr
      rw [hidle'] at hdone
      exact .inr ⟨next, found, hr, hdone, hnext, hnextInv, hidle'⟩

theorem Records.fromRoots {rest : List Text} (h : Records w s)
    (hinv : Walk.Invariant c roots none w) (hidle : w.frames = []) (hrest : ∀ a ∈ rest, a ∈ roots) :
    Matches c (fromRoots c rest s) (Walk.fromRoots c w rest) := by
  induction rest generalizing w s with
  | nil =>
    refine ⟨s, h, ?_⟩
    rw [hidle]
    rfl
  | cons root rest ih =>
    have hrest' : ∀ a ∈ rest, a ∈ roots := fun a ha => hrest a (List.mem_cons_of_mem root ha)
    have hfinished : root ∈ s.finished ↔ w.mark? root ≠ none :=
      (h.finished root).trans (hinv.finished_iff_of_idle hidle root)
    by_cases hmark : w.mark? root = none
    · have hnew : root ∉ s.finished := fun hmem => hfinished.1 hmem hmark
      cases hget : c.registry.get root with
      | error e =>
        rw [Search.fromRoots, if_neg hnew, Walk.fromRoots, hmark, hget]
        rfl
      | ok m =>
        obtain ⟨hm, rfl⟩ := Registry.get_eq_ok_iff.1 hget
        have hroot := hrest m.name List.mem_cons_self
        have hopen : Walk.fromRoots c w (m.name :: rest) =
            ((Walk.enter c m w).bind (Walk.run c)).bind fun next => Walk.fromRoots c next rest := by
          rw [Walk.fromRoots_of_new hm hmark]
          cases Walk.enter c m w <;> rfl
        rw [hopen, Search.fromRoots, if_neg hnew, hget]
        rcases h.visit_root hinv hidle hm hroot hmark with ⟨halt, hrun, hvisit⟩ |
          ⟨next, found, hrun, hvisit, hnext, hnextInv, hidle'⟩
        · simp only [hrun, hvisit]
          rfl
        · simp only [hrun, hvisit]
          exact ih hnext hnextInv hidle' hrest'
    · rw [Search.fromRoots, if_pos (hfinished.2 hmark), Walk.fromRoots_of_mark hmark]
      exact ih h hinv hidle hrest'

end Search

/-- The walk with its open modules kept by hand is the recursive search: both collect the same
edges under the same names in the same order, or fail with the same error. -/
theorem Walk.whole_eq_search (c : Course) (roots : List Text) :
    ((Walk.whole c roots).map Walk.entered).mapError Halt.error =
      (Search.whole c roots).map Search.entered := by
  have hstart := Walk.invariant_start c roots none
  have hmatch := Search.records_start.fromRoots hstart rfl fun _ ha => ha
  unfold Search.whole Walk.whole
  cases hw : Walk.fromRoots c Walk.start roots with
  | error halt =>
    rw [hw] at hmatch
    rw [hmatch]
    rfl
  | ok w =>
    rw [hw] at hmatch
    obtain ⟨-, hidle, -⟩ := hstart.fromRoots rfl (fun _ ha => ha) hw
    obtain ⟨s, hs, hleft⟩ := hmatch
    rw [hidle] at hleft
    rw [hleft]
    exact congrArg Except.ok hs.entered.symm

end GatedModules
