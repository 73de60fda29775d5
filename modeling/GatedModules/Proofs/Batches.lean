import GatedModules.Proofs.Resolution
import GatedModules.Resolution.Batch

/-!
# Batches

The workers of a batch take the targets one after the other and finish them in any order. Each
leaves its result in the place of its target, and a resolution never ends without an outcome. So
every run of the workers ends, with the outcomes of the targets resolved one at a time.
-/

namespace GatedModules

/-! ## The workers -/

/-- The places of the targets that wait for a worker, of those that have one, and of those that are
done, in the order in which their workers have finished. -/
structure Pool where
  waiting : List Nat
  running : List Nat
  finished : List Nat

namespace Pool

variable {size : Nat} {pool next : Pool}

def start (count : Nat) : Pool := ⟨List.range count, [], []⟩

/-- A step of `size` workers: one that is idle takes the next place, or one finishes. -/
inductive Step (size : Nat) : Pool → Pool → Prop
  | take {place : Nat} {waiting running finished : List Nat} (hidle : running.length < size) :
    Step size ⟨place :: waiting, running, finished⟩ ⟨waiting, place :: running, finished⟩
  | finish {place : Nat} {waiting running finished : List Nat} (hmem : place ∈ running) :
    Step size ⟨waiting, running, finished⟩ ⟨waiting, running.erase place, finished ++ [place]⟩

def Reaches (size : Nat) : Pool → Pool → Prop := Relation.ReflTransGen (Step size)

def Done (pool : Pool) : Prop := pool.waiting = [] ∧ pool.running = []

def places (pool : Pool) : List Nat := pool.waiting ++ pool.running ++ pool.finished

/-- The steps that are left: a place that waits is to be taken and finished. -/
def stepsLeft (pool : Pool) : Nat := 2 * pool.waiting.length + pool.running.length

theorem places_perm_of_step (h : Step size pool next) : next.places.Perm pool.places := by
  cases h with
  | take hidle => exact List.perm_middle.append_right _
  | @finish place waiting running finished hmem =>
    have hrunning : running.Perm (place :: running.erase place) := List.perm_cons_erase hmem
    change (waiting ++ running.erase place ++ (finished ++ [place])).Perm
      (waiting ++ running ++ finished)
    calc waiting ++ running.erase place ++ (finished ++ [place])
      _ = waiting ++ running.erase place ++ finished ++ [place] := (List.append_assoc _ _ _).symm
      List.Perm _ (place :: (waiting ++ running.erase place ++ finished)) :=
        List.perm_append_singleton _ _
      List.Perm _ (waiting ++ place :: running.erase place ++ finished) :=
        List.perm_middle.symm.append_right finished
      List.Perm _ (waiting ++ running ++ finished) :=
        (hrunning.symm.append_left waiting).append_right finished

theorem stepsLeft_of_step (h : Step size pool next) : next.stepsLeft + 1 = pool.stepsLeft := by
  cases h with
  | take hidle =>
    simp only [stepsLeft, List.length_cons]
    omega
  | finish hmem =>
    have hlength := List.length_erase_add_one hmem
    simp only [stepsLeft]
    omega

theorem done_or_step (hsize : 0 < size) (pool : Pool) :
    pool.Done ∨ ∃ next, Step size pool next := by
  obtain ⟨waiting, running, finished⟩ := pool
  cases running with
  | cons place running => exact .inr ⟨_, .finish List.mem_cons_self⟩
  | nil =>
    cases waiting with
    | nil => exact .inl ⟨rfl, rfl⟩
    | cons place waiting => exact .inr ⟨_, .take hsize⟩

theorem wellFounded_step (size : Nat) : WellFounded fun next pool => Step size pool next := by
  refine Subrelation.wf (fun {next pool} h => ?_) (InvImage.wf stepsLeft Nat.lt_wfRel.wf)
  have hleft := stepsLeft_of_step h
  change next.stepsLeft < pool.stepsLeft
  omega

theorem places_perm_of_reaches (h : Reaches size pool next) : next.places.Perm pool.places := by
  induction h with
  | refl => exact .refl _
  | tail _ hstep ih => exact (places_perm_of_step hstep).trans ih

theorem finished_perm_of_done {count : Nat} (h : Reaches size (start count) pool)
    (hdone : pool.Done) : pool.finished.Perm (List.range count) := by
  have hplaces := places_perm_of_reaches h
  simpa [places, start, hdone.1, hdone.2] using hplaces

end Pool

namespace Resolver

variable {r : Resolver} {env : Environment} {targets : List Target} {finished : List Nat}

/-! ## What the workers leave -/

theorem length_foldl_set {α : Type} (f : Nat → α) (results : List α) :
    (finished.foldl (fun results i => results.set i (f i)) results).length = results.length := by
  induction finished generalizing results with
  | nil => rfl
  | cons i finished ih => rw [List.foldl_cons, ih, List.length_set]

theorem foldl_set_getElem? {α : Type} (f : Nat → α) (results : List α) (i : Nat) :
    (finished.foldl (fun results i => results.set i (f i)) results)[i]? =
      if i ∈ finished ∧ i < results.length then some (f i) else results[i]? := by
  induction finished generalizing results with
  | nil => simp
  | cons j finished ih =>
    rw [List.foldl_cons, ih, List.length_set, List.getElem?_set]
    by_cases hi : i ∈ finished
    · by_cases hlt : i < results.length <;> simp [hi, hlt]
      grind
    · by_cases hj : j = i
      · subst hj
        by_cases hlt : j < results.length <;> simp [hi, hlt]
      · simp [hi, hj, Ne.symm hj]

/-- A place holds the outcome of its target as soon as its worker has finished. -/
theorem collect_getElem? {i : Nat} (hi : i < targets.length) :
    (r.collect env targets finished)[i]? =
      some (if i ∈ finished then some (r.outcome env targets[i]) else none) := by
  rw [collect, foldl_set_getElem?]
  by_cases hmem : i ∈ finished <;> simp [hmem, hi]

theorem length_collect : (r.collect env targets finished).length = targets.length := by
  rw [collect, length_foldl_set, List.length_replicate]

theorem collect_of_perm (h : finished.Perm (List.range targets.length)) :
    r.collect env targets finished = targets.map fun target => some (r.outcome env target) := by
  refine List.ext_getElem (by rw [length_collect, List.length_map]) fun i hi _ => ?_
  rw [length_collect] at hi
  have hmem : i ∈ finished := h.mem_iff.2 (List.mem_range.2 hi)
  have hplace : (r.collect env targets finished)[i]? = some (some (r.outcome env targets[i])) := by
    rw [collect_getElem? hi, if_pos hmem]
  rw [List.getElem_map]
  exact (List.getElem_of_getElem? hplace).2

theorem deliver_map_ok (outcomes : List Outcome) :
    deliver (outcomes.map fun o => some (.ok o)) = .ok outcomes := by
  induction outcomes with
  | nil => rfl
  | cons o outcomes ih => simp only [List.map_cons, deliver, ih]; rfl

/-! ## The outcomes -/

/-- An outcome tells what resolving its target alone gives: either the plan or the error. -/
structure Tells (r : Resolver) (env : Environment) (target : Target) (o : Outcome) : Prop where
  target_eq : o.target = target.name
  plan : ∀ p, o.plan? = some p ↔ r.resolve target env = .ok p
  error : ∀ e, o.error? = some e ↔ r.resolve target env = .error (.rejected e)
  one : (∃ p, o.plan? = some p) ↔ o.error? = none
  success : o.success = true ↔ ∃ p, o.plan? = some p

/-- Where the architecture is a text, a target that does not resolve is rejected. -/
theorem outcome_tells (henv : env.HasTextArchitecture) (target : Target) :
    ∃ o, r.outcome env target = .ok o ∧ r.Tells env target o := by
  cases h : r.resolve target env with
  | ok p =>
    refine ⟨{ target := target.name, plan? := some p }, by rw [outcome, h], ?_⟩
    constructor <;> simp [Outcome.success, h]
  | error f =>
    obtain ⟨e, rfl, -⟩ := genuine_of_resolve henv h
    refine ⟨{ target := target.name, error? := some e }, by rw [outcome, h], ?_⟩
    constructor <;> simp [Outcome.success, h]

theorem deliver_collect {alone : Target → Outcome}
    (halone : ∀ target, r.outcome env target = .ok (alone target))
    (h : finished.Perm (List.range targets.length)) :
    deliver (r.collect env targets finished) = .ok (targets.map alone) := by
  rw [collect_of_perm h, ← deliver_map_ok, List.map_map]
  simp only [halone, Function.comp_def]

theorem resolveInOrder_of_perm {alone : Target → Outcome} {workers : Option Int}
    (halone : ∀ target, r.outcome env target = .ok (alone target))
    (hworkers : ∀ n, workers = some n → 0 < n) (h : finished.Perm (List.range targets.length)) :
    r.resolveInOrder targets env workers finished = .ok (targets.map alone) := by
  have hdeliver := deliver_collect halone h
  unfold resolveInOrder
  split
  · next hempty =>
    rw [List.isEmpty_iff.1 hempty]
    rfl
  · cases workers with
    | none => exact hdeliver
    | some n =>
      have hn := hworkers n rfl
      simpa only [if_neg (not_le.2 hn)] using hdeliver

/-- Every target has an outcome, which tells what resolving it alone gives. A batch has just the
outcomes of its targets, in their order, however many workers there are and in whatever order they
finish; and the workers always finish. -/
theorem outcomes_in_any_order (r : Resolver) (henv : env.HasTextArchitecture) :
    ∃ alone : Target → Outcome, (∀ target, r.Tells env target (alone target)) ∧
      ∀ (targets : List Target) (workers : Option Int), (∀ n, workers = some n → 0 < n) →
        (∀ finished, finished.Perm (List.range targets.length) →
          r.resolveInOrder targets env workers finished = .ok (targets.map alone)) ∧
        ∀ size, 0 < size → WellFounded (fun next pool => Pool.Step size pool next) ∧
          ∀ pool, Pool.Reaches size (Pool.start targets.length) pool →
            (pool.Done ∨ ∃ next, Pool.Step size pool next) ∧
            (pool.Done →
              r.resolveInOrder targets env workers pool.finished = .ok (targets.map alone)) := by
  choose alone halone htells using outcome_tells (r := r) henv
  refine ⟨alone, htells, fun targets workers hworkers => ⟨fun finished h => ?_, ?_⟩⟩
  · exact resolveInOrder_of_perm halone hworkers h
  · refine fun size hsize => ⟨Pool.wellFounded_step size, fun pool hreaches => ?_⟩
    refine ⟨pool.done_or_step hsize, fun hdone => ?_⟩
    exact resolveInOrder_of_perm halone hworkers (Pool.finished_perm_of_done hreaches hdone)

end Resolver

namespace FourModules

/-- Two workers on three targets, of which the first takes the longest. -/
theorem reaches_done : Pool.Reaches 2 (Pool.start 3) ⟨[], [], [1, 2, 0]⟩ := by
  have h₁ : Pool.Step 2 (Pool.start 3) ⟨[1, 2], [0], []⟩ := .take (by decide)
  have h₂ : Pool.Step 2 ⟨[1, 2], [0], []⟩ ⟨[2], [1, 0], []⟩ := .take (by decide)
  have h₃ : Pool.Step 2 ⟨[2], [1, 0], []⟩ ⟨[2], [0], [1]⟩ := .finish (show 1 ∈ [1, 0] by decide)
  have h₄ : Pool.Step 2 ⟨[2], [0], [1]⟩ ⟨[], [2, 0], [1]⟩ := .take (by decide)
  have h₅ : Pool.Step 2 ⟨[], [2, 0], [1]⟩ ⟨[], [0], [1, 2]⟩ := .finish (show 2 ∈ [2, 0] by decide)
  have h₆ : Pool.Step 2 ⟨[], [0], [1, 2]⟩ ⟨[], [], [1, 2, 0]⟩ := .finish (show 0 ∈ [0] by decide)
  exact .head h₁ (.head h₂ (.head h₃ (.head h₄ (.head h₅ (.single h₆)))))

theorem outcomes_of_stray_and_game :
    ∃ outcomes,
      fitting.resolveInOrder [stray, game, stray] plain (some 2) [1, 2, 0] = .ok outcomes ∧
      outcomes.map Outcome.target = path ["Stray", "Game", "Stray"] ∧
      outcomes.map Outcome.success = [false, true, false] ∧
      outcomes.map Outcome.error? = [some (.unknownModule "Ghost" none "Stray"), none,
        some (.unknownModule "Ghost" none "Stray")] := by
  obtain ⟨alone, htells, hruns⟩ := fitting.outcomes_in_any_order plain_hasTextArchitecture
  have hruns := hruns [stray, game, stray] (some 2) (by simp)
  refine ⟨_, ((hruns.2 2 (by decide)).2 _ reaches_done).2 ⟨rfl, rfl⟩, ?_⟩
  have hstray : (alone stray).error? = some (.unknownModule "Ghost" none "Stray") :=
    ((htells stray).error _).2 (by decide)
  obtain ⟨p, hp, -⟩ := exists_plan
  have hgame : (alone game).plan? = some p := ((htells game).plan p).2 hp
  have hnone : (alone game).error? = none := (htells game).one.1 ⟨p, hgame⟩
  have htrue : (alone game).success = true := (htells game).success.2 ⟨p, hgame⟩
  have hfalse : (alone stray).success = false := by
    simpa [hstray] using (htells stray).success.trans (htells stray).one
  refine ⟨?_, ?_, ?_⟩
  · simp only [List.map_cons, List.map_nil, (htells _).target_eq]
    rfl
  · simp only [List.map_cons, List.map_nil, htrue, hfalse]
  · simp only [List.map_cons, List.map_nil, hstray, hnone]

end FourModules

end GatedModules
