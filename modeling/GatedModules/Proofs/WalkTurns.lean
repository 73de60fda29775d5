import GatedModules.Proofs.WalkOutcome
import Mathlib.Algebra.Order.BigOperators.Group.List
import Mathlib.Algebra.Order.Ring.Nat
import Mathlib.Data.List.Perm.Subperm

/-!
# The turns of a walk

The walk from some roots is two loops, one over the roots and one over the edges of the modules that
are open. A turn of either takes a root or an edge, or finishes a module. Each root is taken once,
and each module is entered once at most, with its edges: so the turns of a walk can be counted, and
no limit on the depth is needed for them to end.
-/

namespace GatedModules

/-- A walk under way, with the roots that have yet to be taken. -/
structure Pass where
  walk : Walk
  roots : List Text

namespace Pass

def start (roots : List Text) : Pass := ⟨Walk.start, roots⟩

/-- One turn: a step of the walk, or where no module is open, the next root. There is none when
nothing is left to do. -/
def turn (c : Course) (p : Pass) : Except Halt (Option Pass) :=
  match p.walk.frames, p.roots with
  | [], [] => .ok none
  | [], root :: rest =>
    match p.walk.mark? root with
    | some _ => .ok (some ⟨p.walk, rest⟩)
    | none =>
      match c.registry.get root with
      | .error e => .error ⟨.undeclared e, p.walk⟩
      | .ok m => (Walk.enter c m p.walk).map fun w => some ⟨w, rest⟩
  | _ :: _, roots => (Walk.step c p.walk).map fun w => some ⟨w, roots⟩

/-- One pass is another after some number of turns. -/
inductive Turns (c : Course) : Nat → Pass → Pass → Prop
  | none {p : Pass} : Turns c 0 p p
  | snoc {n : Nat} {p q r : Pass} (before : Turns c n p q) (last : q.turn c = .ok (some r)) :
      Turns c (n + 1) p r

/-- A pass ends as a walk does: nothing is left to do, or the next turn fails. -/
def Ends (c : Course) (p : Pass) : Except Halt Walk → Prop
  | .ok w => ∃ n, Turns c n p ⟨w, []⟩ ∧ w.frames = []
  | .error halt => ∃ n q, Turns c n p q ∧ q.turn c = .error halt

variable {c : Course} {roots : List Text} {n : Nat} {p q r : Pass} {w : Walk}

/-! ## The walk is made of turns -/

theorem turn_of_open (hopen : w.frames ≠ []) (rest : List Text) :
    turn c ⟨w, rest⟩ = (Walk.step c w).map fun w' => some ⟨w', rest⟩ := by
  unfold turn
  split
  · exact absurd ‹_› hopen
  · exact absurd ‹_› hopen
  · rfl

theorem turn_of_mark {root : Text} (hidle : w.frames = []) (hmark : w.mark? root ≠ none)
    (rest : List Text) : turn c ⟨w, root :: rest⟩ = .ok (some ⟨w, rest⟩) := by
  obtain ⟨k, hk⟩ := Option.ne_none_iff_exists'.1 hmark
  simp only [turn, hidle, hk]

theorem turn_of_new {root : Text} (hidle : w.frames = []) (hmark : w.mark? root = none)
    (rest : List Text) :
    turn c ⟨w, root :: rest⟩ =
      match c.registry.get root with
      | .error e => .error ⟨.undeclared e, w⟩
      | .ok m => (Walk.enter c m w).map fun w' => some ⟨w', rest⟩ := by
  simp only [turn, hidle, hmark]

theorem Turns.cons (hturn : p.turn c = .ok (some q)) (h : Turns c n q r) :
    Turns c (n + 1) p r := by
  induction h with
  | none => exact .snoc .none hturn
  | snoc _ hlast ih => exact .snoc (ih hturn) hlast

theorem Ends.cons {x : Except Halt Walk} (hturn : p.turn c = .ok (some q)) (h : Ends c q x) :
    Ends c p x := by
  cases x with
  | ok w =>
    obtain ⟨n, hturns, hidle⟩ := h
    exact ⟨n + 1, hturns.cons hturn, hidle⟩
  | error halt =>
    obtain ⟨n, q', hturns, hfail⟩ := h
    exact ⟨n + 1, q', hturns.cons hturn, hfail⟩

theorem ends_run {rest : List Text} {next : Walk → Except Halt Walk}
    (h : ∀ w', w'.frames = [] → Ends c ⟨w', rest⟩ (next w')) :
    Ends c ⟨w, rest⟩ ((Walk.run c w).bind next) := by
  induction w using Walk.run.induct (c := c) with
  | case1 w hidle =>
    rw [Walk.run_of_idle hidle]
    exact h w hidle
  | case2 w hopen halt hs =>
    rw [Walk.run_eq_bind hopen, hs]
    refine ⟨0, _, .none, ?_⟩
    rw [turn_of_open hopen, hs]
    rfl
  | case3 w hopen w' hs ih =>
    rw [Walk.run_eq_bind hopen, hs]
    apply ih.cons
    rw [turn_of_open hopen, hs]
    rfl

theorem ends_fromRoots {rest : List Text} (hidle : w.frames = []) :
    Ends c ⟨w, rest⟩ (Walk.fromRoots c w rest) := by
  induction rest generalizing w with
  | nil => exact ⟨0, .none, hidle⟩
  | cons root rest ih =>
    by_cases hmark : w.mark? root = none
    · have hturn := turn_of_new (c := c) hidle hmark rest
      cases hget : c.registry.get root with
      | error e =>
        rw [hget] at hturn
        rw [Walk.fromRoots, hmark, hget]
        exact ⟨0, _, .none, hturn⟩
      | ok m =>
        simp only [hget] at hturn
        obtain ⟨hm, rfl⟩ := Registry.get_eq_ok_iff.1 hget
        rw [Walk.fromRoots_of_new hm hmark]
        cases he : Walk.enter c m w with
        | error halt =>
          rw [he] at hturn
          exact ⟨0, _, .none, hturn⟩
        | ok opened =>
          rw [he] at hturn
          have hrun : Ends c ⟨opened, rest⟩
              ((Walk.run c opened).bind fun next => Walk.fromRoots c next rest) :=
            ends_run fun w' hidle' => ih hidle'
          exact hrun.cons hturn
    · rw [Walk.fromRoots_of_mark hmark]
      exact (ih hidle).cons (turn_of_mark hidle hmark rest)

/-! ## What a turn does -/

theorem turn_cases (h : p.turn c = .ok (some q)) :
    (p.walk.frames ≠ [] ∧ Walk.step c p.walk = .ok q.walk ∧ q.roots = p.roots) ∨
    (∃ root, p.walk.frames = [] ∧ p.roots = root :: q.roots ∧ p.walk.mark? root ≠ none ∧
      q.walk = p.walk) ∨
    (∃ m ∈ c.registry.modules, p.walk.frames = [] ∧ p.roots = m.name :: q.roots ∧
      p.walk.mark? m.name = none ∧ Walk.enter c m p.walk = .ok q.walk) := by
  obtain ⟨w, roots⟩ := p
  by_cases hidle : w.frames = []
  · cases roots with
    | nil => simp [turn, hidle] at h
    | cons root rest =>
      by_cases hmark : w.mark? root = none
      · rw [turn_of_new hidle hmark] at h
        cases hget : c.registry.get root with
        | error e => simp [hget] at h
        | ok m =>
          obtain ⟨hm, rfl⟩ := Registry.get_eq_ok_iff.1 hget
          simp only [hget] at h
          cases he : Walk.enter c m w with
          | error halt => simp [he, Except.map] at h
          | ok opened =>
            simp only [he, Except.map, Except.ok.injEq, Option.some.injEq] at h
            subst h
            exact .inr (.inr ⟨m, hm, hidle, rfl, hmark, he⟩)
      · rw [turn_of_mark hidle hmark] at h
        cases h
        exact .inr (.inl ⟨root, hidle, rfl, hmark, rfl⟩)
  · rw [turn_of_open hidle] at h
    cases hs : Walk.step c w with
    | error halt => simp [hs, Except.map] at h
    | ok w' =>
      simp only [hs, Except.map, Except.ok.injEq, Option.some.injEq] at h
      subst h
      exact .inl ⟨hidle, rfl, rfl⟩

/-- What holds of a pass over some roots. -/
structure Sound (c : Course) (roots : List Text) (p : Pass) : Prop where
  walk : Walk.Invariant c roots none p.walk
  roots : ∀ a ∈ p.roots, a ∈ roots

theorem sound_start (c : Course) (roots : List Text) : Sound c roots (start roots) :=
  ⟨Walk.invariant_start c roots none, fun _ => id⟩

theorem Sound.turn (h : Sound c roots p) (hturn : p.turn c = .ok (some q)) :
    Sound c roots q := by
  rcases turn_cases hturn with ⟨-, hs, hroots⟩ | ⟨root, -, hroots, -, hwalk⟩ |
    ⟨m, hm, hidle, hroots, hmark, he⟩
  · exact ⟨h.walk.step hs, hroots ▸ h.roots⟩
  · refine ⟨hwalk ▸ h.walk, fun a ha => h.roots a ?_⟩
    rw [hroots]
    exact List.mem_cons_of_mem root ha
  · have hmem : ∀ a ∈ m.name :: q.roots, a ∈ roots := hroots ▸ h.roots
    refine ⟨h.walk.open_root hidle hm (hmem m.name List.mem_cons_self) hmark he, ?_⟩
    exact fun a ha => hmem a (List.mem_cons_of_mem m.name ha)

theorem Sound.turns (h : Sound c roots p) (hturns : Turns c n p q) : Sound c roots q := by
  induction hturns with
  | none => exact h
  | snoc _ hlast ih => exact (ih h).turn hlast

/-- How many turns are sure to come: one for each edge of the open modules that has yet to be
taken, one to finish each of these, and one for each root. -/
def left (p : Pass) : Nat := p.walk.load + p.roots.length

theorem load_of_frames {f : Frame} {rest : List Frame} (hf : w.frames = f :: rest) :
    w.load = f.pending.length + 1 + Walk.load { w with frames := rest } := by
  rw [Walk.load, hf]
  rfl

theorem effect_of_enter {m : Module} {w' : Walk} (he : Walk.enter c m w = .ok w') :
    w'.entered = w.entered ++ [(m.name, m.effective c.env)] ∧
      w'.load = w.load + ((m.effective c.env).length + 1) := by
  obtain ⟨edges, hedges, rfl⟩ := Walk.enter_eq_ok he
  rw [← Module.eq_effective_of_activeEdges hedges]
  refine ⟨rfl, ?_⟩
  rw [load_of_frames rfl, Nat.add_comm]
  rfl

/-- A step takes an edge or finishes a module. It may enter a declared module, the effective edges
of which are then to be taken. -/
theorem effect_of_step {w' : Walk} (hopen : w.frames ≠ []) (hs : Walk.step c w = .ok w') :
    (w'.entered = w.entered ∧ w'.load + 1 = w.load) ∨
    ∃ m ∈ c.registry.modules, w.mark? m.name = none ∧
      w'.entered = w.entered ++ [(m.name, m.effective c.env)] ∧
      w'.load = w.load + (m.effective c.env).length := by
  rcases Walk.step_cases hs with ⟨hidle, -⟩ | ⟨name, rest, hf, rfl⟩ |
    ⟨name, e, pending, rest, hf, -, rfl⟩ | ⟨name, e, pending, rest, m, hf, hmark, hm, hname, -, he⟩
  · exact absurd hidle hopen
  · refine .inl ⟨rfl, ?_⟩
    rw [load_of_frames hf]
    simp only [Walk.load, List.length_nil]
    omega
  · refine .inl ⟨rfl, ?_⟩
    rw [load_of_frames hf, load_of_frames rfl]
    simp only [List.length_cons]
    omega
  · obtain ⟨hentered, hload⟩ := effect_of_enter he
    refine .inr ⟨m, hm, hname ▸ hmark, hentered, ?_⟩
    rw [hload, load_of_frames hf, load_of_frames rfl]
    simp only [List.length_cons]
    omega

/-- A turn takes away one of those that were sure to come, and may enter a module. -/
theorem effect_of_turn (h : p.turn c = .ok (some q)) :
    (q.walk.entered = p.walk.entered ∧ q.left + 1 = p.left) ∨
    ∃ m ∈ c.registry.modules, p.walk.mark? m.name = none ∧
      q.walk.entered = p.walk.entered ++ [(m.name, m.effective c.env)] ∧
      q.left = p.left + (m.effective c.env).length := by
  unfold left
  rcases turn_cases h with ⟨hopen, hs, hroots⟩ | ⟨root, -, hroots, -, hwalk⟩ |
    ⟨m, hm, -, hroots, hmark, he⟩
  · rw [hroots]
    rcases effect_of_step hopen hs with ⟨hentered, hload⟩ | ⟨m, hm, hmark, hentered, hload⟩
    · exact .inl ⟨hentered, by omega⟩
    · exact .inr ⟨m, hm, hmark, hentered, by omega⟩
  · rw [hwalk, hroots, List.length_cons]
    exact .inl ⟨rfl, by omega⟩
  · obtain ⟨hentered, hload⟩ := effect_of_enter he
    rw [hroots, List.length_cons]
    exact .inr ⟨m, hm, hmark, hentered, by omega⟩

/-! ## Counting the turns -/

/-- The turns that modules ask for once they are entered: one for each edge and one to finish. -/
def due (map : EdgeMap) : Nat := total (map.map fun entry => entry.2.length + 1)

theorem total_eq_sum (ns : List Nat) : total ns = ns.sum := by
  induction ns with
  | nil => rfl
  | cons n ns ih => rw [total_cons, List.sum_cons, ih]

theorem due_concat (map : EdgeMap) (a : Text) (es : List Edge) :
    due (map ++ [(a, es)]) = due map + (es.length + 1) := by
  simp only [due, total_eq_sum, List.map_append, List.sum_append, List.map_singleton,
    List.sum_singleton]

/-- Every turn, taken or sure to come, is one that was sure to come at first or one that a module
asked for when it was entered. -/
theorem turns_account (h : Turns c n p q) :
    n + q.left + due p.walk.entered = p.left + due q.walk.entered := by
  induction h with
  | none => rw [Nat.zero_add]
  | snoc _ hlast ih =>
    rcases effect_of_turn hlast with ⟨hentered, hleft⟩ | ⟨m, -, -, hentered, hleft⟩
    · rw [hentered]
      omega
    · rw [hentered, due_concat]
      omega

/-- Modules that are entered once each ask for no more turns than all that are declared. -/
theorem Sound.due_le (h : Sound c roots p) :
    due p.walk.entered ≤
      total (c.registry.modules.map fun m => (m.effective c.env).length + 1) := by
  have hnodup : p.walk.entered.Nodup := h.walk.entered_nodup.of_map
  have hsubset : p.walk.entered ⊆
      c.registry.modules.map fun m => (m.name, m.effective c.env) := by
    intro entry hentry
    obtain ⟨m, hm, hname, hedges⟩ := h.walk.edges entry hentry
    exact List.mem_map.2 ⟨m, hm, Prod.ext hname hedges.symm⟩
  obtain ⟨entries, hperm, hsublist⟩ := hnodup.subperm hsubset
  have hle := (hsublist.map fun entry => entry.2.length + 1).sum_le_sum fun _ _ => Nat.zero_le _
  rw [List.map_map, ((hperm.map _).sum_eq)] at hle
  rw [due, total_eq_sum, total_eq_sum]
  exact hle

/-- Whatever the limit on the depth, the walk from some roots ends within as many turns as there are
roots, declared modules and effective edges of these. On the way a turn enters no module, or one
that is declared and that no turn has entered before. -/
theorem ends_entering_once (c : Course) (roots : List Text) :
    Ends c (start roots) (Walk.whole c roots) ∧
    ∀ n p, Turns c n (start roots) p →
      n ≤ roots.length + total (c.registry.modules.map fun m => (m.effective c.env).length + 1) ∧
      (p.walk.entered.map (·.1)).Nodup ∧
      ∀ q, p.turn c = .ok (some q) →
        q.walk.entered = p.walk.entered ∨
        ∃ m ∈ c.registry.modules, m.name ∉ p.walk.entered.map (·.1) ∧
          q.walk.entered = p.walk.entered ++ [(m.name, m.effective c.env)] := by
  refine ⟨ends_fromRoots rfl, ?_⟩
  intro n p hturns
  have hsound := (sound_start c roots).turns hturns
  refine ⟨?_, hsound.walk.entered_nodup, ?_⟩
  · have haccount := turns_account hturns
    have hbound := hsound.due_le
    have hstart : (start roots).left = roots.length := Nat.zero_add _
    have hnone : due (start roots).walk.entered = 0 := rfl
    omega
  · intro q hturn
    rcases effect_of_turn hturn with ⟨hentered, -⟩ | ⟨m, hm, hmark, hentered, -⟩
    · exact .inl hentered
    · refine .inr ⟨m, hm, ?_, hentered⟩
      simp [hsound.walk.entered_iff, hmark]

end Pass

end GatedModules
