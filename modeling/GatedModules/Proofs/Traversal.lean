import GatedModules.Proofs.Resolution
import GatedModules.Proofs.WalkSimulation
import GatedModules.Proofs.WalkTurns
import Mathlib.Data.List.Forall2

/-!
# The walk with its lists apart

The walk keeps an open module and the edges that it has left in one place. Here the names of the
open modules are in one list and their edges in another, each of which grows and shrinks on its own,
and nothing but the turns keeps the two together. The turns are those of the walk all the same. At
every one of them the names are a chain from the root that was taken last, and what a module has
given out leads to finished modules or to the next name.
-/

namespace GatedModules

open Relation

/-- The edges of an open module: those that were taken and those that are to come. -/
structure Cursor where
  taken : List Edge
  pending : List Edge

/-- A walk under way, with the root that was taken last, if any, and those that have yet to be
taken. The open modules are in two lists, by name in `path` and by their edges in `stack`, the last
one last. -/
structure Traversal where
  root : Option Text
  roots : List Text
  path : List Text
  stack : List Cursor
  marks : List (Text × Mark)
  entered : EdgeMap

namespace Traversal

/-- Why a traversal stops: as a walk does, or because its lists do not fit. -/
inductive Fault where
  | halted (error : WalkError)
  | outOfStep

def start (roots : List Text) : Traversal := ⟨none, roots, [], [], [], []⟩

def mark? (t : Traversal) (name : Text) : Option Mark := t.marks.lookup name

/-- Opens a module: its name goes onto the one list, its edges onto the other. -/
def enter (c : Course) (m : Module) (t : Traversal) : Except Fault Traversal :=
  match m.activeEdges c.env with
  | .ok edges => .ok { t with
      path := t.path ++ [m.name]
      stack := t.stack ++ [⟨[], edges⟩]
      marks := (m.name, .opened) :: t.marks
      entered := t.entered ++ [(m.name, edges)] }
  | .error fault => .error (.halted (.unevaluable fault))

def finish (t : Traversal) : Except Fault Traversal :=
  match t.path.getLast? with
  | some name => .ok { t with
      path := t.path.dropLast
      stack := t.stack.dropLast
      marks := (name, .finished) :: t.marks }
  | none => .error .outOfStep

def follow (c : Course) (e : Edge) (t : Traversal) : Except Fault Traversal :=
  match t.mark? e.name with
  | some .finished => .ok t
  | some .opened =>
    if e.name ∈ t.path then
      .error (.halted (.rejected (.cyclicDependency (Walk.pathFrom e.name t.path ++ [e.name]))))
    else .error .outOfStep
  | none =>
    match c.registry.find? e.name, t.path.getLast? with
    | none, none => .error .outOfStep
    | none, some parent =>
      .error (.halted (.rejected (.unknownModule e.name (some parent) c.target)))
    | some m, _ =>
      if c.limit.value ≤ t.path.length then
        .error (.halted (.rejected (.depthExceeded c.limit.value (t.path ++ [e.name]))))
      else enter c m t

/-- Takes an edge from the last cursor, or finishes a module if that has none left. -/
def step (c : Course) (cursor : Cursor) (t : Traversal) : Except Fault Traversal :=
  match cursor.pending with
  | [] => finish t
  | e :: pending =>
    follow c e { t with stack := t.stack.dropLast ++ [⟨cursor.taken ++ [e], pending⟩] }

/-- Opens a root unless the traversal has come to it. Both lists begin anew with it. -/
def openRoot (c : Course) (root : Text) (t : Traversal) : Except Fault Traversal :=
  match t.mark? root with
  | some _ => .ok t
  | none =>
    match c.registry.get root with
    | .error e => .error (.halted (.undeclared e))
    | .ok m => enter c m { t with path := [], stack := [] }

/-- One turn: a step while there is a cursor, otherwise the next root. There is none when nothing is
left to do. -/
def turn (c : Course) (t : Traversal) : Except Fault (Option Traversal) :=
  match t.stack.getLast?, t.roots with
  | some cursor, _ => (step c cursor t).map some
  | none, root :: rest => (openRoot c root { t with root := some root, roots := rest }).map some
  | none, [] => .ok none

def Next (c : Course) (t u : Traversal) : Prop := t.turn c = .ok (some u)

/-- A traversal ends as a walk does: nothing is left to do, or the next turn fails likewise. -/
def Ends (c : Course) (t : Traversal) : Except Halt Walk → Prop
  | .ok w => ∃ u, ReflTransGen (Next c) t u ∧ u.turn c = .ok none ∧ u.marks = w.marks ∧
      u.entered = w.entered
  | .error halt => ∃ u, ReflTransGen (Next c) t u ∧ u.turn c = .error (.halted halt.error)

/-! ## In step with the walk -/

/-- A cursor has the edges that an open module has left. With those that it has given out, they are
the edges that were kept when the module was entered. -/
def Keeps (entered : EdgeMap) (f : Frame) (k : Cursor) : Prop :=
  k.pending = f.pending ∧ (f.name, k.taken ++ k.pending) ∈ entered

/-- A traversal shows a pass: its two lists have what the open modules of the pass are, and its path
begins with the root that was taken last. -/
structure Shows (roots : List Text) (t : Traversal) (p : Pass) : Prop where
  path : t.path = p.walk.path
  stack : List.Forall₂ (Keeps p.walk.entered) p.walk.frames t.stack.reverse
  marks : t.marks = p.walk.marks
  entered : t.entered = p.walk.entered
  left : t.roots = p.roots
  begun : ∃ done, roots = done ++ t.roots ∧ done.getLast? = t.root
  head : ∀ a, t.path.head? = some a → t.root = some a

/-- The outcomes of two turns that go together. -/
inductive InStep (roots : List Text) :
    Except Fault (Option Traversal) → Except Halt (Option Pass) → Prop
  | next {t : Traversal} {p : Pass} (h : Shows roots t p) :
    InStep roots (.ok (some t)) (.ok (some p))
  | done : InStep roots (.ok none) (.ok none)
  | failed (halt : Halt) : InStep roots (.error (.halted halt.error)) (.error halt)

variable {c : Course} {roots rest : List Text} {t u : Traversal} {p q : Pass} {w : Walk}

theorem shows_start (roots : List Text) : Shows roots (start roots) (Pass.start roots) where
  path := rfl
  stack := .nil
  marks := rfl
  entered := rfl
  left := rfl
  begun := ⟨[], rfl, rfl⟩
  head := by simp [start]

theorem Shows.mark?_eq (h : Shows roots t p) (a : Text) : t.mark? a = p.walk.mark? a := by
  rw [mark?, Walk.mark?, h.marks]

theorem Shows.length_stack (h : Shows roots t p) : t.stack.length = p.walk.frames.length := by
  rw [← List.length_reverse, h.stack.length_eq]

theorem Shows.length_path (h : Shows roots t p) : t.path.length = p.walk.frames.length := by
  rw [h.path, Walk.path, List.length_reverse, List.length_map]

/-- Where a module is open, both lists end with it. -/
theorem Shows.split {f : Frame} {frames : List Frame} (h : Shows roots t p)
    (hf : p.walk.frames = f :: frames) :
    ∃ stack k, t.stack = stack ++ [k] ∧ Keeps p.walk.entered f k ∧
      List.Forall₂ (Keeps p.walk.entered) frames stack.reverse ∧
      t.path = (frames.map Frame.name).reverse ++ [f.name] := by
  have hstack := h.stack
  rw [hf, List.forall₂_cons_left_iff] at hstack
  obtain ⟨k, stack, hk, hframes, heq⟩ := hstack
  refine ⟨stack.reverse, k, ?_, hk, ?_, ?_⟩
  · rw [← List.reverse_cons, ← heq, List.reverse_reverse]
  · rwa [List.reverse_reverse]
  · rw [h.path, Walk.path, hf, List.map_cons, List.reverse_cons]

theorem Shows.enter {m : Module} (h : Shows roots t ⟨w, rest⟩)
    (hroot : t.path = [] → t.root = some m.name) :
    InStep roots ((enter c m t).map some)
      ((Walk.enter c m w).map fun w' => some ⟨w', rest⟩) := by
  unfold Traversal.enter Walk.enter
  cases hedges : m.activeEdges c.env with
  | error fault => exact .failed ⟨.unevaluable fault, w⟩
  | ok edges =>
    apply InStep.next
    constructor
    case path => simp [h.path, Walk.path]
    case stack =>
      rw [List.reverse_append]
      refine .cons ⟨rfl, by simp⟩ (h.stack.imp fun f k hk => ⟨hk.1, ?_⟩)
      exact List.mem_append_left _ hk.2
    case marks => rw [h.marks]
    case entered => rw [h.entered]
    case left => exact h.left
    case begun => exact h.begun
    case head =>
      intro a ha
      by_cases hpath : t.path = []
      · rw [hpath] at ha
        exact (hroot hpath).trans ha
      · exact h.head a (by rwa [List.head?_append_of_ne_nil _ hpath] at ha)

section

variable {name : Text} {e : Edge} {pending : List Edge} {frames : List Frame} {k : Cursor}
  (h : Shows roots t ⟨w, rest⟩)
include h

theorem Shows.finish (hf : w.frames = ⟨name, []⟩ :: frames) :
    InStep roots (t.finish.map some) ((Walk.step c w).map fun w' => some ⟨w', rest⟩) := by
  obtain ⟨stack, k, hstack, -, hframes, hpath⟩ := h.split hf
  unfold Traversal.finish
  rw [Walk.step_of_done hf, hpath, List.getLast?_concat, List.dropLast_concat, hstack,
    List.dropLast_concat]
  apply InStep.next
  constructor
  case path => rfl
  case stack => exact hframes
  case marks => rw [h.marks]
  case entered => exact h.entered
  case left => exact h.left
  case begun => exact h.begun
  case head =>
    intro a ha
    apply h.head
    rw [hpath, List.head?_append, ha]
    rfl

variable (hf : w.frames = ⟨name, e :: pending⟩ :: frames) (hk : t.stack.getLast? = some k)
include hf hk

theorem Shows.take :
    Shows roots { t with stack := t.stack.dropLast ++ [⟨k.taken ++ [e], pending⟩] }
      ⟨{ w with frames := ⟨name, pending⟩ :: frames }, rest⟩ := by
  obtain ⟨stack, last, hstack, ⟨hpending, hmem⟩, hframes, hpath⟩ := h.split hf
  rw [hstack, List.getLast?_concat] at hk
  obtain rfl := Option.some.inj hk
  rw [hstack, List.dropLast_concat]
  refine { h with path := ?_, stack := ?_ }
  · rw [hpath, Walk.path, List.map_cons, List.reverse_cons]
  · rw [List.reverse_append]
    refine .cons ⟨rfl, ?_⟩ hframes
    -- What was taken and what is to come are the same edges as before.
    rw [hpending] at hmem
    simpa using hmem

end

/-- An edge that was taken is followed alike, where the edges that `name` has left are those behind
it. -/
theorem Shows.follow {name : Text} {e : Edge} {pending : List Edge} {frames : List Frame}
    (h : Shows roots t ⟨{ w with frames := ⟨name, pending⟩ :: frames }, rest⟩)
    (hf : w.frames = ⟨name, e :: pending⟩ :: frames) (hinv : Walk.Invariant c roots none w) :
    InStep roots ((follow c e t).map some)
      ((Walk.step c w).map fun w' => some ⟨w', rest⟩) := by
  have hsame : t.mark? e.name = w.mark? e.name := h.mark?_eq e.name
  have hpath : t.path = w.path := by
    rw [h.path, Walk.path, Walk.path, hf]
    rfl
  have hlength : t.path.length = w.frames.length := by
    rw [h.length_path, hf]
    rfl
  have hparent : t.path.getLast? = some name := by
    rw [hpath, Walk.path, hf, List.map_cons, List.reverse_cons, List.getLast?_concat]
  unfold Traversal.follow
  rw [hsame]
  cases hmark : w.mark? e.name with
  | some mark =>
    cases mark with
    | finished =>
      rw [Walk.step_of_finished hf hmark]
      exact .next h
    | opened =>
      have hmem : e.name ∈ t.path := by
        rw [hpath, Walk.mem_path]
        exact (hinv.opened e.name).1 hmark
      rw [Walk.step_of_opened hf hmark]
      simp only [if_pos hmem]
      rw [hpath]
      exact .failed ⟨.rejected (.cyclicDependency (Walk.pathFrom e.name w.path ++ [e.name])), w⟩
  | none =>
    cases hm : c.registry.find? e.name with
    | none =>
      rw [Walk.step_of_undeclared hf hmark hm, hparent]
      exact .failed ⟨.rejected (.unknownModule e.name (some name) c.target), w⟩
    | some m =>
      by_cases hdeep : c.limit.value ≤ t.path.length
      · rw [Walk.step_of_deep hf hmark hm (hlength ▸ hdeep)]
        simp only [if_pos hdeep]
        rw [hpath]
        exact .failed ⟨.rejected (.depthExceeded c.limit.value (w.path ++ [e.name])), w⟩
      · rw [Walk.step_of_new hf hmark hm (hlength ▸ hdeep)]
        simp only [if_neg hdeep]
        refine h.enter fun hnil => ?_
        rw [hnil] at hparent
        cases hparent

theorem turn_of_root {root : Text} (hstack : t.stack = []) (hroots : t.roots = root :: rest) :
    t.turn c = (openRoot c root { t with root := some root, roots := rest }).map some := by
  unfold turn
  split
  · next hlast => simp [hstack] at hlast
  · next hcons =>
    cases hroots.symm.trans hcons
    rfl
  · next hnil => simp [hroots] at hnil

theorem Shows.turn_open (h : Shows roots t p) (hinv : Walk.Invariant c roots none p.walk)
    (hopen : p.walk.frames ≠ []) : InStep roots (t.turn c) (p.turn c) := by
  obtain ⟨w, rest⟩ := p
  obtain ⟨⟨name, pending⟩, frames, hf⟩ := List.exists_cons_of_ne_nil hopen
  obtain ⟨stack, k, hstack, ⟨hpending, -⟩, -⟩ := h.split hf
  have hk : t.stack.getLast? = some k := by rw [hstack, List.getLast?_concat]
  rw [Pass.turn_of_open hopen, Traversal.turn, hk]
  change InStep roots ((step c k t).map some) _
  unfold step
  rw [hpending]
  cases pending with
  | nil => exact h.finish hf
  | cons e pending => exact (h.take hf hk).follow hf hinv

theorem Shows.openRoot {root : Text} (h : Shows roots t ⟨w, rest⟩) (hidle : w.frames = [])
    (hroot : t.root = some root) :
    InStep roots ((openRoot c root t).map some) (Pass.turn c ⟨w, root :: rest⟩) := by
  have hsame : t.mark? root = w.mark? root := h.mark?_eq root
  unfold Traversal.openRoot
  rw [hsame]
  cases hmark : w.mark? root with
  | some mark =>
    rw [Pass.turn_of_mark hidle (by simp [hmark])]
    exact .next h
  | none =>
    rw [Pass.turn_of_new hidle hmark]
    cases hget : c.registry.get root with
    | error e => exact .failed ⟨.undeclared e, w⟩
    | ok m =>
      obtain ⟨-, rfl⟩ := Registry.get_eq_ok_iff.1 hget
      have hempty : Shows roots { t with path := [], stack := [] } ⟨w, rest⟩ :=
        { h with
          path := by simp [Walk.path, hidle]
          stack := by simp [hidle]
          head := by simp }
      exact hempty.enter fun _ => hroot

theorem Shows.turn_idle (h : Shows roots t p) (hidle : p.walk.frames = []) :
    InStep roots (t.turn c) (p.turn c) := by
  obtain ⟨w, left⟩ := p
  have hstack : t.stack = [] := List.length_eq_zero_iff.1 (by rw [h.length_stack, hidle]; rfl)
  have hpath : t.path = [] := List.length_eq_zero_iff.1 (by rw [h.length_path, hidle]; rfl)
  have hleft : t.roots = left := h.left
  cases left with
  | nil =>
    have hwalk : w.frames = [] := hidle
    rw [Traversal.turn, hstack, hleft, Pass.turn, hwalk]
    exact .done
  | cons root rest =>
    obtain ⟨done, hdone, -⟩ := h.begun
    have htaken : Shows roots { t with root := some root, roots := rest } ⟨w, rest⟩ :=
      { h with
        left := rfl
        begun := ⟨done ++ [root], by rw [hdone, hleft]; simp, List.getLast?_concat⟩
        head := by simp [hpath] }
    rw [turn_of_root hstack hleft]
    exact htaken.openRoot hidle rfl

theorem Shows.turn (h : Shows roots t p) (hinv : Walk.Invariant c roots none p.walk) :
    InStep roots (t.turn c) (p.turn c) := by
  by_cases hidle : p.walk.frames = []
  · exact h.turn_idle hidle
  · exact h.turn_open hinv hidle

/-! ## Runs -/

theorem Shows.next (h : Shows roots t p) (hinv : Walk.Invariant c roots none p.walk)
    (hnext : Next c t u) : ∃ q, p.turn c = .ok (some q) ∧ Shows roots u q := by
  have hstep := h.turn hinv
  rw [hnext] at hstep
  generalize p.turn c = outcome at hstep ⊢
  cases hstep with
  | next hshows => exact ⟨_, rfl, hshows⟩

theorem Shows.next_of_turn (h : Shows roots t p) (hinv : Walk.Invariant c roots none p.walk)
    (hturn : p.turn c = .ok (some q)) : ∃ u, Next c t u ∧ Shows roots u q := by
  have hstep := h.turn hinv
  rw [hturn] at hstep
  unfold Next
  generalize t.turn c = outcome at hstep ⊢
  cases hstep with
  | next hshows => exact ⟨_, rfl, hshows⟩

theorem Shows.of_reached (h : Shows roots t p) (hsound : Pass.Sound c roots p)
    (hreached : ReflTransGen (Next c) t u) :
    ∃ n q, Pass.Turns c n p q ∧ Shows roots u q := by
  induction hreached with
  | refl => exact ⟨0, p, .none, h⟩
  | tail _ hnext ih =>
    obtain ⟨n, q, hturns, hshows⟩ := ih
    obtain ⟨q', hturn, hshows'⟩ := hshows.next (hsound.turns hturns).walk hnext
    exact ⟨n + 1, q', .snoc hturns hturn, hshows'⟩

theorem Shows.of_turns {n : Nat} (h : Shows roots t p) (hsound : Pass.Sound c roots p)
    (hturns : Pass.Turns c n p q) : ∃ u, ReflTransGen (Next c) t u ∧ Shows roots u q := by
  induction hturns with
  | none => exact ⟨t, .refl, h⟩
  | snoc hturns hturn ih =>
    obtain ⟨u, hreached, hshows⟩ := ih h hsound
    obtain ⟨u', hnext, hshows'⟩ := hshows.next_of_turn (hsound.turns hturns).walk hturn
    exact ⟨u', hreached.tail hnext, hshows'⟩

theorem ends_whole (c : Course) (roots : List Text) :
    Ends c (start roots) (Walk.whole c roots) := by
  have hstart := Pass.sound_start c roots
  have hends : Pass.Ends c (Pass.start roots) (Walk.whole c roots) := Pass.ends_fromRoots rfl
  generalize Walk.whole c roots = outcome at hends ⊢
  cases outcome with
  | ok w =>
    obtain ⟨n, hturns, hidle⟩ := hends
    obtain ⟨t, hreached, hshows⟩ := (shows_start roots).of_turns hstart hturns
    have hdone : Pass.turn c ⟨w, []⟩ = .ok none := by rw [Pass.turn, hidle]
    have hlast := hshows.turn (hstart.turns hturns).walk
    rw [hdone] at hlast
    refine ⟨t, hreached, ?_, hshows.marks, hshows.entered⟩
    generalize t.turn c = outcome at hlast ⊢
    cases hlast
    rfl
  | error halt =>
    obtain ⟨n, p, hturns, hfail⟩ := hends
    obtain ⟨t, hreached, hshows⟩ := (shows_start roots).of_turns hstart hturns
    have hlast := hshows.turn (hstart.turns hturns).walk
    rw [hfail] at hlast
    refine ⟨t, hreached, ?_⟩
    generalize t.turn c = outcome at hlast ⊢
    cases hlast
    rfl

/-! ## What holds at every turn -/

/-- What holds of a traversal at every turn. The current root is the one that was taken last. -/
structure Sound (c : Course) (roots : List Text) (t : Traversal) : Prop where
  root : ∃ done, roots = done ++ t.roots ∧ done.getLast? = t.root
  length_eq : t.path.length = t.stack.length
  length_le : t.path.length ≤ c.limit.value
  nodup : t.path.Nodup
  head : ∀ a, t.path.head? = some a → t.root = some a
  linked : t.path.IsChain (c.registry.Leads c.env)
  opened_iff : ∀ a, t.mark? a = some .opened ↔ a ∈ t.path
  entered_iff : ∀ a, a ∈ t.entered.map (·.1) ↔ t.mark? a ≠ none
  entered_nodup : (t.entered.map (·.1)).Nodup
  edges : ∀ entry ∈ t.entered,
    ∃ m ∈ c.registry.modules, m.name = entry.1 ∧ entry.2 = m.effective c.env
  closed : ∀ a b, t.mark? a = some .finished → c.registry.Leads c.env a b →
    t.mark? b = some .finished
  /-- What a module on the path has given out leads to finished modules or to the next on the
  path. -/
  taken : ∀ i name k, t.path[i]? = some name → t.stack[i]? = some k →
    (∃ m ∈ c.registry.modules, m.name = name ∧ k.taken ++ k.pending = m.effective c.env) ∧
      ∀ e ∈ k.taken, t.mark? e.name = some .finished ∨ t.path[i + 1]? = some e.name

/-- A name has one entry only, so what its cursor has given out is what the walk took from it. -/
theorem Keeps.taken_eq {entered : EdgeMap} {f : Frame} {k : Cursor} {taken : List Edge}
    (hk : Keeps entered f k) (hnodup : (entered.map (·.1)).Nodup)
    (hmem : (f.name, taken ++ f.pending) ∈ entered) : k.taken = taken := by
  obtain ⟨hpending, hkept⟩ := hk
  have hentry := List.inj_on_of_nodup_map hnodup hkept hmem rfl
  rw [hpending] at hentry
  exact List.append_cancel_right (Prod.ext_iff.1 hentry).2

/-- What the open modules have given out, by their places on a path that goes on with `above`. -/
theorem taken_of_stacked {above : Option Text} {frames : List Frame} {ks : List Cursor}
    (h : Walk.Stacked c w above frames) (hks : List.Forall₂ (Keeps w.entered) frames ks)
    (hnodup : (w.entered.map (·.1)).Nodup) {i : Nat} {k : Cursor} (hk : ks.reverse[i]? = some k)
    {e : Edge} (he : e ∈ k.taken) :
    w.Finished e.name ∨
      ((frames.map Frame.name).reverse ++ above.toList)[i + 1]? = some e.name := by
  induction hks generalizing above with
  | nil => cases hk
  | @cons f k' frames ks hkeeps hks ih =>
    obtain ⟨⟨taken, hmem, htaken⟩, -, hrest⟩ := h
    have hlength : ((frames.map Frame.name).reverse ++ [f.name]).length = ks.length + 1 := by
      simp [hks.length_eq]
    rw [List.reverse_cons] at hk
    rw [List.map_cons, List.reverse_cons]
    rcases Nat.lt_or_ge i ks.reverse.length with hi | hi
    · -- The module is below `f`, so the path goes on with `f` at the latest.
      rw [List.getElem?_append_left hi] at hk
      rw [List.length_reverse] at hi
      refine (ih hrest hk).imp_right fun hnext => ?_
      rwa [List.getElem?_append_left (by omega)]
    · rw [List.getElem?_append_right hi] at hk
      obtain ⟨hlast, rfl⟩ : i - ks.length = 0 ∧ k' = k := by
        simpa [List.getElem?_singleton] using hk
      rw [List.length_reverse] at hi
      rw [hkeeps.taken_eq hnodup hmem] at he
      refine (htaken e he).imp_right fun hnext => ?_
      have hnone : i + 1 - (ks.length + 1) = 0 := by omega
      rw [hnext, List.getElem?_append_right (by omega), hlength, hnone]
      rfl

theorem Shows.kept (h : Shows roots t p) {i : Nat} {name : Text} {k : Cursor}
    (hname : t.path[i]? = some name) (hk : t.stack[i]? = some k) :
    (name, k.taken ++ k.pending) ∈ t.entered := by
  have hpairs :
      List.Forall₂ (fun a l => (a, l.taken ++ l.pending) ∈ t.entered) t.path t.stack := by
    rw [h.path, Walk.path, h.entered, ← List.forall₂_reverse_iff, List.reverse_reverse,
      List.forall₂_map_left_iff]
    exact h.stack.imp fun _ _ hkeeps => hkeeps.2
  obtain ⟨hi, rfl⟩ := List.getElem?_eq_some_iff.1 hname
  obtain ⟨hi', rfl⟩ := List.getElem?_eq_some_iff.1 hk
  exact (List.forall₂_iff_get.1 hpairs).2 i hi hi'

theorem Shows.sound (h : Shows roots t p) (hinv : Walk.Invariant c roots none p.walk) :
    Sound c roots t where
  root := h.begun
  length_eq := by rw [h.length_path, h.length_stack]
  length_le := by
    rw [h.length_path]
    exact hinv.room
  nodup := by
    rw [h.path]
    exact List.nodup_reverse.2 hinv.nodup
  head := h.head
  linked := by
    rw [h.path, Walk.path, List.isChain_reverse]
    exact hinv.stacked.isChain
  opened_iff := by
    intro a
    rw [h.mark?_eq, h.path, Walk.mem_path]
    exact hinv.opened a
  entered_iff := by
    intro a
    rw [h.mark?_eq, h.entered]
    exact hinv.entered_iff a
  entered_nodup := h.entered ▸ hinv.entered_nodup
  edges := h.entered ▸ hinv.edges
  closed := by
    intro a b ha hab
    rw [h.mark?_eq] at ha ⊢
    exact hinv.closed a b ha hab
  taken := by
    intro i name k hname hk
    refine ⟨hinv.edges _ (h.entered ▸ h.kept hname hk), ?_⟩
    intro e he
    rw [h.mark?_eq, h.path, Walk.path]
    rw [← t.stack.reverse_reverse] at hk
    have htaken := taken_of_stacked hinv.stacked h.stack hinv.entered_nodup hk he
    rwa [Option.toList_none, List.append_nil] at htaken

/-- The walk from some roots is a traversal, and every state of that is sound and shows a state of
the walk. -/
theorem lists_in_step (c : Course) (roots : List Text) :
    Ends c (start roots) (Walk.whole c roots) ∧
    ∀ t, ReflTransGen (Next c) (start roots) t →
      Sound c roots t ∧ ∃ n p, Pass.Turns c n (Pass.start roots) p ∧ Shows roots t p := by
  refine ⟨ends_whole c roots, ?_⟩
  intro t hreached
  have hstart := Pass.sound_start c roots
  obtain ⟨n, p, hturns, hshows⟩ := (shows_start roots).of_reached hstart hreached
  exact ⟨hshows.sound (hstart.turns hturns).walk, n, p, hturns, hshows⟩

end Traversal

namespace FourModules

/-- Three modules are entered one from the other, and the last of them is finished first. -/
theorem core_finished_first :
    ∃ t, ReflTransGen (Traversal.Next (fitting.course game plain)) (Traversal.start game.roots) t ∧
      t.root = some "App" ∧ t.path = path ["App", "Net"] ∧ t.mark? "Core" = some .finished :=
  ⟨_, .tail (.tail (.tail (.tail .refl rfl) rfl) rfl) rfl, rfl, rfl, rfl⟩

theorem core_finished_in_step :
    ∃ t, ReflTransGen (Traversal.Next (fitting.course game plain)) (Traversal.start game.roots) t ∧
      t.path = path ["App", "Net"] ∧ t.mark? "Core" = some .finished ∧
      Traversal.Sound (fitting.course game plain) game.roots t := by
  obtain ⟨t, hreached, -, hpath, hcore⟩ := core_finished_first
  obtain ⟨-, hall⟩ := Traversal.lists_in_step (fitting.course game plain) game.roots
  exact ⟨t, hreached, hpath, hcore, (hall t hreached).1⟩

end FourModules

end GatedModules
