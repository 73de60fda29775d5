import GatedModules.Proofs.Placement

/-!
# The turns of a placing

A step of the placing is a loop of its own: once a module is placed, it releases those that depend
on it, one after the other. A turn places a module or releases one. In between, the modules that
have yet to be released count the one that was placed as missing still, and are not in the queue.
-/

namespace GatedModules

open Relation

/-- A placing under way: the modules that the one placed last has yet to release, and all that were
put in the queue, the latest last. -/
structure Placing where
  state : Placement
  due : List Text
  queued : List Text

namespace Placing

/-- A placing that goes on from a state in which nothing is to be released. -/
def start (s : Placement) : Placing := ⟨s, [], s.placed ++ s.ready.map (·.2)⟩

/-- One turn: a module is released, or if none is to be, the first of the queue is placed. There is
none when the queue is empty. -/
def turn (r : Registry) (map : EdgeMap) (p : Placing) :
    Except OrderError (Option Placing) :=
  match p.due, p.state.ready with
  | name :: due, _ =>
    (Placement.release r p.state name).map fun s =>
      some ⟨s, due, p.queued ++ if p.state.waiting.lookup name = some 1 then [name] else []⟩
  | [], (_, name) :: rest =>
    .ok (some ⟨{ p.state with ready := rest, placed := p.state.placed ++ [name] },
      map.dependents name, p.queued⟩)
  | [], [] => .ok none

def Next (r : Registry) (map : EdgeMap) (p q : Placing) : Prop := p.turn r map = .ok (some q)

/-- A module may come next, and has been released by all that it waited for. -/
def Free (map : EdgeMap) (p : Placing) (a : Text) : Prop :=
  Available map.Leads map.Has p.state.placed a ∧ a ∉ p.due

/-- What holds at every turn. The count of a module that has yet to be released is one more than the
number of its dependencies that are not placed. -/
structure Invariant (r : Registry) (map : EdgeMap) (p : Placing) : Prop where
  keys : p.state.waiting.map (·.1) = map.map (·.1)
  waiting : ∀ a es, (a, es) ∈ map → p.state.waiting.lookup a =
    some (Placement.pending p.state.placed es + if a ∈ p.due then 1 else 0)
  due : ∀ a ∈ p.due, map.Has a ∧ a ∉ p.state.placed
  due_nodup : p.due.Nodup
  ready : Placement.Queued r (p.Free map) p.state.ready
  greedy : Greedy map.Leads map.Has r.position p.state.placed
  mem_queued : ∀ a, a ∈ p.queued ↔ a ∈ p.state.placed ∨ p.Free map a
  queued_nodup : p.queued.Nodup

variable {r : Registry} {map : EdgeMap} {p q : Placing} {s : Placement} {queued : List Text}

/-! ## What a turn does -/

theorem next_of_release {name : Text} {due : List Text} {t : Placement}
    (h : Placement.release r s name = .ok t) :
    Next r map ⟨s, name :: due, queued⟩
      ⟨t, due, queued ++ if s.waiting.lookup name = some 1 then [name] else []⟩ := by
  simp only [Next, turn, h, Except.map]

theorem next_of_ready {i : Nat} {name : Text} {rest : List (Nat × Text)}
    (h : s.ready = (i, name) :: rest) :
    Next r map ⟨s, [], queued⟩
      ⟨{ s with ready := rest, placed := s.placed ++ [name] }, map.dependents name, queued⟩ := by
  simp only [Next, turn, h]

theorem next_cases (h : Next r map p q) :
    (∃ i name rest, p.due = [] ∧ p.state.ready = (i, name) :: rest ∧
      q = ⟨{ p.state with ready := rest, placed := p.state.placed ++ [name] },
        map.dependents name, p.queued⟩) ∨
    (∃ name due s, p.due = name :: due ∧ Placement.release r p.state name = .ok s ∧
      q = ⟨s, due, p.queued ++ if p.state.waiting.lookup name = some 1 then [name] else []⟩) := by
  unfold Next turn at h
  split at h
  · next name due hdue =>
    cases hs : Placement.release r p.state name with
    | error e => simp [hs, Except.map] at h
    | ok s =>
      simp only [hs, Except.map, Except.ok.injEq, Option.some.injEq] at h
      exact .inr ⟨name, due, s, hdue, hs, h.symm⟩
  · next i name rest hdue hready =>
    simp only [Except.ok.injEq, Option.some.injEq] at h
    exact .inl ⟨i, name, rest, hdue, hready, h.symm⟩
  · cases h

theorem Invariant.pop {i : Nat} {name : Text} {rest : List (Nat × Text)}
    (hm : EdgeMap.Placeable r map) (h : Invariant r map ⟨s, [], queued⟩)
    (hs : s.ready = (i, name) :: rest) :
    Invariant r map ⟨{ s with ready := rest, placed := s.placed ++ [name] },
      map.dependents name, queued⟩ := by
  have hready : Placement.Queued r (Available map.Leads map.Has s.placed) ((i, name) :: rest) :=
    hs ▸ h.ready.congr fun a => by simp [Free]
  obtain ⟨hname, hfirst, hrest⟩ := hready.pop
  have hfree : ∀ a, Available map.Leads map.Has s.placed a ∧ a ≠ name ↔
      Available map.Leads map.Has (s.placed ++ [name]) a ∧ a ∉ map.dependents name := by
    intro a
    rw [EdgeMap.mem_dependents]
    exact available_concat_iff hname.2.1
  constructor
  case keys => exact h.keys
  case waiting =>
    intro a es hmem
    have hdep : a ∈ map.dependents name ↔ name ∈ EdgeMap.dependencies es :=
      EdgeMap.mem_dependents.trans (hm.leads_iff hmem)
    rw [h.waiting a es hmem, ← Placement.pending_concat hname.2.1]
    simp [hdep]
  case due =>
    intro a ha
    have hlead := EdgeMap.mem_dependents.1 ha
    refine ⟨hlead.has, fun hplaced => ?_⟩
    -- Were `a` placed or `name` itself, `name` would be placed already.
    rcases List.mem_append.1 hplaced with hplaced | hself
    · exact hname.2.1 (h.greedy.mem_of_leads hplaced hlead)
    · rw [List.mem_singleton.1 hself] at hlead
      exact hname.2.1 (hname.2.2 name hlead)
  case due_nodup => exact EdgeMap.nodup_dependents hm.nodup name
  case ready => exact hrest.congr hfree
  case greedy => exact h.greedy.concat hname hfirst
  case mem_queued =>
    intro a
    by_cases ha : a = name
    · simp [h.mem_queued, Free, ha, hname]
    · simp [h.mem_queued, Free, ha, ← hfree]
  case queued_nodup => exact h.queued_nodup

/-- What has yet to be released waits for one module more than those that are not placed. -/
theorem Invariant.waiting_of_due (h : Invariant r map p) {a : Text} (ha : a ∈ p.due) :
    ∃ es, (a, es) ∈ map ∧
      p.state.waiting.lookup a = some (Placement.pending p.state.placed es + 1) := by
  obtain ⟨hhas, -⟩ := h.due a ha
  obtain ⟨⟨_, es⟩, hmem, rfl⟩ := List.mem_map.1 hhas
  refine ⟨es, hmem, ?_⟩
  rw [h.waiting _ es hmem, if_pos ha]

/-- The count of a module that is due stands at one just if the module may come next. -/
theorem Invariant.lookup_eq_one_iff (hm : EdgeMap.Placeable r map) (h : Invariant r map p)
    {a : Text} (ha : a ∈ p.due) :
    p.state.waiting.lookup a = some 1 ↔ Available map.Leads map.Has p.state.placed a := by
  obtain ⟨hhas, hnew⟩ := h.due a ha
  obtain ⟨es, hes, hcount⟩ := h.waiting_of_due ha
  rw [hcount, Option.some.injEq, Nat.add_eq_right, Placement.pending_eq_zero_iff]
  constructor
  · exact fun hall => ⟨hhas, hnew, fun b hb => hall b ((hm.leads_iff hes).1 hb)⟩
  · exact fun hnext b hb => hnext.2.2 b ((hm.leads_iff hes).2 hb)

theorem Invariant.release {name : Text} {due : List Text} (hm : EdgeMap.Placeable r map)
    (h : Invariant r map ⟨s, name :: due, queued⟩) :
    ∃ t, Placement.release r s name = .ok t ∧
      Invariant r map ⟨t, due,
        queued ++ if s.waiting.lookup name = some 1 then [name] else []⟩ := by
  obtain ⟨hhas, hnew⟩ := h.due name List.mem_cons_self
  obtain ⟨hlater, hnodup⟩ := List.nodup_cons.1 h.due_nodup
  have hheld : ¬ Free map ⟨s, name :: due, queued⟩ name := fun hfree => hfree.2 List.mem_cons_self
  have hout : name ∉ queued := by
    rw [h.mem_queued, not_or]
    exact ⟨hnew, hheld⟩
  obtain ⟨t, ht, hplaced, hwaiting, hready⟩ :=
    Placement.release_spec h.ready (hm.declared name hhas) hheld
  have hfree : ∀ a, Free map ⟨s, name :: due, queued⟩ a ∨
      (a = name ∧ s.waiting.lookup name = some 1) ↔
        Available map.Leads map.Has s.placed a ∧ a ∉ due := by
    intro a
    rw [h.lookup_eq_one_iff hm List.mem_cons_self]
    by_cases ha : a = name
    · simp [Free, ha, hlater]
    · simp [Free, ha]
  refine ⟨t, ht, ?_⟩
  constructor
  case keys => rw [hwaiting, Placement.keys_countDown, h.keys]
  case waiting =>
    intro a es hmem
    rw [hwaiting, Placement.lookup_countDown, hplaced, h.waiting a es hmem]
    by_cases ha : a = name
    · simp [ha, hlater]
    · simp [ha]
  case due =>
    intro a ha
    rw [hplaced]
    exact h.due a (List.mem_cons_of_mem name ha)
  case due_nodup => exact hnodup
  case ready =>
    refine hready.congr fun a => ?_
    rw [hfree, Free, hplaced]
  case greedy => exact hplaced ▸ h.greedy
  case mem_queued =>
    intro a
    rw [Free, hplaced, ← hfree, ← or_assoc, List.mem_append, h.mem_queued,
      List.mem_ite_nil_right, List.mem_singleton, and_comm]
  case queued_nodup =>
    split
    · rw [← List.concat_eq_append]
      exact h.queued_nodup.concat hout
    · rw [List.append_nil]
      exact h.queued_nodup

theorem Invariant.next (hm : EdgeMap.Placeable r map) (h : Invariant r map p)
    (hnext : Next r map p q) : Invariant r map q := by
  obtain ⟨s, due, queued⟩ := p
  rcases next_cases hnext with ⟨i, name, rest, rfl, hready, rfl⟩ | ⟨name, due, t, rfl, ht, rfl⟩
  · exact h.pop hm hready
  · obtain ⟨t', ht', hinv⟩ := h.release hm
    cases ht.symm.trans ht'
    exact hinv

/-! ## Steps and runs are made of turns -/

theorem invariant_start (h : Placement.Invariant r map s) : Invariant r map (start s) where
  keys := h.keys
  waiting := by
    intro a es hmem
    simpa [start] using h.waiting a es hmem
  due := by simp [start]
  due_nodup := .nil
  ready := h.queued.congr fun a => by simp [Free, start]
  greedy := h.greedy
  mem_queued := by
    intro a
    simp [Free, start, h.queued.mem_names]
  queued_nodup := h.queued.nodup_append h.greedy.nodup fun _ hnext => hnext.2.1

/-- Where nothing is to be released, the placing is as it is between two steps. -/
theorem Invariant.between (h : Invariant r map ⟨s, [], queued⟩) : Placement.Invariant r map s where
  keys := h.keys
  waiting := by
    intro a es hmem
    simpa using h.waiting a es hmem
  queued := h.ready.congr fun a => by simp [Free]
  greedy := h.greedy

/-- All that is due can be released, turn by turn. -/
theorem Invariant.releaseAll {due : List Text} (hm : EdgeMap.Placeable r map)
    (h : Invariant r map ⟨s, due, queued⟩) :
    ∃ t queued', Placement.releaseAll r s due = .ok t ∧ Invariant r map ⟨t, [], queued'⟩ ∧
      ReflTransGen (Next r map) ⟨s, due, queued⟩ ⟨t, [], queued'⟩ := by
  induction due generalizing s queued with
  | nil => exact ⟨s, queued, rfl, h, .refl⟩
  | cons name due ih =>
    obtain ⟨u, hu, hinv⟩ := h.release hm
    obtain ⟨t, queued', ht, hinv', hturns⟩ := ih hinv
    refine ⟨t, queued', ?_, hinv', .head (next_of_release hu) hturns⟩
    rw [Placement.releaseAll, hu]
    exact ht

theorem Invariant.step (hm : EdgeMap.Placeable r map) (h : Invariant r map ⟨s, [], queued⟩)
    (hready : s.ready ≠ []) :
    ∃ t queued', Placement.step r map s = .ok t ∧ Invariant r map ⟨t, [], queued'⟩ ∧
      ReflTransGen (Next r map) ⟨s, [], queued⟩ ⟨t, [], queued'⟩ := by
  obtain ⟨⟨i, name⟩, rest, hs⟩ := List.exists_cons_of_ne_nil hready
  obtain ⟨t, queued', ht, hinv, hturns⟩ := (h.pop hm hs).releaseAll hm
  refine ⟨t, queued', ?_, hinv, .head (next_of_ready hs) hturns⟩
  rw [Placement.step, hs]
  exact ht

theorem Invariant.run (hm : EdgeMap.Placeable r map) (h : Invariant r map ⟨s, [], queued⟩) :
    ∃ t queued', Placement.run r map s = .ok t ∧ t.ready = [] ∧ Invariant r map ⟨t, [], queued'⟩ ∧
      ReflTransGen (Next r map) ⟨s, [], queued⟩ ⟨t, [], queued'⟩ := by
  induction s using Placement.run.induct r map generalizing queued with
  | case1 s hnone =>
    exact ⟨s, queued, by rw [Placement.run, dif_pos hnone], hnone, h, .refl⟩
  | case2 s hsome e hs =>
    obtain ⟨t, -, ht, -⟩ := h.step hm hsome
    rw [hs] at ht
    cases ht
  | case3 s hsome next hs ih =>
    obtain ⟨next', queued', hs', hnext, hturns⟩ := h.step hm hsome
    rw [hs] at hs'
    cases hs'
    obtain ⟨t, queued'', ht, hend, hinv, hturns'⟩ := ih hnext
    refine ⟨t, queued'', ?_, hend, hinv, hturns.trans hturns'⟩
    rw [Placement.run_eq_bind hsome, hs]
    exact ht

end Placing

namespace Placement

variable {r : Registry} {map : EdgeMap} {s : Placement}

theorem Invariant.run (hm : EdgeMap.Placeable r map) (h : Invariant r map s) :
    ∃ t, Placement.run r map s = .ok t ∧ Invariant r map t ∧ t.ready = [] := by
  obtain ⟨t, queued, ht, hend, hinv, -⟩ := (Placing.invariant_start h).run hm
  exact ⟨t, ht, hinv.between, hend⟩

end Placement

end GatedModules
