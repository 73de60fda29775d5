import GatedModules.Proofs.PlacementTurns
import GatedModules.Proofs.Unplaced

/-!
# The counts and the queue of a placing

The counts are kept one by one, and the queue is filled where one of them comes to zero. Whatever
the edges are, repeated or in cycles, no count is taken below zero and no module is put in the queue
twice. Whenever the next module is to be placed, the counts and the queue are what the edges give.
-/

namespace GatedModules

open Relation

variable {r : Registry} {map : EdgeMap}

namespace Placement

variable {s : Placement}

/-- What holds whenever a module is to be placed, and in the end. -/
structure Steady (map : EdgeMap) (s : Placement) : Prop where
  keys : s.waiting.map (·.1) = map.map (·.1)
  /-- A count is that of the dependencies, each taken once, that are not placed. -/
  waiting : ∀ a es, (a, es) ∈ map → s.waiting.lookup a = some (pending s.placed es)
  ready_nodup : (s.ready.map (·.2)).Nodup
  mem_ready : ∀ a, a ∈ s.ready.map (·.2) ↔
    map.Has a ∧ a ∉ s.placed ∧ s.waiting.lookup a = some 0
  placed_nodup : s.placed.Nodup
  earlier : ∀ before a after, s.placed = before ++ a :: after →
    ∀ b, map.Leads a b → b ∈ before

theorem Invariant.available_iff (hm : EdgeMap.Placeable r map) (h : Invariant r map s) {a : Text} :
    Available map.Leads map.Has s.placed a ↔
      map.Has a ∧ a ∉ s.placed ∧ s.waiting.lookup a = some 0 := by
  refine and_congr_right fun hhas => and_congr_right fun _ => ?_
  obtain ⟨⟨_, es⟩, hmem, rfl⟩ := List.mem_map.1 hhas
  rw [h.waiting _ es hmem, Option.some.injEq, pending_eq_zero_iff]
  exact forall_congr' fun b => imp_congr_left (hm.leads_iff hmem)

theorem Invariant.steady (hm : EdgeMap.Placeable r map) (h : Invariant r map s) :
    Steady map s where
  keys := h.keys
  waiting := h.waiting
  ready_nodup := h.queued.nodup_names
  mem_ready _ := h.queued.mem_names.trans (h.available_iff hm)
  placed_nodup := h.greedy.nodup
  earlier before a after heq := (h.greedy before a after heq).1.2.2

end Placement

namespace Placing

variable {p : Placing}

/-- What holds at every turn. -/
structure Sound (map : EdgeMap) (p : Placing) : Prop where
  steady : p.due = [] → p.state.Steady map
  /-- What is to be released waits for something. -/
  counted : ∀ a ∈ p.due, ∃ k, p.state.waiting.lookup a = some (k + 1)
  queued_perm : p.queued.Perm (p.state.placed ++ p.state.ready.map (·.2))
  queued_nodup : p.queued.Nodup

theorem Invariant.sound (hm : EdgeMap.Placeable r map) (h : Invariant r map p) :
    Sound map p where
  steady := by
    obtain ⟨s, due, queued⟩ := p
    rintro rfl
    exact h.between.steady hm
  counted := by
    intro a ha
    obtain ⟨es, -, hcount⟩ := h.waiting_of_due ha
    exact ⟨_, hcount⟩
  queued_perm := by
    have hnodup : (p.state.placed ++ p.state.ready.map (·.2)).Nodup :=
      h.ready.nodup_append h.greedy.nodup fun _ hfree => hfree.1.2.1
    refine (List.perm_ext_iff_of_nodup h.queued_nodup hnodup).2 fun a => ?_
    rw [h.mem_queued, List.mem_append, h.ready.mem_names]
  queued_nodup := h.queued_nodup

theorem Invariant.reached (hm : EdgeMap.Placeable r map) {q : Placing} (h : Invariant r map p)
    (hreached : ReflTransGen (Next r map) p q) : Invariant r map q := by
  induction hreached with
  | refl => exact h
  | tail _ hnext ih => exact ih.next hm hnext

/-- The build order is found turn by turn, and what holds at every turn is what the edges give. -/
theorem counts_and_queue_kept (hm : EdgeMap.Placeable r map) :
    ∃ first, Placement.start r map = .ok first ∧ first.placed = [] ∧
      (∃ last queued, ReflTransGen (Next r map) (start first) ⟨last, [], queued⟩ ∧
        last.ready = [] ∧ buildOrder r map =
          if last.placed.length = map.length then .ok last.placed
          else .error (.unplaced last.stuck)) ∧
      ∀ p, ReflTransGen (Next r map) (start first) p → Sound map p := by
  obtain ⟨first, hfirst, hnone, hinv⟩ := Placement.start_spec hm
  have hstart := invariant_start hinv
  obtain ⟨last, queued, hlast, hend, -, hturns⟩ := hstart.run hm
  refine ⟨first, hfirst, hnone, ?_, fun p hreached => (hstart.reached hm hreached).sound hm⟩
  exact ⟨last, queued, hturns, hend, buildOrder_of_run hm hfirst hlast⟩

end Placing

namespace FourModules

/-- `Core` is placed, and `Net` is about to be released for the first of two times. -/
theorem net_due :
    ∃ first p, Placement.start registry knot = .ok first ∧
      ReflTransGen (Placing.Next registry knot) (Placing.start first) p ∧
      p.due = [net.name] ∧ p.state.placed = [core.name] ∧
      p.state.waiting.lookup net.name = some 2 :=
  ⟨_, _, rfl, .single rfl, rfl, rfl, rfl⟩

theorem knot_counts_kept :
    EdgeMap.Placeable registry knot ∧
      ∃ first p, Placement.start registry knot = .ok first ∧
        ReflTransGen (Placing.Next registry knot) (Placing.start first) p ∧
        p.due = [net.name] ∧ p.state.waiting.lookup net.name = some 2 ∧ Placing.Sound knot p := by
  obtain ⟨first, p, hfirst, hturns, hdue, -, hcount⟩ := net_due
  obtain ⟨first', hfirst', -, -, hall⟩ := Placing.counts_and_queue_kept placeable_knot
  cases hfirst.symm.trans hfirst'
  exact ⟨placeable_knot, first, p, hfirst, hturns, hdue, hcount, hall p hturns⟩

end FourModules

end GatedModules
