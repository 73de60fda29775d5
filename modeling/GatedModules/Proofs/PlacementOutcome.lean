import GatedModules.Proofs.PlacementTurns
import Mathlib.Data.Set.Finite.List

/-!
# The outcome of the placing

What is left over in the end leads into a cycle. So an edge map without cycles is put in order, and
that order is the least.
-/

namespace GatedModules

namespace Placement

variable {r : Registry} {map : EdgeMap} {s : Placement}

/-- Away from the cycles of an edge map, leading is well-founded. -/
theorem wellFounded_clear :
    WellFounded fun a b : { a // map.Has a ∧ ¬ map.LeadsIntoCycle a } =>
      Relation.TransGen map.Leads b.1 a.1 := by
  have : Finite { a // map.Has a ∧ ¬ map.LeadsIntoCycle a } :=
    ((List.finite_toSet (map.map (·.1))).subset fun _ ha => ha.1).to_subtype
  have : IsTrans { a // map.Has a ∧ ¬ map.LeadsIntoCycle a }
      fun a b => Relation.TransGen map.Leads b.1 a.1 := ⟨fun a b c hab hbc => hbc.trans hab⟩
  have : Std.Irrefl fun a b : { a // map.Has a ∧ ¬ map.LeadsIntoCycle a } =>
      Relation.TransGen map.Leads b.1 a.1 := ⟨fun a ha => a.2.2 ⟨a.1, .refl, ha⟩⟩
  exact Finite.wellFounded_of_trans_of_irrefl _

theorem Invariant.not_available_of_end (h : Invariant r map s) (hend : s.ready = []) (a : Text) :
    ¬ Available map.Leads map.Has s.placed a := by
  intro hav
  have hmem := (h.queued.mem_iff (r.position a) a).2 ⟨hav, rfl⟩
  rw [hend] at hmem
  cases hmem

/-- If nothing may come next, a module that is left waits for another one, and so on: it leads into
a cycle. -/
theorem Invariant.placed_of_clear (hm : EdgeMap.Placeable r map) (h : Invariant r map s)
    (hend : s.ready = []) {a : Text} (ha : map.Has a) (hclear : ¬ map.LeadsIntoCycle a) :
    a ∈ s.placed := by
  have main : ∀ a : { a // map.Has a ∧ ¬ map.LeadsIntoCycle a }, a.1 ∈ s.placed := by
    intro a
    induction a using wellFounded_clear.induction with
    | _ a ih =>
      by_contra hleft
      refine h.not_available_of_end hend a.1 ⟨a.2.1, hleft, fun b hb => ?_⟩
      exact ih ⟨b, hm.closed a.1 b hb, fun hcycle => a.2.2 (hcycle.head hb)⟩ (.single hb)
  exact main ⟨a, ha, hclear⟩

end Placement

/-- What a placing has placed in the end is the build order if it is all there is. -/
theorem buildOrder_of_run {r : Registry} {map : EdgeMap} {first last : Placement}
    (hm : EdgeMap.Placeable r map) (hfirst : Placement.start r map = .ok first)
    (hlast : Placement.run r map first = .ok last) :
    buildOrder r map =
      if last.placed.length = map.length then .ok last.placed
      else .error (.unplaced last.stuck) := by
  simp only [buildOrder, hm.missing?_eq_none, hfirst, hlast, bind, Except.bind, pure, Except.pure]
  rfl

/-- The placing goes on until nothing may come next. -/
theorem buildOrder_run {r : Registry} {map : EdgeMap} (hm : EdgeMap.Placeable r map) :
    ∃ s, Placement.Invariant r map s ∧ s.ready = [] ∧
      buildOrder r map =
        if s.placed.length = map.length then .ok s.placed else .error (.unplaced s.stuck) := by
  obtain ⟨first, hfirst, -, hinv⟩ := Placement.start_spec hm
  obtain ⟨last, hlast, hinv', hend⟩ := hinv.run hm
  exact ⟨last, hinv', hend, buildOrder_of_run hm hfirst hlast⟩

/-- An edge map without cycles is put in the least dependency order of its names. -/
theorem buildOrder_spec {r : Registry} {map : EdgeMap} (hm : EdgeMap.Placeable r map)
    (hacyclic : ∀ a, ¬ Relation.TransGen map.Leads a a) :
    ∃ order, buildOrder r map = .ok order ∧
      LeastOrder map.Leads map.Has r.position order := by
  obtain ⟨last, hinv, hend, hrun⟩ := buildOrder_run hm
  have hall : ∀ a, map.Has a → a ∈ last.placed := by
    intro a ha
    apply hinv.placed_of_clear hm hend ha
    rintro ⟨b, -, hb⟩
    exact hacyclic b hb
  have hperm : last.placed.Perm (map.map (·.1)) :=
    (List.perm_ext_iff_of_nodup hinv.greedy.nodup hm.nodup).2 fun a =>
      ⟨hinv.greedy.member_of_mem, hall a⟩
  have hlength : last.placed.length = map.length := by simpa using hperm.length_eq
  refine ⟨last.placed, by rw [hrun, if_pos hlength], ?_⟩
  exact hinv.greedy.leastOrder (fun a b ha => r.position_inj (hm.declared a ha)) hall

end GatedModules
