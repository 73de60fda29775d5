import GatedModules.Proofs.PlacementOutcome
import GatedModules.Proofs.Resolution
import GatedModules.Proofs.SortedNames

/-!
# Modules that cannot be placed

The placing comes to an end with every module that does not lead into a cycle, and with no other. If
some are left over, the error names exactly those, sorted; and neither the order nor the error
depends on how the edge map is arranged.
-/

namespace GatedModules

open Relation

/-! ## Greedy orders have no cycles -/

section

variable {leads : Text → Text → Prop} {member : Text → Prop} {position : Text → Nat}

theorem Greedy.acc {order : List Text} (h : Greedy leads member position order) {a : Text}
    (ha : a ∈ order) : Acc (Function.swap leads) a := by
  induction order using List.reverseRecOn generalizing a with
  | nil => cases ha
  | append_singleton order z ih =>
    rcases List.mem_append.1 ha with ha | ha
    · exact ih h.of_append ha
    · rw [List.mem_singleton.1 ha]
      refine .intro z fun b hzb => ih h.of_append ?_
      exact (h order z [] rfl).1.2.2 b hzb

theorem Greedy.not_transGen_self {order : List Text} (h : Greedy leads member position order)
    {a : Text} (ha : a ∈ order) : ¬ TransGen leads a a := by
  have hacc := (h.acc ha).transGen
  intro hcycle
  rw [← transGen_swap] at hcycle
  induction hacc with
  | intro a _ ih => exact ih a hcycle ha hcycle

end

namespace EdgeMap

variable {r : Registry} {map map' : EdgeMap}

theorem LeadsIntoCycle.has {a : Text} (h : map.LeadsIntoCycle a) : map.Has a := by
  obtain ⟨b, hab, hb⟩ := h
  obtain ⟨c, hac, -⟩ := TransGen.head'_iff.1 (hb.trans_right hab)
  exact hac.has

theorem Placeable.perm (h : Placeable r map) (hperm : map'.Perm map) : Placeable r map' := by
  have hkeys : (map'.map (·.1)).Perm (map.map (·.1)) := hperm.map _
  have hhas : ∀ a, map'.Has a ↔ map.Has a := fun a => hkeys.mem_iff
  constructor
  · exact hkeys.nodup_iff.2 h.nodup
  · intro a ha
    exact h.declared a ((hhas a).1 ha)
  · rintro a b ⟨es, hmem, hb⟩
    exact (hhas b).2 (h.closed a b ⟨es, hperm.mem_iff.1 hmem, hb⟩)

theorem leads_eq_of_perm (hperm : map'.Perm map) : map'.Leads = map.Leads := by
  funext a b
  apply propext
  exact exists_congr fun es => and_congr_left' hperm.mem_iff

/-- The names of exactly the modules that lead into a cycle, sorted, each once. -/
structure Unplaceable (map : EdgeMap) (names : List Text) : Prop where
  sorted : names.Pairwise (· ≤ ·)
  nodup : names.Nodup
  mem_iff : ∀ a, a ∈ names ↔ map.LeadsIntoCycle a

theorem Unplaceable.unique {names names' : List Text} (h : map.Unplaceable names)
    (h' : map.Unplaceable names') : names' = names := by
  have hperm : names'.Perm names := by
    rw [List.perm_ext_iff_of_nodup h'.nodup h.nodup]
    intro a
    rw [h'.mem_iff, h.mem_iff]
  exact hperm.eq_of_pairwise (fun _ _ _ _ => Text.le_antisymm) h'.sorted h.sorted

end EdgeMap

namespace Placement

variable {r : Registry} {map : EdgeMap} {s : Placement}

/-! ## What is left over -/

/-- What is placed leads to what is placed, where nothing is on a cycle. -/
theorem Invariant.clear_of_placed (h : Invariant r map s) {a : Text} (ha : a ∈ s.placed) :
    ¬ map.LeadsIntoCycle a := by
  rintro ⟨b, hab, hcycle⟩
  have hplaced : ∀ b, ReflTransGen map.Leads a b → b ∈ s.placed := by
    intro b hab
    induction hab with
    | refl => exact ha
    | tail _ hlast ih => exact h.greedy.mem_of_leads ih hlast
  exact h.greedy.not_transGen_self (hplaced b hab) hcycle

theorem Invariant.placed_iff (hm : EdgeMap.Placeable r map) (h : Invariant r map s)
    (hend : s.ready = []) {a : Text} :
    a ∈ s.placed ↔ map.Has a ∧ ¬ map.LeadsIntoCycle a := by
  constructor
  · intro ha
    exact ⟨h.greedy.member_of_mem ha, h.clear_of_placed ha⟩
  · rintro ⟨ha, hclear⟩
    exact h.placed_of_clear hm hend ha hclear

theorem mem_stuck {a : Text} : a ∈ s.stuck ↔ ∃ k, (a, k) ∈ s.waiting ∧ 0 < k := by
  rw [stuck, (sortNames_perm _).mem_iff]
  simp

/-- In the end a module waits for another just if it is not placed. -/
theorem Invariant.pending_eq_zero_iff_placed (hm : EdgeMap.Placeable r map)
    (h : Invariant r map s) (hend : s.ready = []) {a : Text} {es : List Edge}
    (hmem : (a, es) ∈ map) : pending s.placed es = 0 ↔ a ∈ s.placed := by
  rw [pending_eq_zero_iff]
  constructor
  · intro hall
    by_contra hleft
    refine h.not_available_of_end hend a ⟨List.mem_map.2 ⟨_, hmem, rfl⟩, hleft, fun b hb => ?_⟩
    exact hall b ((hm.leads_iff hmem).1 hb)
  · intro ha b hb
    exact h.greedy.mem_of_leads ha ((hm.leads_iff hmem).2 hb)

theorem Invariant.unplaceable_stuck (hm : EdgeMap.Placeable r map) (h : Invariant r map s)
    (hend : s.ready = []) : map.Unplaceable s.stuck := by
  have hkeys : (s.waiting.map (·.1)).Nodup := h.keys ▸ hm.nodup
  constructor
  · exact pairwise_sortNames _
  · apply (sortNames_perm _).nodup_iff.2
    exact hkeys.sublist (List.filter_sublist.map _)
  · intro a
    rw [mem_stuck]
    constructor
    · rintro ⟨k, hk, hpos⟩
      have hhas : map.Has a := by
        rw [EdgeMap.Has, ← h.keys]
        exact List.mem_map.2 ⟨_, hk, rfl⟩
      obtain ⟨⟨_, es⟩, hmem, rfl⟩ := List.mem_map.1 hhas
      have hcount := h.waiting _ es hmem
      rw [(lookup_eq_some_iff hkeys).2 hk] at hcount
      by_contra hclear
      have hzero := (h.pending_eq_zero_iff_placed hm hend hmem).2
        ((h.placed_iff hm hend).2 ⟨hhas, hclear⟩)
      have hk0 : k = 0 := (Option.some.inj hcount).trans hzero
      omega
    · intro hcycle
      obtain ⟨⟨_, es⟩, hmem, rfl⟩ := List.mem_map.1 hcycle.has
      refine ⟨_, (lookup_eq_some_iff hkeys).1 (h.waiting _ es hmem), ?_⟩
      apply Nat.pos_of_ne_zero
      intro hzero
      exact h.clear_of_placed ((h.pending_eq_zero_iff_placed hm hend hmem).1 hzero) hcycle

end Placement

section

variable {r : Registry} {map : EdgeMap}

theorem buildOrder_of_cycle (hm : EdgeMap.Placeable r map)
    (hcycle : ∃ a, TransGen map.Leads a a) :
    ∃ names, buildOrder r map = .error (.unplaced names) ∧ map.Unplaceable names := by
  obtain ⟨last, hinv, hend, hrun⟩ := buildOrder_run hm
  refine ⟨last.stuck, ?_, hinv.unplaceable_stuck hm hend⟩
  rw [hrun, if_neg]
  intro hlength
  -- The module on a cycle would be placed, were there as many as are to be placed.
  obtain ⟨a, ha⟩ := hcycle
  have hstuck : map.LeadsIntoCycle a := ⟨a, .refl, ha⟩
  have hsub : last.placed.Subperm (map.map (·.1)) :=
    hinv.greedy.nodup.subperm fun b hb => hinv.greedy.member_of_mem hb
  have hperm := hsub.perm_of_length_le (by rw [hlength, List.length_map])
  exact hinv.clear_of_placed (hperm.mem_iff.2 hstuck.has) hstuck

theorem buildOrder_perm (hm : EdgeMap.Placeable r map) {map' : EdgeMap} (hperm : map'.Perm map) :
    buildOrder r map' = buildOrder r map := by
  have hm' := hm.perm hperm
  have hleads := EdgeMap.leads_eq_of_perm hperm
  by_cases hcycle : ∃ a, TransGen map.Leads a a
  · obtain ⟨names, hrun, hnames⟩ := buildOrder_of_cycle hm hcycle
    obtain ⟨names', hrun', hnames'⟩ := buildOrder_of_cycle hm' (hleads ▸ hcycle)
    have hsame : map.Unplaceable names' := by
      refine ⟨hnames'.sorted, hnames'.nodup, fun a => ?_⟩
      rw [hnames'.mem_iff, EdgeMap.LeadsIntoCycle, hleads]
      rfl
    rw [hrun, hrun', hnames.unique hsame]
  · rw [not_exists] at hcycle
    obtain ⟨order, hrun, hleast⟩ := buildOrder_spec hm hcycle
    obtain ⟨order', hrun', hleast'⟩ := buildOrder_spec hm' (hleads ▸ hcycle)
    have hsame : LeastOrder map.Leads map.Has r.position order' :=
      hleast'.congr (fun a => (hperm.map _).mem_iff) fun a b _ => by rw [hleads]
    rw [hrun, hrun', hleast.unique hsame]

/-- An edge map is put in a dependency order of its names unless it has a cycle. Otherwise the error
names, in order, exactly the modules that lead into one. Either way the arrangement of the map does
not count. -/
theorem buildOrder_or_unplaced (hm : EdgeMap.Placeable r map) :
    ((∃ order, buildOrder r map = .ok order ∧ order.Perm (map.map (·.1)) ∧
      DependencyOrder map.Leads map.Has order) ↔ ∀ a, ¬ TransGen map.Leads a a) ∧
    ((∃ a, TransGen map.Leads a a) →
      ∃ names, buildOrder r map = .error (.unplaced names) ∧
        (OrderError.unplaced names).message =
          "Topological sort left modules unplaced: " ++ Text.intercalate ", " names ∧
        names.Pairwise (· ≤ ·) ∧ names.Nodup ∧ ∀ a, a ∈ names ↔ map.LeadsIntoCycle a) ∧
    ∀ map' : EdgeMap, map'.Perm map → buildOrder r map' = buildOrder r map := by
  refine ⟨⟨?_, ?_⟩, ?_, fun map' => buildOrder_perm hm⟩
  · rintro ⟨order, horder, -⟩ a ha
    obtain ⟨names, hrun, -⟩ := buildOrder_of_cycle hm ⟨a, ha⟩
    rw [horder] at hrun
    cases hrun
  · intro hacyclic
    obtain ⟨order, hrun, hleast⟩ := buildOrder_spec hm hacyclic
    refine ⟨order, hrun, ?_, hleast.1⟩
    exact (List.perm_ext_iff_of_nodup hleast.1.nodup hm.nodup).2 hleast.1.mem_iff
  · intro hcycle
    obtain ⟨names, hrun, hnames⟩ := buildOrder_of_cycle hm hcycle
    exact ⟨names, hrun, rfl, hnames.sorted, hnames.nodup, hnames.mem_iff⟩

end

namespace FourModules

/-- `Net` and `Tool` refer to one another, `Tool` to itself too, and `App` twice to `Net`. -/
def knot : EdgeMap :=
  [("App", [⟨"Net", .exported, none⟩, ⟨"Net", .dynamic, none⟩]),
    ("Tool", [⟨"Net", .internal, none⟩, ⟨"Tool", .internal, none⟩]),
    ("Net", [⟨"Tool", .dynamic, none⟩, ⟨"Core", .internal, none⟩]),
    ("Core", [])]

theorem placeable_knot : EdgeMap.Placeable registry knot := by
  have hdeclared : ∀ a ∈ knot.map (·.1), registry.declares a = true := by decide
  have hclosed : ∀ entry ∈ knot, ∀ b ∈ EdgeMap.dependencies entry.2, b ∈ knot.map (·.1) := by decide
  refine ⟨by decide, hdeclared, ?_⟩
  rintro a b ⟨es, hmem, hb⟩
  exact hclosed _ hmem b hb

theorem tool_onCycle : TransGen knot.Leads "Tool" "Tool" :=
  .single ⟨[⟨"Net", .internal, none⟩, ⟨"Tool", .internal, none⟩], by decide, by decide⟩

theorem knot_unplaced :
    EdgeMap.Placeable registry knot ∧ TransGen knot.Leads "Tool" "Tool" ∧
      (¬ ∃ order, buildOrder registry knot = .ok order ∧ order.Perm (knot.map (·.1)) ∧
        DependencyOrder knot.Leads knot.Has order) ∧
      buildOrder registry knot = .error (.unplaced (path ["App", "Net", "Tool"])) ∧
      (∀ a, a ∈ path ["App", "Net", "Tool"] ↔ knot.LeadsIntoCycle a) ∧
      buildOrder registry knot.reverse = buildOrder registry knot := by
  obtain ⟨hiff, hcycle, hperm⟩ := buildOrder_or_unplaced placeable_knot
  have hrun : buildOrder registry knot =
      .error (.unplaced (sortNames (path ["App", "Tool", "Net"]))) := by with_unfolding_all rfl
  have hsorted : sortNames (path ["App", "Tool", "Net"]) = path ["App", "Net", "Tool"] :=
    sortNames_eq_of_sorted (by decide) (by decide)
  rw [hsorted] at hrun
  obtain ⟨names, hnames, -, -, -, hmem⟩ := hcycle ⟨"Tool", tool_onCycle⟩
  rw [hrun] at hnames
  cases hnames
  refine ⟨placeable_knot, tool_onCycle, ?_, hrun, hmem, hperm _ (List.reverse_perm knot)⟩
  intro hordered
  exact hiff.1 hordered "Tool" tool_onCycle

end FourModules

end GatedModules
