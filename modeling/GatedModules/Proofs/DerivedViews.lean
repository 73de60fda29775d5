import GatedModules.Command.Listings
import GatedModules.Proofs.EdgeTables
import Mathlib.Data.List.Perm.Basic

/-!
# The derived views of a module

The unconditional dependencies of the three kinds and the groups of conditional ones show every edge
of a module once. The groups are those that the edges fill in turn, and the counts in the listing of
a registry add up to the number of edges.
-/

namespace GatedModules

namespace Edge

/-- The groups with one more edge: its name goes behind those with its kind and condition. An edge
without a condition goes to none. -/
def addToGroups (groups : List (DependencyKind × List (Predicate × List Text))) (e : Edge) :
    List (DependencyKind × List (Predicate × List Text)) :=
  match e.condition with
  | none => groups
  | some p => putAt e.kind [] (putAt p [] (· ++ [e.name])) groups

/-- The groups that some edges fill one after the other. -/
def groupsInTurn (es : List Edge) : List (DependencyKind × List (Predicate × List Text)) :=
  es.foldl addToGroups []

end Edge

namespace Module

/-- The edges that the groups of conditional dependencies show. -/
def groupedEdges (m : Module) : List Edge :=
  m.conditionalGroups.flatMap fun g => g.2.flatMap fun h =>
    h.2.map fun name => { name, kind := g.1, condition := some h.1 }

/-- The edges that the unconditional dependencies and the groups show. -/
def viewed (m : Module) : List Edge := Edge.listed none m.unconditional ++ m.groupedEdges

/-- The groups of a kind: the conditions of its edges, each where it occurs first, with the names
that the edges lead to, in order. -/
structure Groups (m : Module) (kind : DependencyKind) (groups : List (Predicate × List Text)) :
    Prop where
  heads : FirstOccurrences (groups.map Prod.fst)
    ((m.edges.filter fun e => e.kind = kind).filterMap Edge.condition)
  names : ∀ g ∈ groups, g.2 = m.namesUnder (some g.1) kind
  ne_nil : ∀ g ∈ groups, g.2 ≠ []
  nodup : ∀ g ∈ groups, g.2.Nodup

variable {m : Module}

theorem groupsInTurn_eq (m : Module) : Edge.groupsInTurn m.edges = m.conditionalGroups :=
  (foldl_conditionalEdges _ [] m).symm.trans
    (foldl_putAt_putAt (fun b => b.2.kind) Prod.fst (fun b => b.2.name) m.conditionalEdges)

/-! ## Every edge once -/

theorem map_snd_conditionalEdges (m : Module) :
    m.conditionalEdges.map Prod.snd = m.edges.filter fun e => e.condition ≠ none := by
  rw [conditionalEdges]
  induction m.edges with
  | nil => rfl
  | cons e es ih => cases hc : e.condition <;> simpa [hc] using ih

theorem groupedEdges_eq (m : Module) :
    m.groupedEdges = ((grouped (fun b => b.2.kind) m.conditionalEdges).flatMap fun g =>
      (grouped Prod.fst g.2).flatMap Prod.snd).map Prod.snd := by
  rw [groupedEdges, conditionalGroups, List.flatMap_map, List.map_flatMap]
  refine List.flatMap_congr fun g hg => ?_
  dsimp only
  rw [List.flatMap_map, List.map_flatMap]
  refine List.flatMap_congr fun h hh => ?_
  rw [List.map_map]
  refine List.map_congr_left fun b hb => ?_
  -- The edge has the kind and the condition that it is grouped by, so the name is all that is left.
  rw [snd_of_mem_grouped hh, snd_of_mem_grouped hg] at hb
  simp only [List.mem_filter, decide_eq_true_eq] at hb
  obtain ⟨⟨hmem, hkind⟩, hcondition⟩ := hb
  obtain ⟨-, hedge⟩ := mem_conditionalEdges.1 hmem
  rw [Function.comp_apply, ← hkind, ← hcondition, ← hedge]

theorem groupedEdges_perm (m : Module) :
    m.groupedEdges.Perm (m.edges.filter fun e => e.condition ≠ none) := by
  rw [groupedEdges_eq, ← map_snd_conditionalEdges]
  apply List.Perm.map
  refine .trans ?_ (flatMap_grouped_perm (fun b => b.2.kind) m.conditionalEdges)
  exact List.Perm.flatMap_left _ fun g _ => flatMap_grouped_perm Prod.fst g.2

theorem listed_unconditional_perm (m : Module) :
    (Edge.listed none m.unconditional).Perm (m.edges.filter fun e => e.condition = none) := by
  have hbyKind : Edge.listed none m.unconditional =
      byKeys Edge.kind DependencyKind.all (m.edges.filter fun e => e.condition = none) := by
    rw [funext m.unconditional_eq, listed_namesUnder]
    refine List.flatMap_congr fun k _ => ?_
    rw [List.filter_filter]
    refine List.filter_congr fun e _ => ?_
    simp [and_comm]
  rw [hbyKind]
  exact byKeys_perm (by decide) fun e _ => e.kind.mem_all

theorem viewed_perm (m : Module) : m.viewed.Perm m.edges := by
  refine ((listed_unconditional_perm m).append (groupedEdges_perm m)).trans ?_
  simpa using List.filter_append_perm (fun e => decide (e.condition = none)) m.edges

/-! ## The groups of a kind -/

theorem nodup_namesUnder (m : Module) (c : Option Predicate) (k : DependencyKind) :
    (m.namesUnder c k).Nodup := by
  refine List.Nodup.map_on ?_ (m.nodup.filter _)
  intro d hd e he hname
  simp only [List.mem_filter, decide_eq_true_eq] at hd he
  cases d
  cases e
  simp_all

theorem conditions_of_kind (m : Module) (k : DependencyKind) :
    (m.conditionalEdges.filter fun b => b.2.kind = k).map Prod.fst =
      (m.edges.filter fun e => e.kind = k).filterMap Edge.condition := by
  rw [conditionalEdges]
  induction m.edges with
  | nil => rfl
  | cons e es ih =>
    cases hc : e.condition with
    | none => by_cases hk : e.kind = k <;> simpa [hc, hk] using ih
    | some p => by_cases hk : e.kind = k <;> simpa [hc, hk] using ih

theorem names_of_group (m : Module) (p : Predicate) (k : DependencyKind) :
    (((m.conditionalEdges.filter fun b => b.2.kind = k).filter fun b => b.1 = p).map
      fun b => b.2.name) = m.namesUnder (some p) k := by
  rw [List.filter_comm, filter_conditionalEdges, List.filter_map, List.map_map, List.filter_filter]
  simp [namesUnder, Function.comp_def, and_comm]

theorem groups_of_mem {groups : DependencyKind × List (Predicate × List Text)}
    (hgroups : groups ∈ m.conditionalGroups) : Groups m groups.1 groups.2 := by
  obtain ⟨g, hg, rfl⟩ := List.mem_map.1 hgroups
  dsimp only
  rw [snd_of_mem_grouped hg]
  have hnames : ∀ h ∈ grouped Prod.fst (m.conditionalEdges.filter fun b => b.2.kind = g.1),
      h.2.map (fun b => b.2.name) = m.namesUnder (some h.1) g.1 := by
    intro h hh
    rw [snd_of_mem_grouped hh, names_of_group]
  constructor
  case heads =>
    have hheads := map_fst_grouped Prod.fst (m.conditionalEdges.filter fun b => b.2.kind = g.1)
    rw [conditions_of_kind] at hheads
    rw [List.map_map]
    exact hheads ▸ firstOccurrences_distinct _
  case names =>
    intro group hgroup
    obtain ⟨h, hh, rfl⟩ := List.mem_map.1 hgroup
    exact hnames h hh
  case ne_nil =>
    intro group hgroup
    obtain ⟨h, hh, rfl⟩ := List.mem_map.1 hgroup
    simpa using ne_nil_of_mem_grouped hh
  case nodup =>
    intro group hgroup
    obtain ⟨h, hh, rfl⟩ := List.mem_map.1 hgroup
    exact hnames h hh ▸ nodup_namesUnder m _ _

theorem kinds_of_groups (m : Module) :
    FirstOccurrences (m.conditionalGroups.map Prod.fst)
      (m.conditionalEdges.map fun b => b.2.kind) := by
  have hkinds := map_fst_grouped (fun b => b.2.kind) m.conditionalEdges
  rw [conditionalGroups, List.map_map]
  exact hkinds ▸ firstOccurrences_distinct _

/-! ## Counts -/

/-- The names in the groups. -/
def groupedNames (m : Module) : List Text := (m.conditionalGroups.flatMap Prod.snd).flatMap Prod.snd

theorem length_groupedNames (m : Module) : m.groupedNames.length = m.conditionalEdges.length := by
  have hnames : m.groupedEdges.map Edge.name = m.groupedNames := by
    simp [groupedEdges, groupedNames, List.map_flatMap, List.flatMap_assoc, Function.comp_def]
  rw [← hnames, List.length_map, (groupedEdges_perm m).length_eq, ← map_snd_conditionalEdges,
    List.length_map]

theorem length_edges (m : Module) :
    (m.unconditional .exported).length + (m.unconditional .internal).length +
      (m.unconditional .dynamic).length + m.groupedNames.length = m.edges.length := by
  have hlength := (viewed_perm m).length_eq
  rw [viewed, List.length_append, (groupedEdges_perm m).length_eq, ← map_snd_conditionalEdges,
    List.length_map, ← length_groupedNames] at hlength
  rw [← hlength]
  simp [Edge.listed, DependencyKind.all]
  omega

/-- The groups of a module are those that its edges fill in turn. With the unconditional
dependencies they show every edge once. Every kind and, under it, every condition has one group, in
the order of the first edges; no group is empty, and its names are distinct and in order. So the
counts in a row of the listing add up to the number of edges. -/
theorem views_show_edges_once (m : Module) :
    Edge.groupsInTurn m.edges = m.conditionalGroups ∧
    m.viewed.Perm m.edges ∧ m.viewed.Nodup ∧
    FirstOccurrences (m.conditionalGroups.map Prod.fst)
      (m.conditionalEdges.map fun b => b.2.kind) ∧
    (∀ g ∈ m.conditionalGroups, Groups m g.1 g.2) ∧
    ∃ exported internal dynamic conditional : Nat,
      m.listingRow = [m.name, m.pchMode.name, toString exported, toString internal,
        toString dynamic, toString conditional] ∧
      exported = (m.unconditional .exported).length ∧
      internal = (m.unconditional .internal).length ∧
      dynamic = (m.unconditional .dynamic).length ∧ conditional = m.groupedNames.length ∧
      exported + internal + dynamic + conditional = m.edges.length := by
  refine ⟨groupsInTurn_eq m, viewed_perm m, (viewed_perm m).nodup_iff.2 m.nodup, kinds_of_groups m,
    fun g hg => groups_of_mem hg, _, _, _, _, ?_, rfl, rfl, rfl, rfl, length_edges m⟩
  rw [length_groupedNames]
  rfl

end Module

end GatedModules
