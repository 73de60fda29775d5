import GatedModules.Proofs.ModuleForm

/-!
# Blocks filled edge by edge

The conditional edges can be put into blocks one after the other, each into the first block that is
written with its condition, or into a new block at the end. No two conditions are written alike, so
these are the blocks of the edges gathered by condition and kind.
-/

namespace GatedModules

/-! ## Blocks -/

namespace Edge

/-- The blocks with one more edge, each with the written form of its condition and its names by
kind. An edge without a condition goes to none. -/
def addToBlocks (blocks : List (Json × List (DependencyKind × List Text))) (e : Edge) :
    List (Json × List (DependencyKind × List Text)) :=
  match e.condition with
  | none => blocks
  | some p => putAt p.toJson [] (putAt e.kind [] (· ++ [e.name])) blocks

/-- The blocks that some edges fill one after the other. -/
def blocksInTurn (es : List Edge) : List (Json × List (DependencyKind × List Text)) :=
  es.foldl addToBlocks []

end Edge

namespace Module

variable {m : Module}

theorem mem_conditionalEdges {p : Predicate} {e : Edge} :
    (p, e) ∈ m.conditionalEdges ↔ e ∈ m.edges ∧ e.condition = some p := by
  simp only [conditionalEdges, List.mem_filterMap, Option.map_eq_some_iff, Prod.mk.injEq]
  constructor
  · rintro ⟨e, he, p, hp, rfl, rfl⟩
    exact ⟨he, hp⟩
  · rintro ⟨he, hp⟩
    exact ⟨e, he, p, hp, rfl, rfl⟩

theorem foldl_conditionalEdges (change : β → Predicate → Edge → β) (start : β) (m : Module) :
    m.conditionalEdges.foldl (fun b c => change b c.1 c.2) start =
      m.edges.foldl (fun b e => match e.condition with
        | none => b
        | some p => change b p e) start := by
  rw [conditionalEdges, List.foldl_filterMap]
  congr 1
  funext b e
  cases e.condition <;> rfl

theorem blocksInTurn_eq (hm : m.Named) :
    Edge.blocksInTurn m.edges = m.conditionalBlocks.map fun b => (b.1.toJson, b.2) := by
  have hwritten : ∀ p ∈ m.conditionalEdges.map Prod.fst,
      ∀ q ∈ m.conditionalEdges.map Prod.fst, p.toJson = q.toJson → p = q := by
    intro p hp q hq
    obtain ⟨⟨_, d⟩, hd, rfl⟩ := List.mem_map.1 hp
    obtain ⟨⟨_, e⟩, he, rfl⟩ := List.mem_map.1 hq
    rw [mem_conditionalEdges] at hd he
    exact Predicate.eq_of_toJson_eq ((hm d hd.1).2 _ hd.2) ((hm e he.1).2 _ he.2)
  calc Edge.blocksInTurn m.edges
      = m.conditionalEdges.foldl (fun blocks b =>
          putAt b.1.toJson [] (putAt b.2.kind [] (· ++ [b.2.name])) blocks) [] :=
        (foldl_conditionalEdges _ [] m).symm
    _ = m.conditionalBlocks.map fun b => (b.1.toJson, b.2) := by
        rw [foldl_putAt_putAt (fun b : Predicate × Edge => b.1.toJson) (fun b => b.2.kind)
          (fun b => b.2.name), grouped_map_key hwritten, conditionalBlocks, List.map_map,
          List.map_map]
        rfl

end Module

end GatedModules
