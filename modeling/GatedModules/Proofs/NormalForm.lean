import GatedModules.Proofs.EdgeTables
import GatedModules.Proofs.Reloading

/-!
# The normal form of a module

Whatever the order of its edges, a module that is written down and read again has them in canonical
order, and is then written down in the same way. Only a module with its edges in that order already
comes back as it was.
-/

namespace GatedModules

/-! ## Elements that stand together -/

/-- Elements with one key stand together: once another key has come, that key does not come
again. -/
def Contiguous [DecidableEq κ] (key : α → κ) : List α → Prop
  | [] => True
  | a :: as => (∀ b ∈ as.dropWhile fun b => key b = key a, key b ≠ key a) ∧ Contiguous key as

/-- Where the next element has another key, the key of the first does not come again. -/
theorem Contiguous.ne_of_ne [DecidableEq κ] {key : α → κ} {a b : α} {as : List α}
    (h : Contiguous key (a :: b :: as)) (hne : key b ≠ key a) : ∀ c ∈ b :: as, key c ≠ key a := by
  have hall := h.1
  rwa [List.dropWhile_cons_of_neg (by simpa using hne)] at hall

/-! ## The canonical order -/

namespace Edge

/-- The edges without a condition come first, those of every other condition stand together, and
under each condition the kinds are in order. -/
structure Canonical (es : List Edge) : Prop where
  unconditional : es.Pairwise fun a b => b.condition = none → a.condition = none
  together : Contiguous Edge.condition es
  kinds : es.Pairwise fun a b => a.condition = b.condition → a.kind.place ≤ b.kind.place

variable {es : List Edge} {ps : List Predicate}

theorem Canonical.tail {a : Edge} (h : Canonical (a :: es)) : Canonical es :=
  ⟨h.unconditional.tail, h.together.2, h.kinds.tail⟩

theorem conditionPlace_cons {p : Predicate} {c : Option Predicate} (hc : c ≠ some p) :
    conditionPlace (p :: ps) c = if c = none then 0 else conditionPlace ps c + 1 := by
  cases c with
  | none => rfl
  | some q =>
    have hqp : q ≠ p := fun h => hc (congrArg some h)
    simp [conditionPlace, List.idxOf_cons_ne _ (Ne.symm hqp)]

theorem NotAfter.cons {p : Predicate} {x y : Option Predicate × DependencyKind}
    (h : NotAfter ps x y) (hx : x.1 ≠ some p) (hy : y.1 ≠ some p) : NotAfter (p :: ps) x y := by
  rcases h with hlt | hkind
  · left
    rw [conditionPlace_cons hx, conditionPlace_cons hy]
    have hsome : y.1 ≠ none := by
      intro hnone
      simp [hnone, conditionPlace] at hlt
    rw [if_neg hsome]
    split
    · exact Nat.succ_pos _
    · exact Nat.succ_lt_succ hlt
  · exact .inr hkind

theorem contiguous_of_pairwise (h : es.Pairwise fun a b => NotAfter ps a.key b.key) :
    Contiguous Edge.condition es := by
  induction es with
  | nil => trivial
  | cons a es ih =>
    obtain ⟨ha, hes⟩ := List.pairwise_cons.1 h
    refine ⟨fun b hb hba => ?_, ih hes⟩
    -- The first edge `c` with another condition comes after `a`, and `b` not before `c`.
    have hsub := List.dropWhile_sublist (l := es) fun b => b.condition = a.condition
    have hfirst := List.head?_dropWhile_not (fun b => b.condition = a.condition) es
    cases hdrop : es.dropWhile fun b => b.condition = a.condition with
    | nil =>
      rw [hdrop] at hb
      cases hb
    | cons c rest =>
      rw [hdrop] at hb hsub hfirst
      have hca : c.condition ≠ a.condition := by simpa using hfirst
      have hac := (ha c (hsub.subset List.mem_cons_self)).resolve_right fun h => hca h.1.symm
      rcases List.mem_cons.1 hb with rfl | hb
      · exact hca hba
      · have hcb := (List.pairwise_cons.1 (hes.sublist hsub)).1 b hb
        rcases hcb with hcb | hcb
        · simp only [key, hba] at hac hcb
          omega
        · exact hca (hcb.1.trans hba)

theorem canonical_of_arranged (h : Arranged es) : Canonical es := by
  obtain ⟨ps, h⟩ := h
  refine ⟨h.imp fun {a b} hab hb => ?_, contiguous_of_pairwise h, h.imp fun {a b} hab heq => ?_⟩
  · rcases hab with hlt | hkind
    · simp [key, hb, conditionPlace] at hlt
    · exact hkind.1.trans hb
  · rcases hab with hlt | hkind
    · simp [key, heq] at hlt
    · exact hkind.2

/-- The conditions are listed from the last edge to the first, each when its run begins. -/
theorem arranged_of_canonical (h : Canonical es) : Arranged es := by
  induction es with
  | nil => exact ⟨[], .nil⟩
  | cons a es ih =>
    obtain ⟨ps, hps⟩ := ih h.tail
    obtain ⟨hnone, -⟩ := List.pairwise_cons.1 h.unconditional
    obtain ⟨hkinds, -⟩ := List.pairwise_cons.1 h.kinds
    rcases es with _ | ⟨c, es⟩
    · exact ⟨[], List.pairwise_singleton _ _⟩
    by_cases hca : c.condition = a.condition
    · -- The edge belongs to the run that is there.
      refine ⟨ps, List.pairwise_cons.2 ⟨fun b hb => ?_, hps⟩⟩
      rcases List.mem_cons.1 hb with rfl | hb'
      · exact .inr ⟨hca.symm, hkinds b hb hca.symm⟩
      · rcases (List.pairwise_cons.1 hps).1 b hb' with hlt | hkind
        · left
          simpa [key, hca] using hlt
        · have hab : a.condition = b.condition := hca.symm.trans hkind.1
          exact .inr ⟨hab, hkinds b hb hab⟩
    · have hne := h.together.ne_of_ne hca
      cases ha : a.condition with
      | none =>
        refine ⟨ps, List.pairwise_cons.2 ⟨fun b hb => .inl ?_, hps⟩⟩
        obtain ⟨q, hq⟩ := Option.ne_none_iff_exists'.1 (ha ▸ hne b hb)
        rw [key, key, ha, hq]
        exact conditionPlace_none_lt q
      | some p =>
        -- A new run: its condition is listed before those that come later.
        rw [ha] at hne
        have hlater := hps.imp_of_mem fun {b d} hb hd hbd => hbd.cons (hne b hb) (hne d hd)
        refine ⟨p :: ps, List.pairwise_cons.2 ⟨fun b hb => .inl ?_, hlater⟩⟩
        have hsome : b.condition ≠ none := by
          intro hb'
          simp [hnone b hb hb'] at ha
        rw [key, key, ha, conditionPlace_cons (hne b hb), if_neg hsome]
        obtain ⟨q, hq⟩ := Option.ne_none_iff_exists'.1 hsome
        simp [conditionPlace, hq]

theorem canonical_iff_arranged : Canonical es ↔ Arranged es :=
  ⟨arranged_of_canonical, canonical_of_arranged⟩

/-- The members for the blocks that some edges fill in turn, if there are any. -/
def jsonInTurn (es : List Edge) : List (Text × Json) :=
  let blocks := (blocksInTurn es).map fun block =>
    Json.obj (("when", block.1) :: block.2.map fun part => (part.1.name, .texts part.2))
  if blocks.isEmpty then [] else [("conditional", .arr blocks)]

end Edge

namespace Module

variable {m : Module}

theorem conditionalJson_eq (hm : m.Named) : m.conditionalJson = Edge.jsonInTurn m.edges := by
  unfold conditionalJson Edge.jsonInTurn
  rw [blocksInTurn_eq hm, List.map_map]
  rfl

/-- A module whose names are not empty is written with the blocks that its edges fill in turn. What
is written is read with the same name, mode and edges, and the unconditional dependencies in their
order; it is written in the same way again, and it is the module itself just where the edges of that
were in canonical order. -/
theorem normal_form (m : Module) (hm : m.Named) :
    m.toJson = .obj (("name", .str m.name) :: ("pch_mode", .str m.pchMode.name) ::
      (m.unconditionalJson ++ Edge.jsonInTurn m.edges)) ∧
    ∃ m', ofJson m.toJson = .ok m' ∧ m'.name = m.name ∧ m'.pchMode = m.pchMode ∧
      m'.edges = Edge.arranged m.edges ∧ m'.edges.Perm m.edges ∧
      (∀ kind, m'.unconditional kind = m.unconditional kind) ∧
      Json.SameValue m'.toJson m.toJson ∧ (m' = m ↔ Edge.Canonical m.edges) := by
  refine ⟨by rw [toJson, conditionalJson_eq hm], m.arranged, ofJson_toJson hm, rfl, rfl, rfl,
    Edge.arranged_perm m.edges, fun kind => ?_, sameValue_toJson_arranged m, ?_⟩
  · rw [unconditional_eq, unconditional_eq, namesUnder_arranged]
  · rw [arranged_eq_self_iff, Edge.canonical_iff_arranged]

end Module

/-! ## Edges in no order -/

namespace Scattered

def x : Predicate := .featureEnabled "X"

def y : Predicate := .negation (.featureEnabled "Y")

/-- A conditional edge comes first, and the edges to `D` and `E`, with one condition, stand
apart. -/
def module : Module where
  name := "Hub"
  pchMode := .useExplicit
  edges := [⟨"D", .dynamic, some x⟩, ⟨"B", .exported, none⟩, ⟨"C", .internal, some y⟩,
    ⟨"E", .exported, some x⟩]
  name_ne := by decide
  nodup := by decide

theorem named : module.Named := by
  have hx : x.Named := by
    rw [x, Predicate.Named]
    decide
  have hy : y.Named := by
    rw [y, Predicate.Named, Predicate.Named]
    decide
  have hnames : ∀ e ∈ module.edges, e.name ≠ "" := by decide
  have hconditions : ∀ e ∈ module.edges, ∀ p, e.condition = some p → p.Named := by
    simp [module, hx, hy]
  exact fun e he => ⟨hnames e he, hconditions e he⟩

theorem arranged_names :
    (Edge.arranged module.edges).map Edge.name = (["B", "E", "D", "C"] : List Text) := by decide

end Scattered

/-- The edge without a condition comes back first, and `E` beside `D`. -/
theorem Module.scattered_normal_form :
    Scattered.module.Named ∧
    ∃ m', ofJson Scattered.module.toJson = .ok m' ∧
      m'.edges.map Edge.name = (["B", "E", "D", "C"] : List Text) ∧
      Json.SameValue m'.toJson Scattered.module.toJson ∧
      ¬ Edge.Canonical Scattered.module.edges := by
  obtain ⟨-, m', hm', -, -, hedges, -, -, hsame, hiff⟩ :=
    normal_form Scattered.module Scattered.named
  have hnames := Scattered.arranged_names
  rw [← hedges] at hnames
  refine ⟨Scattered.named, m', hm', hnames, hsame, fun hcanonical => ?_⟩
  rw [hiff.2 hcanonical] at hnames
  exact absurd hnames (by decide)

end GatedModules
