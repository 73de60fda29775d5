import GatedModules.Module.Basic
import GatedModules.Proofs.Gathering

/-!
# Edges by condition and kind

Edges can be written down condition by condition and, under each condition, kind by kind. A list of
edges is that arrangement of itself where the edges without a condition come first, those of every
other condition stand together, and among them the kinds are in order.
-/

namespace GatedModules

/-! ## The arrangement of some edges -/

namespace DependencyKind

def place (k : DependencyKind) : Nat := all.idxOf k

theorem mem_all (k : DependencyKind) : k ∈ all := by cases k <;> decide

theorem pairwise_all : all.Pairwise fun k l => k.place < l.place := by decide

end DependencyKind

namespace Edge

/-- The conditions of some edges, each where it occurs first. -/
def conditions (es : List Edge) : List Predicate := distinct (es.filterMap Edge.condition)

/-- The edges without a condition, then those of one condition after the other, by kind. -/
def arranged (es : List Edge) : List Edge :=
  (none :: (conditions es).map some).flatMap fun c =>
    DependencyKind.all.flatMap fun k => es.filter fun e => e.condition = c ∧ e.kind = k

/-- The place of a condition: first that of an edge without one, then those that are listed, in
their order, and at last that of all others. -/
def conditionPlace (ps : List Predicate) : Option Predicate → Nat
  | none => 0
  | some p => ps.idxOf p + 1

def key (e : Edge) : Option Predicate × DependencyKind := (e.condition, e.kind)

def keys (es : List Edge) : List (Option Predicate × DependencyKind) :=
  (none :: (conditions es).map some).flatMap fun c => DependencyKind.all.map fun k => (c, k)

/-- A key comes before another by its condition or, with the same condition, not after it by its
kind. -/
def NotAfter (ps : List Predicate) (x y : Option Predicate × DependencyKind) : Prop :=
  conditionPlace ps x.1 < conditionPlace ps y.1 ∨ x.1 = y.1 ∧ x.2.place ≤ y.2.place

/-- The conditions can be listed so that the edges follow that list and, under each condition, the
kinds; those without a condition come first. -/
def Arranged (es : List Edge) : Prop :=
  ∃ ps, es.Pairwise fun a b => NotAfter ps a.key b.key

variable {es : List Edge} {ps : List Predicate}

theorem mem_conditions {p : Predicate} : p ∈ conditions es ↔ ∃ e ∈ es, e.condition = some p := by
  rw [conditions, mem_distinct, List.mem_filterMap]

theorem nodup_conditions (es : List Edge) : (conditions es).Nodup := nodup_distinct _

theorem arranged_eq_byKeys (es : List Edge) : arranged es = byKeys key (keys es) es := by
  simp only [arranged, byKeys, keys, key, List.flatMap_assoc, List.flatMap_map, Prod.mk.injEq]

theorem key_mem_keys {e : Edge} (he : e ∈ es) : e.key ∈ keys es := by
  refine List.mem_flatMap.2 ⟨e.condition, ?_, List.mem_map.2 ⟨e.kind, e.kind.mem_all, rfl⟩⟩
  cases hc : e.condition with
  | none => exact List.mem_cons_self
  | some p => exact List.mem_cons_of_mem _ (List.mem_map_of_mem (mem_conditions.2 ⟨e, he, hc⟩))

theorem NotAfter.refl (x : Option Predicate × DependencyKind) : NotAfter ps x x :=
  .inr ⟨rfl, Nat.le_refl _⟩

theorem conditionPlace_none_lt (p : Predicate) :
    conditionPlace ps none < conditionPlace ps (some p) := Nat.succ_pos _

theorem pairwise_conditionPlace (h : ps.Nodup) :
    ps.Pairwise fun p q => conditionPlace ps (some p) < conditionPlace ps (some q) := by
  refine List.pairwise_iff_getElem.2 fun i j hi hj hij => ?_
  rw [conditionPlace, conditionPlace, h.idxOf_getElem i hi, h.idxOf_getElem j hj]
  omega

/-- Where the conditions of some edges follow a list, their keys are in strict order. -/
theorem pairwise_keys
    (h : (conditions es).Pairwise fun p q =>
      conditionPlace ps (some p) < conditionPlace ps (some q)) :
    (keys es).Pairwise fun x y => NotAfter ps x y ∧ ¬ NotAfter ps y x := by
  have hplaces : (none :: (conditions es).map some).Pairwise fun c d =>
      conditionPlace ps c < conditionPlace ps d := by
    refine List.pairwise_cons.2 ⟨fun c hc => ?_, List.pairwise_map.2 h⟩
    obtain ⟨p, -, rfl⟩ := List.mem_map.1 hc
    exact conditionPlace_none_lt p
  refine List.pairwise_flatMap.2 ⟨fun c _ => ?_, hplaces.imp fun {c d} hcd x hx y hy => ?_⟩
  · -- Under one condition the kinds decide.
    refine List.pairwise_map.2 (DependencyKind.pairwise_all.imp fun {k l} hkl => ?_)
    refine ⟨.inr ⟨rfl, Nat.le_of_lt hkl⟩, ?_⟩
    rintro (h | ⟨-, h⟩)
    · exact Nat.lt_irrefl _ h
    · exact Nat.not_lt.2 h hkl
  · obtain ⟨k, -, rfl⟩ := List.mem_map.1 hx
    obtain ⟨l, -, rfl⟩ := List.mem_map.1 hy
    refine ⟨.inl hcd, ?_⟩
    rintro (h | ⟨h, -⟩)
    · exact Nat.lt_asymm hcd h
    · exact Nat.ne_of_gt hcd (congrArg _ h)

theorem nodup_keys (es : List Edge) : (keys es).Nodup := by
  refine (pairwise_keys (pairwise_conditionPlace (nodup_conditions es))).imp ?_
  rintro x y h rfl
  exact h.2 (NotAfter.refl x)

theorem arranged_perm (es : List Edge) : (arranged es).Perm es := by
  rw [arranged_eq_byKeys]
  exact byKeys_perm (nodup_keys es) fun e he => key_mem_keys he

theorem pairwise_arranged (es : List Edge) :
    (arranged es).Pairwise fun a b => NotAfter (conditions es) a.key b.key := by
  rw [arranged_eq_byKeys]
  have hkeys := pairwise_keys (pairwise_conditionPlace (nodup_conditions es))
  exact pairwise_byKeys NotAfter.refl (hkeys.imp And.left)

theorem arranged_arranged (es : List Edge) : Arranged (arranged es) := ⟨_, pairwise_arranged es⟩

/-- The conditions of edges that follow a list of conditions follow that list. -/
theorem pairwise_conditions (h : es.Pairwise fun a b => NotAfter ps a.key b.key) :
    (conditions es).Pairwise fun p q =>
      conditionPlace ps (some p) < conditionPlace ps (some q) := by
  have hle : (conditions es).Pairwise fun p q =>
      conditionPlace ps (some p) < conditionPlace ps (some q) ∨ p = q := by
    refine List.Pairwise.sublist (distinct_sublist _) (List.pairwise_filterMap.2 ?_)
    refine h.imp fun {a b} hab p hp q hq => ?_
    rw [NotAfter, key, key, hp, hq] at hab
    exact hab.imp_right fun h => Option.some.inj h.1
  exact (hle.and (nodup_conditions es)).imp fun h => h.1.resolve_right h.2

theorem arranged_eq_self_iff : arranged es = es ↔ Arranged es := by
  constructor
  · intro h
    rw [← h]
    exact arranged_arranged es
  · rintro ⟨ps, h⟩
    rw [arranged_eq_byKeys]
    have hkeys := pairwise_keys (pairwise_conditions h)
    exact byKeys_eq_self NotAfter.refl (hkeys.imp And.right) (fun e he => key_mem_keys he) h

theorem conditions_arranged (es : List Edge) : conditions (arranged es) = conditions es := by
  have horder := pairwise_conditions (pairwise_arranged es)
  have horder' := pairwise_conditionPlace (nodup_conditions es)
  -- Both lists follow the second one, and they have the same members.
  refine List.Perm.eq_of_pairwise (fun p q _ _ hpq hqp => ?_) horder horder' ?_
  · exact absurd hqp (Nat.lt_asymm hpq)
  · rw [List.perm_ext_iff_of_nodup (nodup_conditions _) (nodup_conditions es)]
    intro p
    simp only [mem_conditions, (arranged_perm es).mem_iff]

theorem filter_arranged (es : List Edge) (c : Option Predicate) (k : DependencyKind) :
    ((arranged es).filter fun e => e.condition = c ∧ e.kind = k) =
      es.filter fun e => e.condition = c ∧ e.kind = k := by
  have hfilter := filter_byKeys (k := (c, k)) (nodup_keys es) fun e he => key_mem_keys he
  rw [← arranged_eq_byKeys] at hfilter
  simpa only [key, Prod.mk.injEq] using hfilter

end Edge

end GatedModules
