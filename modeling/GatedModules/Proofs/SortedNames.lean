import GatedModules.Lists
import Mathlib.Data.List.Nodup
import Mathlib.Data.List.Sort

/-!
# Sorted names

Code points have different numbers, so that texts in order of the one are in order of the other, and
names are sorted in one way only.
-/

namespace GatedModules

namespace CodePoint

/-- A half has a number that no character has. -/
theorem value_injective : Function.Injective value := by
  intro p q h
  cases p with
  | char c =>
    cases q with
    | char d => exact congrArg char (Char.toNat_inj.1 h)
    | half j =>
      have hc : c.toNat = 0xD800 + j := h
      have hvalid : c.toNat.isValidChar := c.valid
      omega
  | half i =>
    cases q with
    | char d =>
      have hd : 0xD800 + (i : Nat) = d.toNat := h
      have hvalid : d.toNat.isValidChar := d.valid
      omega
    | half j =>
      have hij : 0xD800 + (i : Nat) = 0xD800 + j := h
      exact congrArg half (Fin.ext (Nat.add_left_cancel hij))

end CodePoint

namespace Text

@[simp] theorem inOrder_nil (qs : List CodePoint) : inOrder [] qs = true := rfl

@[simp] theorem not_inOrder_cons_nil (p : CodePoint) (ps : List CodePoint) :
    ¬ inOrder (p :: ps) [] = true := Bool.false_ne_true

theorem inOrder_cons_iff {p q : CodePoint} {ps qs : List CodePoint} :
    inOrder (p :: ps) (q :: qs) = true ↔
      p.value < q.value ∨ p.value = q.value ∧ inOrder ps qs = true := by
  simp [inOrder]

theorem inOrder_trans {ps qs us : List CodePoint} (hpq : inOrder ps qs = true)
    (hqu : inOrder qs us = true) : inOrder ps us = true := by
  induction ps generalizing qs us with
  | nil => exact inOrder_nil us
  | cons p ps ih =>
    rcases qs with _ | ⟨q, qs⟩
    · exact absurd hpq (not_inOrder_cons_nil p ps)
    · rcases us with _ | ⟨u, us⟩
      · exact absurd hqu (not_inOrder_cons_nil q qs)
      · rw [inOrder_cons_iff] at hpq hqu ⊢
        rcases hpq with hpq | ⟨hpq, hps⟩ <;> rcases hqu with hqu | ⟨hqu, hqs⟩
        · exact .inl (Nat.lt_trans hpq hqu)
        · exact .inl (hqu ▸ hpq)
        · exact .inl (hpq ▸ hqu)
        · exact .inr ⟨hpq.trans hqu, ih hps hqs⟩

theorem inOrder_total (ps qs : List CodePoint) : inOrder ps qs = true ∨ inOrder qs ps = true := by
  induction ps generalizing qs with
  | nil => exact .inl (inOrder_nil qs)
  | cons p ps ih =>
    rcases qs with _ | ⟨q, qs⟩
    · exact .inr (inOrder_nil (p :: ps))
    · rw [inOrder_cons_iff, inOrder_cons_iff]
      rcases Nat.lt_trichotomy p.value q.value with hlt | heq | hgt
      · exact .inl (.inl hlt)
      · exact (ih qs).imp (fun h => .inr ⟨heq, h⟩) fun h => .inr ⟨heq.symm, h⟩
      · exact .inr (.inl hgt)

theorem inOrder_antisymm {ps qs : List CodePoint} (hpq : inOrder ps qs = true)
    (hqp : inOrder qs ps = true) : ps = qs := by
  induction ps generalizing qs with
  | nil =>
    rcases qs with _ | ⟨q, qs⟩
    · rfl
    · exact absurd hqp (not_inOrder_cons_nil q qs)
  | cons p ps ih =>
    rcases qs with _ | ⟨q, qs⟩
    · exact absurd hpq (not_inOrder_cons_nil p ps)
    · rw [inOrder_cons_iff] at hpq hqp
      have hvalue : p.value = q.value := by omega
      have hps : inOrder ps qs = true := (hpq.resolve_left hvalue.not_lt).2
      have hqs : inOrder qs ps = true := (hqp.resolve_left hvalue.not_gt).2
      rw [CodePoint.value_injective hvalue, ih hps hqs]

theorem le_trans {s t u : Text} (hst : s ≤ t) (htu : t ≤ u) : s ≤ u := inOrder_trans hst htu

theorem le_total (s t : Text) : s ≤ t ∨ t ≤ s := inOrder_total s.points t.points

theorem le_antisymm {s t : Text} (hst : s ≤ t) (hts : t ≤ s) : s = t := by
  have hpoints : s.points = t.points := inOrder_antisymm hst hts
  cases s
  cases t
  exact congrArg mk hpoints

/-- Texts stand before each other as the numbers of their code points do. -/
instance : LT Text :=
  ⟨fun s t => List.Lex (· < ·) (s.points.map CodePoint.value) (t.points.map CodePoint.value)⟩

theorem lex_of_inOrder {ps qs : List CodePoint} (h : inOrder ps qs = true) (hne : ps ≠ qs) :
    List.Lex (· < ·) (ps.map CodePoint.value) (qs.map CodePoint.value) := by
  induction ps generalizing qs with
  | nil =>
    rcases qs with _ | ⟨q, qs⟩
    · exact absurd rfl hne
    · exact .nil
  | cons p ps ih =>
    rcases qs with _ | ⟨q, qs⟩
    · exact absurd h (not_inOrder_cons_nil p ps)
    · rcases inOrder_cons_iff.1 h with hlt | ⟨heq, hrest⟩
      · exact .rel hlt
      · obtain rfl := CodePoint.value_injective heq
        exact .cons (ih hrest fun hsame => hne (congrArg _ hsame))

theorem lt_of_le_of_ne {s t : Text} (hle : s ≤ t) (hne : s ≠ t) : s < t := by
  refine lex_of_inOrder hle fun hpoints => hne ?_
  cases s
  cases t
  exact congrArg mk hpoints

end Text

/-- Names in order of which none is there twice stand each before the next. -/
theorem pairwise_lt_of_nodup {names : List Text} (h : names.Pairwise (· ≤ ·))
    (hnodup : names.Nodup) : names.Pairwise (· < ·) :=
  (h.and hnodup).imp fun h => Text.lt_of_le_of_ne h.1 h.2

theorem pairwise_mergeSort_name {α : Type} (name : α → Text) (l : List α) :
    (l.mergeSort fun a b => decide (name a ≤ name b)).Pairwise fun a b => name a ≤ name b := by
  have htrans : ∀ a b c : α, decide (name a ≤ name b) = true → decide (name b ≤ name c) = true →
      decide (name a ≤ name c) = true := by
    intro a b c hab hbc
    exact decide_eq_true (Text.le_trans (of_decide_eq_true hab) (of_decide_eq_true hbc))
  have htotal : ∀ a b : α, (decide (name a ≤ name b) || decide (name b ≤ name a)) = true := by
    intro a b
    simpa using Text.le_total (name a) (name b)
  exact (List.pairwise_mergeSort htrans htotal l).imp of_decide_eq_true

theorem pairwise_sortNames (names : List Text) : (sortNames names).Pairwise (· ≤ ·) :=
  pairwise_mergeSort_name id names

theorem sortNames_perm (names : List Text) : (sortNames names).Perm names :=
  List.mergeSort_perm names _

theorem sortNames_eq_of_sorted {names sorted : List Text} (h : names.Perm sorted)
    (hsorted : sorted.Pairwise (· ≤ ·)) : sortNames names = sorted :=
  List.Perm.eq_of_pairwise (fun _ _ _ _ => Text.le_antisymm) (pairwise_sortNames names) hsorted
    ((sortNames_perm names).trans h)

theorem sortNames_eq_of_perm {names names' : List Text} (h : names.Perm names') :
    sortNames names = sortNames names' :=
  sortNames_eq_of_sorted (h.trans (sortNames_perm names').symm) (pairwise_sortNames names')

/-- Only which names there are counts, not where they stand or how often. -/
theorem sortNames_distinct_eq {names names' : List Text} (h : ∀ a, a ∈ names ↔ a ∈ names') :
    sortNames (distinct names) = sortNames (distinct names') := by
  refine sortNames_eq_of_perm ?_
  rw [List.perm_ext_iff_of_nodup (nodup_distinct names) (nodup_distinct names')]
  intro a
  rw [mem_distinct, mem_distinct, h]

end GatedModules
