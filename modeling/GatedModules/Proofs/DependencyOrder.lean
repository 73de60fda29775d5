import GatedModules.Text.Basic
import Mathlib.Data.List.Induction
import Mathlib.Data.List.Nodup

/-!
# Dependency orders

A dependency order has every module after all that it leads to. Of the dependency orders of some
modules, compared place by place, the least is the one that always goes on with the first of the
modules that may come next. So what two least orders have in common stands in one order in both.
-/

namespace GatedModules

/-- An order of some modules that has each once, after all that it leads to. -/
structure DependencyOrder (leads : Text → Text → Prop) (member : Text → Prop)
    (order : List Text) : Prop where
  nodup : order.Nodup
  mem_iff : ∀ a, a ∈ order ↔ member a
  after : ∀ before a rest, order = before ++ a :: rest → ∀ b, leads a b → b ∈ before

/-- The dependency order that stands before all others when the positions of the modules are
compared from the first place on. -/
def LeastOrder (leads : Text → Text → Prop) (member : Text → Prop) (position : Text → Nat)
    (order : List Text) : Prop :=
  DependencyOrder leads member order ∧
    ∀ other, DependencyOrder leads member other → other ≠ order →
      List.Lex (· < ·) (order.map position) (other.map position)

/-- A module that may come next: it has not come yet and all that it leads to has. -/
def Available (leads : Text → Text → Prop) (member : Text → Prop) (before : List Text)
    (a : Text) : Prop :=
  member a ∧ a ∉ before ∧ ∀ b, leads a b → b ∈ before

/-- Every module is the first by position of those that may come at its place. -/
def Greedy (leads : Text → Text → Prop) (member : Text → Prop) (position : Text → Nat)
    (order : List Text) : Prop :=
  ∀ before a rest, order = before ++ a :: rest →
    Available leads member before a ∧
      ∀ b, Available leads member before b → position a ≤ position b

variable {leads : Text → Text → Prop} {member : Text → Prop} {position : Text → Nat}

theorem LeastOrder.unique {order other : List Text} (h : LeastOrder leads member position order)
    (h' : LeastOrder leads member position other) : other = order := by
  by_contra hne
  exact List.lex_asymm Nat.lt_asymm (h.2 other h'.1 hne) (h'.2 order h.1 (Ne.symm hne))

theorem DependencyOrder.available {before rest : List Text} {a : Text}
    (h : DependencyOrder leads member (before ++ a :: rest)) :
    Available leads member before a := by
  refine ⟨(h.mem_iff a).1 (by simp), fun ha => ?_, h.after before a rest rfl⟩
  exact (List.nodup_append.1 h.nodup).2.2 a ha a List.mem_cons_self rfl

/-- Only what the edges from members say counts. -/
theorem DependencyOrder.congr {leads' : Text → Text → Prop} {member' : Text → Prop}
    {order : List Text} (h : DependencyOrder leads member order)
    (hmember : ∀ a, member a ↔ member' a)
    (hleads : ∀ a b, member a → leads' a b → leads a b) :
    DependencyOrder leads' member' order := by
  refine ⟨h.nodup, fun a => (h.mem_iff a).trans (hmember a), fun before a rest heq b hab => ?_⟩
  have ha : member a := (h.mem_iff a).1 (by simp [heq])
  exact h.after before a rest heq b (hleads a b ha hab)

theorem LeastOrder.congr {leads' : Text → Text → Prop} {member' : Text → Prop}
    {order : List Text} (h : LeastOrder leads member position order)
    (hmember : ∀ a, member a ↔ member' a)
    (hleads : ∀ a b, member a → (leads a b ↔ leads' a b)) :
    LeastOrder leads' member' position order := by
  refine ⟨h.1.congr hmember fun a b ha => (hleads a b ha).2, fun other hother hne => ?_⟩
  refine h.2 other (hother.congr (fun a => (hmember a).symm) fun a b ha => ?_) hne
  exact (hleads a b ((hmember a).2 ha)).1

/-- Once another module has come, those may come next that could before, and those that lead to
it and to nothing else that is missing. -/
theorem available_concat_iff {before : List Text} {a b : Text} (hb : b ∉ before) :
    Available leads member before a ∧ a ≠ b ↔
      Available leads member (before ++ [b]) a ∧ ¬ leads a b := by
  constructor
  · rintro ⟨⟨ha, hnew, hleads⟩, hne⟩
    refine ⟨⟨ha, by simp [hnew, hne], fun d hd => List.mem_append_left _ (hleads d hd)⟩, ?_⟩
    exact fun hab => hb (hleads b hab)
  · rintro ⟨⟨ha, hnew, hleads⟩, hnot⟩
    rw [List.mem_append, List.mem_singleton, not_or] at hnew
    refine ⟨⟨ha, hnew.1, fun d hd => ?_⟩, hnew.2⟩
    refine (List.mem_append.1 (hleads d hd)).resolve_right fun hlast => ?_
    exact hnot (List.mem_singleton.1 hlast ▸ hd)

/-! ## Greedy orders -/

theorem greedy_nil : Greedy leads member position [] := by
  intro before a rest h
  simp at h

theorem Greedy.concat {order : List Text} {a : Text} (h : Greedy leads member position order)
    (ha : Available leads member order a)
    (hfirst : ∀ b, Available leads member order b → position a ≤ position b) :
    Greedy leads member position (order ++ [a]) := by
  intro before b rest heq
  rcases List.eq_nil_or_concat rest with rfl | ⟨rest, z, rfl⟩
  · -- The split is at the new end.
    obtain ⟨hbefore, hb⟩ := List.append_inj' heq rfl
    cases hb
    exact hbefore ▸ ⟨ha, hfirst⟩
  · -- The split is inside the order that was greedy before.
    rw [List.concat_eq_append, ← List.cons_append, ← List.append_assoc] at heq
    exact h before b rest (List.append_inj' heq rfl).1

theorem Greedy.of_append {before after : List Text}
    (h : Greedy leads member position (before ++ after)) :
    Greedy leads member position before := by
  intro before' a rest heq
  exact h before' a (rest ++ after) (by simp [heq])

theorem Greedy.nodup {order : List Text} (h : Greedy leads member position order) :
    order.Nodup := by
  induction order using List.reverseRecOn with
  | nil => simp
  | append_singleton order a ih =>
    obtain ⟨-, hnew, -⟩ := (h order a [] rfl).1
    rw [← List.concat_eq_append]
    exact (ih h.of_append).concat hnew

theorem Greedy.member_of_mem {order : List Text} (h : Greedy leads member position order) {a : Text}
    (ha : a ∈ order) : member a := by
  obtain ⟨before, rest, heq⟩ := List.append_of_mem ha
  exact (h before a rest heq).1.1

theorem Greedy.mem_of_leads {order : List Text} (h : Greedy leads member position order)
    {a b : Text} (ha : a ∈ order) (hab : leads a b) : b ∈ order := by
  obtain ⟨before, rest, rfl⟩ := List.append_of_mem ha
  exact List.mem_append_left _ ((h before a rest rfl).1.2.2 b hab)

theorem Greedy.dependencyOrder {order : List Text} (h : Greedy leads member position order)
    (hall : ∀ a, member a → a ∈ order) : DependencyOrder leads member order where
  nodup := h.nodup
  mem_iff a := ⟨h.member_of_mem, hall a⟩
  after before a rest heq := (h before a rest heq).1.2.2

/-- Where a dependency order leaves a greedy one, it goes on with a later module. -/
theorem Greedy.lex {before order other : List Text}
    (hinj : ∀ a b, member a → position a = position b → a = b)
    (h : Greedy leads member position (before ++ order))
    (hother : DependencyOrder leads member (before ++ other)) (hne : other ≠ order) :
    List.Lex (· < ·) (order.map position) (other.map position) := by
  induction order generalizing before other with
  | nil =>
    cases other with
    | nil => exact absurd rfl hne
    | cons b other => exact .nil
  | cons a order ih =>
    obtain ⟨hnext, hfirst⟩ := h before a order rfl
    cases other with
    | nil =>
      -- The other order has every member, so it cannot end where a member may still come.
      have ha : a ∈ before := by simpa using (hother.mem_iff a).2 hnext.1
      exact absurd ha hnext.2.1
    | cons b other =>
      -- What the other goes on with may come next too, so it is not before `a`.
      rcases Nat.lt_or_eq_of_le (hfirst b hother.available) with hlt | heq
      · exact .rel hlt
      · obtain rfl := hinj a b hnext.1 heq
        have hgreedy : Greedy leads member position ((before ++ [a]) ++ order) := by simpa using h
        have hother' : DependencyOrder leads member ((before ++ [a]) ++ other) := by
          simpa using hother
        exact .cons (ih hgreedy hother' fun heq => hne (heq ▸ rfl))

theorem Greedy.leastOrder {order : List Text} (h : Greedy leads member position order)
    (hinj : ∀ a b, member a → position a = position b → a = b)
    (hall : ∀ a, member a → a ∈ order) : LeastOrder leads member position order := by
  refine ⟨h.dependencyOrder hall, fun other hother hne => ?_⟩
  have hgreedy : Greedy leads member position ([] ++ order) := h
  exact hgreedy.lex hinj hother hne

/-! ## Least orders are greedy

In a dependency order nothing leads to what comes later. So a module that may come next can be moved
up, and where it is declared earlier than the module that stands there, the order was not the
least. -/

theorem DependencyOrder.not_mem_rest {before rest : List Text} {a b : Text}
    (h : DependencyOrder leads member (before ++ a :: rest)) (hb : b ∈ before) :
    b ∉ a :: rest :=
  fun hrest => (List.nodup_append.1 h.nodup).2.2 b hb b hrest rfl

theorem DependencyOrder.mem_of_leads {order : List Text} (h : DependencyOrder leads member order)
    {a b : Text} (ha : a ∈ order) (hab : leads a b) : b ∈ order := by
  obtain ⟨before, rest, rfl⟩ := List.append_of_mem ha
  exact List.mem_append_left _ (h.after before a rest rfl b hab)

theorem DependencyOrder.not_leads_self {order : List Text} (h : DependencyOrder leads member order)
    {a : Text} (ha : a ∈ order) : ¬ leads a a := by
  intro hself
  obtain ⟨before, rest, rfl⟩ := List.append_of_mem ha
  exact h.not_mem_rest (h.after before a rest rfl a hself) List.mem_cons_self

theorem DependencyOrder.pairwise {order : List Text} (h : DependencyOrder leads member order) :
    order.Pairwise fun a b => ¬ leads a b := by
  rw [List.pairwise_iff_forall_sublist]
  intro a b hsub hab
  obtain ⟨first, second, rfl, ha, hb⟩ := List.cons_sublist_iff.1 hsub
  obtain ⟨before, rest, rfl⟩ := List.append_of_mem ha
  rw [List.append_assoc, List.cons_append] at h
  have hbefore := h.after before a (rest ++ second) rfl b hab
  refine h.not_mem_rest hbefore (List.mem_cons_of_mem a (List.mem_append_right rest ?_))
  exact List.singleton_sublist.1 hb

theorem DependencyOrder.of_pairwise {order : List Text} (hnodup : order.Nodup)
    (hmem : ∀ a, a ∈ order ↔ member a) (hclosed : ∀ a b, a ∈ order → leads a b → b ∈ order)
    (hself : ∀ a ∈ order, ¬ leads a a) (hlater : order.Pairwise fun a b => ¬ leads a b) :
    DependencyOrder leads member order := by
  refine ⟨hnodup, hmem, ?_⟩
  rintro before a rest rfl b hab
  have ha : a ∈ before ++ a :: rest := by simp
  obtain ⟨hrest, -⟩ := List.pairwise_cons.1 (List.pairwise_append.1 hlater).2.1
  rcases List.mem_append.1 (hclosed a b ha hab) with hb | hb
  · exact hb
  · rcases List.mem_cons.1 hb with rfl | hb
    · exact absurd hab (hself b ha)
    · exact absurd hab (hrest b hb)

/-- What may come next can come next. -/
theorem DependencyOrder.advance {before rest : List Text} {b : Text}
    (h : DependencyOrder leads member (before ++ rest))
    (hb : Available leads member before b) :
    DependencyOrder leads member (before ++ b :: rest.erase b) := by
  have hrest : b ∈ rest := (List.mem_append.1 ((h.mem_iff b).2 hb.1)).resolve_left hb.2.1
  have hperm : (before ++ b :: rest.erase b).Perm (before ++ rest) :=
    (List.perm_cons_erase hrest).symm.append_left before
  obtain ⟨-, -, hdisjoint⟩ := List.nodup_append.1 h.nodup
  obtain ⟨hbefore, hpairs, hcross⟩ := List.pairwise_append.1 h.pairwise
  refine .of_pairwise (hperm.nodup_iff.2 h.nodup) (fun a => hperm.mem_iff.trans (h.mem_iff a)) ?_ ?_
    (List.pairwise_append.2 ⟨hbefore, List.pairwise_cons.2 ⟨?_, ?_⟩, ?_⟩)
  · intro a c ha hac
    exact hperm.mem_iff.2 (h.mem_of_leads (hperm.mem_iff.1 ha) hac)
  · exact fun a ha => h.not_leads_self (hperm.mem_iff.1 ha)
  · -- All that `b` leads to has come before.
    intro c hc hbc
    exact hdisjoint c (hb.2.2 c hbc) c (List.mem_of_mem_erase hc) rfl
  · exact hpairs.sublist List.erase_sublist
  · intro a ha c hc
    rcases List.mem_cons.1 hc with rfl | hc
    · exact hcross a ha c hrest
    · exact hcross a ha c (List.mem_of_mem_erase hc)

/-- Where two sequences part, the one that stands before the other has no greater entry. -/
theorem le_of_lex_append {before order other : List Nat} {m n : Nat}
    (h : List.Lex (· < ·) (before ++ m :: order) (before ++ n :: other)) : m ≤ n := by
  induction before with
  | nil =>
    cases h with
    | rel hlt => exact Nat.le_of_lt hlt
    | cons _ => exact Nat.le_refl m
  | cons k before ih =>
    cases h with
    | rel hlt => exact absurd hlt (Nat.lt_irrefl k)
    | cons hrest => exact ih hrest

theorem LeastOrder.greedy {order : List Text} (h : LeastOrder leads member position order) :
    Greedy leads member position order := by
  rintro before a rest rfl
  refine ⟨h.1.available, fun b hb => ?_⟩
  by_contra hlt
  have hne : before ++ b :: (a :: rest).erase b ≠ before ++ a :: rest := by
    intro heq
    obtain rfl := (List.cons.inj (List.append_cancel_left heq)).1
    exact hlt (Nat.le_refl _)
  have hlex := h.2 _ (h.1.advance hb) hne
  rw [List.map_append, List.map_append, List.map_cons, List.map_cons] at hlex
  exact hlt (le_of_lex_append hlex)

/-! ## Other positions

Only how the positions of the members compare counts. -/

theorem Greedy.congr_position {position' : Text → Nat} {order : List Text}
    (h : Greedy leads member position order)
    (hposition : ∀ a b, member a → member b →
      (position a ≤ position b ↔ position' a ≤ position' b)) :
    Greedy leads member position' order := by
  intro before a rest heq
  obtain ⟨hnext, hfirst⟩ := h before a rest heq
  exact ⟨hnext, fun b hb => (hposition a b hnext.1 hb.1).1 (hfirst b hb)⟩

theorem LeastOrder.congr_position {position' : Text → Nat} {order : List Text}
    (h : LeastOrder leads member position order)
    (hinj : ∀ a b, member a → position' a = position' b → a = b)
    (hposition : ∀ a b, member a → member b →
      (position a ≤ position b ↔ position' a ≤ position' b)) :
    LeastOrder leads member position' order :=
  (h.greedy.congr_position hposition).leastOrder hinj fun a => (h.1.mem_iff a).2

/-! ## Parts of an order -/

/-- What is left of a greedy order is greedy, if the part that is kept is not led out of: whatever
may come next in the part may come next in the whole. -/
theorem Greedy.filter {order : List Text} (h : Greedy leads member position order)
    (part : Text → Prop) [DecidablePred part] (hpart : ∀ a b, part a → leads a b → part b) :
    Greedy leads (fun a => member a ∧ part a) position (order.filter part) := by
  induction order using List.reverseRecOn with
  | nil => exact greedy_nil
  | append_singleton order a ih =>
    obtain ⟨⟨hmember, hnew, hleads⟩, hfirst⟩ := h order a [] rfl
    rw [List.filter_append]
    by_cases ha : part a
    · rw [List.filter_cons_of_pos (by simpa using ha), List.filter_nil]
      refine (ih h.of_append).concat ⟨⟨hmember, ha⟩, ?_, ?_⟩ ?_
      · exact fun hmem => hnew (List.mem_filter.1 hmem).1
      · exact fun b hab => List.mem_filter.2 ⟨hleads b hab, by simpa using hpart a b ha hab⟩
      · rintro b ⟨⟨hb, hpb⟩, hbnew, hbleads⟩
        refine hfirst b ⟨hb, fun hmem => hbnew ?_,
          fun c hbc => (List.mem_filter.1 (hbleads c hbc)).1⟩
        exact List.mem_filter.2 ⟨hmem, by simpa using hpb⟩
    · rw [List.filter_cons_of_neg (by simpa using ha), List.filter_nil, List.append_nil]
      exact ih h.of_append

theorem LeastOrder.filter {order : List Text} (h : LeastOrder leads member position order)
    (hinj : ∀ a b, member a → position a = position b → a = b) (part : Text → Prop)
    [DecidablePred part] (hpart : ∀ a b, part a → leads a b → part b) :
    LeastOrder leads (fun a => member a ∧ part a) position (order.filter part) := by
  refine (h.greedy.filter part hpart).leastOrder (fun a b ha => hinj a b ha.1) ?_
  exact fun a ha => List.mem_filter.2 ⟨(h.1.mem_iff a).2 ha.1, by simpa using ha.2⟩

/-- Two least orders have what is common to them in the same order. -/
theorem LeastOrder.filter_mem_comm {member' : Text → Prop} {order order' : List Text}
    (h : LeastOrder leads member position order) (h' : LeastOrder leads member' position order')
    (hinj : ∀ a b, member a → position a = position b → a = b)
    (hinj' : ∀ a b, member' a → position a = position b → a = b) :
    order.filter (· ∈ order') = order'.filter (· ∈ order) := by
  have hleft := h.filter hinj (· ∈ order') fun _ _ => h'.1.mem_of_leads
  have hright := h'.filter hinj' (· ∈ order) fun _ _ => h.1.mem_of_leads
  refine (hleft.unique (hright.congr (fun a => ?_) fun _ _ _ => Iff.rfl)).symm
  rw [h.1.mem_iff, h'.1.mem_iff, and_comm]

end GatedModules
