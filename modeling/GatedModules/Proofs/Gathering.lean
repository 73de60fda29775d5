import GatedModules.Lists
import Mathlib.Data.List.Induction
import Mathlib.Data.List.Lattice
import Mathlib.Data.List.Nodup

/-!
# Gathering the elements of a list

The elements of a list can be gathered by a key: each once, where it occurs first, those with the
first key before those with the second, or in a table that is filled element by element.
-/

namespace GatedModules

/-! ## First occurrences -/

/-- The elements of a list, each once, in the order in which they first occur. -/
structure FirstOccurrences [DecidableEq α] (firsts all : List α) : Prop where
  nodup : firsts.Nodup
  mem_iff : ∀ a, a ∈ firsts ↔ a ∈ all
  in_order : firsts.Pairwise fun a b => all.idxOf a < all.idxOf b

theorem firstOccurrences_distinct [DecidableEq α] (all : List α) :
    FirstOccurrences (distinct all) all := by
  refine ⟨nodup_distinct all, fun _ => mem_distinct, ?_⟩
  induction all with
  | nil => exact .nil
  | cons a as ih =>
    have hlater : ∀ b ∈ (distinct as).filter (· ≠ a), (a :: as).idxOf b = as.idxOf b + 1 := by
      intro b hb
      have hne : b ≠ a := by simpa using (List.mem_filter.1 hb).2
      have hbeq : (a == b) = false := beq_false_of_ne hne.symm
      rw [List.idxOf_cons, hbeq, cond_false]
    rw [distinct, List.pairwise_cons]
    constructor
    · intro b hb
      rw [List.idxOf_cons_self, hlater b hb]
      exact Nat.succ_pos _
    · refine (ih.filter _).imp_of_mem fun {b c} hb hc hlt => ?_
      rw [hlater b hb, hlater c hc]
      exact Nat.succ_lt_succ hlt

theorem FirstOccurrences.unique [DecidableEq α] {firsts firsts' all : List α}
    (h : FirstOccurrences firsts all) (h' : FirstOccurrences firsts' all) : firsts = firsts' := by
  refine List.Perm.eq_of_pairwise (fun a b _ _ hab hba => ?_) h.in_order h'.in_order ?_
  · exact absurd hba (Nat.lt_asymm hab)
  · rw [List.perm_ext_iff_of_nodup h.nodup h'.nodup]
    intro a
    rw [h.mem_iff, h'.mem_iff]

/-! ## Elements by key -/

/-- The elements with the first of some keys, then those with the second, and so on. -/
def byKeys [DecidableEq κ] (key : α → κ) (keys : List κ) (as : List α) : List α :=
  keys.flatMap fun k => as.filter fun a => key a = k

section

variable [DecidableEq κ] {key : α → κ} {k : κ} {ks : List κ} {as : List α}

theorem byKeys_cons : byKeys key (k :: ks) as = as.filter (key · = k) ++ byKeys key ks as :=
  List.flatMap_cons

theorem byKeys_filter_ne (hk : k ∉ ks) :
    byKeys key ks (as.filter (key · ≠ k)) = byKeys key ks as := by
  refine List.flatMap_congr fun l hl => ?_
  rw [List.filter_filter]
  refine List.filter_congr fun a _ => ?_
  have hne : l ≠ k := fun h => hk (h ▸ hl)
  by_cases ha : key a = l <;> simp [ha, hne]

theorem forall_mem_filter_ne (has : ∀ a ∈ as, key a ∈ k :: ks) :
    ∀ a ∈ as.filter (key · ≠ k), key a ∈ ks := by
  intro a ha
  obtain ⟨ha, hne⟩ := List.mem_filter.1 ha
  exact (List.mem_cons.1 (has a ha)).resolve_left (by simpa using hne)

omit [DecidableEq κ] in
theorem eq_nil_of_no_key (has : ∀ a ∈ as, key a ∈ []) : as = [] :=
  List.eq_nil_iff_forall_not_mem.2 fun a ha => List.not_mem_nil (has a ha)

theorem byKeys_perm (hks : ks.Nodup) (has : ∀ a ∈ as, key a ∈ ks) :
    (byKeys key ks as).Perm as := by
  induction ks generalizing as with
  | nil => rw [eq_nil_of_no_key has, byKeys, List.flatMap_nil]
  | cons k ks ih =>
    obtain ⟨hk, hks⟩ := List.nodup_cons.1 hks
    rw [byKeys_cons, ← byKeys_filter_ne hk]
    refine ((ih hks (forall_mem_filter_ne has)).append_left _).trans ?_
    simpa using List.filter_append_perm (fun a => decide (key a = k)) as

theorem filter_byKeys (hks : ks.Nodup) (has : ∀ a ∈ as, key a ∈ ks) :
    (byKeys key ks as).filter (key · = k) = as.filter (key · = k) := by
  induction ks generalizing as with
  | nil => rw [eq_nil_of_no_key has, byKeys, List.flatMap_nil]
  | cons l ks ih =>
    obtain ⟨hl, hks⟩ := List.nodup_cons.1 hks
    rw [byKeys_cons, List.filter_append, ← byKeys_filter_ne hl, ih hks (forall_mem_filter_ne has),
      List.filter_filter, List.filter_filter]
    by_cases hlk : l = k
    · subst hlk
      simp
    · have hfirst : as.filter (fun a => decide (key a = k) && decide (key a = l)) = [] := by
        refine List.filter_eq_nil_iff.2 fun a _ ha => hlk ?_
        rw [Bool.and_eq_true, decide_eq_true_eq, decide_eq_true_eq] at ha
        exact ha.2.symm.trans ha.1
      rw [hfirst, List.nil_append]
      refine List.filter_congr fun a _ => ?_
      by_cases ha : key a = k <;> simp [ha, Ne.symm hlk]

theorem filter_append_filter_ne (h : as.Pairwise fun a b => key b = k → key a = k) :
    as.filter (key · = k) ++ as.filter (key · ≠ k) = as := by
  induction h with
  | nil => rfl
  | @cons a as ha _ ih =>
    by_cases hak : key a = k
    · simpa [hak] using ih
    · -- Behind an element with another key there is none with this key.
      have hnone : ∀ b ∈ as, key b ≠ k := fun b hb hbk => hak (ha b hb hbk)
      have hempty : as.filter (key · = k) = [] := by simpa using hnone
      have hall : as.filter (key · ≠ k) = as := by simpa using hnone
      rw [List.filter_cons_of_neg (by simpa using hak),
        List.filter_cons_of_pos (by simpa using hak), hempty, hall, List.nil_append]

variable {le : κ → κ → Prop}

theorem byKeys_eq_self (hrefl : ∀ k, le k k) (hks : ks.Pairwise fun k l => ¬ le l k)
    (has : ∀ a ∈ as, key a ∈ ks) (h : as.Pairwise fun a b => le (key a) (key b)) :
    byKeys key ks as = as := by
  induction ks generalizing as with
  | nil => rw [eq_nil_of_no_key has, byKeys, List.flatMap_nil]
  | cons k ks ih =>
    obtain ⟨hlast, hks⟩ := List.pairwise_cons.1 hks
    have hfirst : as.Pairwise fun a b => key b = k → key a = k := by
      refine h.imp_of_mem fun {a b} ha _ hab hbk => ?_
      by_contra hak
      exact hlast (key a) ((List.mem_cons.1 (has a ha)).resolve_left hak) (hbk ▸ hab)
    have hk : k ∉ ks := fun hk => hlast k hk (hrefl k)
    rw [byKeys_cons, ← byKeys_filter_ne hk, ih hks (forall_mem_filter_ne has) (h.filter _),
      filter_append_filter_ne hfirst]

theorem pairwise_byKeys (hrefl : ∀ k, le k k) (hks : ks.Pairwise le) :
    (byKeys key ks as).Pairwise fun a b => le (key a) (key b) := by
  refine List.pairwise_flatMap.2 ⟨fun k _ => ?_, hks.imp fun {k l} hkl a ha b hb => ?_⟩
  · refine List.pairwise_of_forall_mem_list fun a ha b hb => ?_
    rw [List.mem_filter, decide_eq_true_eq] at ha hb
    rw [ha.2, hb.2]
    exact hrefl k
  · rw [List.mem_filter, decide_eq_true_eq] at ha hb
    rwa [ha.2, hb.2]

end

/-! ## Distinct elements of longer lists -/

section

variable [DecidableEq α] [DecidableEq κ]

theorem distinct_concat (as : List α) (a : α) :
    distinct (as ++ [a]) = if a ∈ as then distinct as else distinct as ++ [a] := by
  induction as with
  | nil => simp [distinct]
  | cons b as ih =>
    rw [List.cons_append, distinct, distinct, ih]
    by_cases hab : a = b
    · subst hab
      by_cases ha : a ∈ as <;> simp [ha]
    · by_cases ha : a ∈ as <;> simp [ha, hab]

theorem distinct_map {f : α → κ} {as : List α} (hf : ∀ a ∈ as, ∀ b ∈ as, f a = f b → a = b) :
    distinct (as.map f) = (distinct as).map f := by
  induction as using List.reverseRecOn with
  | nil => rfl
  | append_singleton as a ih =>
    have hmem : f a ∈ as.map f ↔ a ∈ as := by
      rw [List.mem_map]
      constructor
      · rintro ⟨b, hb, hba⟩
        rwa [← hf b (by simp [hb]) a (by simp) hba]
      · intro ha
        exact ⟨a, ha, rfl⟩
    have hprefix := ih fun b hb d hd => hf b (by simp [hb]) d (by simp [hd])
    rw [List.map_append, List.map_singleton, distinct_concat, distinct_concat, hprefix]
    by_cases ha : a ∈ as <;> simp [hmem, ha]

/-- Keys that are told apart after a change of form group the elements as before. -/
theorem grouped_map_key [DecidableEq ι] {key : β → α} {f : α → ι} {bs : List β}
    (hf : ∀ a ∈ bs.map key, ∀ b ∈ bs.map key, f a = f b → a = b) :
    grouped (fun b => f (key b)) bs = (grouped key bs).map fun g => (f g.1, g.2) := by
  have hkeys : distinct (bs.map fun b => f (key b)) = (distinct (bs.map key)).map f := by
    rw [← distinct_map hf, List.map_map]
    rfl
  rw [grouped, grouped, hkeys, List.map_map, List.map_map]
  refine List.map_congr_left fun k hk => congrArg (Prod.mk (f k)) (List.filter_congr fun b hb => ?_)
  have hiff : f (key b) = f k ↔ key b = k :=
    ⟨hf (key b) (List.mem_map_of_mem hb) k (mem_distinct.1 hk), congrArg f⟩
  simp [hiff]

/-! ## Groups -/

omit [DecidableEq α] in
theorem map_fst_grouped (key : α → κ) (as : List α) :
    (grouped key as).map Prod.fst = distinct (as.map key) := by
  rw [grouped, List.map_map]
  exact List.map_id _

omit [DecidableEq α] in
theorem snd_of_mem_grouped {key : α → κ} {as : List α} {g : κ × List α}
    (hg : g ∈ grouped key as) : g.2 = as.filter fun a => key a = g.1 := by
  obtain ⟨k, -, rfl⟩ := List.mem_map.1 hg
  rfl

omit [DecidableEq α] in
theorem ne_nil_of_mem_grouped {key : α → κ} {as : List α} {g : κ × List α}
    (hg : g ∈ grouped key as) : g.2 ≠ [] := by
  obtain ⟨k, hk, rfl⟩ := List.mem_map.1 hg
  obtain ⟨a, ha, hkey⟩ := List.mem_map.1 (mem_distinct.1 hk)
  exact List.ne_nil_of_mem (List.mem_filter.2 ⟨ha, by simpa using hkey⟩)

omit [DecidableEq α] in
/-- Every element is in one group. -/
theorem flatMap_grouped_perm (key : α → κ) (as : List α) :
    ((grouped key as).flatMap Prod.snd).Perm as := by
  rw [grouped, List.flatMap_map]
  exact byKeys_perm (nodup_distinct _) fun a ha => mem_distinct.2 (List.mem_map_of_mem ha)

/-! ## Tables -/

/-- A table with a change made to the entry of a key. If there is none, one is added at the end. -/
def putAt (key : κ) (empty : β) (change : β → β) : List (κ × β) → List (κ × β)
  | [] => [(key, change empty)]
  | (k, b) :: rest =>
    if k = key then (k, change b) :: rest else (k, b) :: putAt key empty change rest

theorem putAt_of_not_mem {key : κ} {empty : β} {change : β → β} {ks : List κ} {f : κ → β}
    (hkey : key ∉ ks) :
    putAt key empty change (ks.map fun k => (k, f k)) =
      ks.map (fun k => (k, f k)) ++ [(key, change empty)] := by
  induction ks with
  | nil => rfl
  | cons k ks ih =>
    rw [List.mem_cons, not_or] at hkey
    rw [List.map_cons, putAt, if_neg (Ne.symm hkey.1), ih hkey.2, List.cons_append]

theorem putAt_of_mem {key : κ} {empty : β} {change : β → β} {ks : List κ} {f : κ → β}
    (hks : ks.Nodup) (hkey : key ∈ ks) :
    putAt key empty change (ks.map fun k => (k, f k)) =
      ks.map fun k => (k, if k = key then change (f k) else f k) := by
  induction ks with
  | nil => cases hkey
  | cons k ks ih =>
    obtain ⟨hk, hks⟩ := List.nodup_cons.1 hks
    rw [List.map_cons, List.map_cons, putAt]
    by_cases hkk : k = key
    · subst hkk
      rw [if_pos rfl, if_pos rfl]
      refine congrArg _ (List.map_congr_left fun l hl => ?_)
      have hne : l ≠ k := fun h => hk (h ▸ hl)
      rw [if_neg hne]
    · rw [if_neg hkk, if_neg hkk, ih hks ((List.mem_cons.1 hkey).resolve_left (Ne.symm hkk))]

omit [DecidableEq α] in
/-- A table that is filled element by element has the elements gathered by key. -/
theorem foldl_putAt (key : α → κ) (empty : β) (change : α → β → β) (as : List α) :
    as.foldl (fun table a => putAt (key a) empty (change a) table) [] =
      (grouped key as).map fun g => (g.1, g.2.foldl (fun b a => change a b) empty) := by
  rw [grouped, List.map_map]
  induction as using List.reverseRecOn with
  | nil => rfl
  | append_singleton as a ih =>
    rw [List.foldl_append, ih, List.foldl_cons, List.foldl_nil, List.map_append, List.map_singleton,
      distinct_concat]
    simp only [Function.comp_def]
    by_cases ha : key a ∈ as.map key
    · rw [if_pos ha, putAt_of_mem (nodup_distinct _) (mem_distinct.2 ha)]
      refine List.map_congr_left fun k _ => ?_
      by_cases hk : k = key a
      · simp [hk]
      · simp [hk, Ne.symm hk]
    · rw [if_neg ha, putAt_of_not_mem (mt mem_distinct.1 ha), List.map_append]
      -- No element before `a` has its key, and `a` has the key of none of them.
      have hfirst : as.filter (fun b => key b = key a) = [] := by
        rw [List.filter_eq_nil_iff]
        intro b hb hkey
        exact ha (List.mem_map.2 ⟨b, hb, of_decide_eq_true hkey⟩)
      congr 1
      · refine List.map_congr_left fun k hk => ?_
        have hne : key a ≠ k := fun h => ha (h ▸ mem_distinct.1 hk)
        simp [hne]
      · simp [hfirst]

omit [DecidableEq α] in
/-- A table of tables that is filled element by element has the items gathered by both keys. -/
theorem foldl_putAt_putAt [DecidableEq ι] (outer : α → ι) (inner : α → κ) (item : α → β)
    (as : List α) :
    as.foldl (fun table a => putAt (outer a) [] (putAt (inner a) [] (· ++ [item a])) table) [] =
      (grouped outer as).map fun g =>
        (g.1, (grouped inner g.2).map fun h => (h.1, h.2.map item)) := by
  rw [foldl_putAt outer [] fun a => putAt (inner a) [] (· ++ [item a])]
  refine List.map_congr_left fun g _ => congrArg (Prod.mk g.1) ?_
  rw [foldl_putAt inner [] fun a items => items ++ [item a]]
  refine List.map_congr_left fun h _ => congrArg (Prod.mk h.1) ?_
  rw [List.foldl_append_eq_append, List.nil_append, ← List.flatMap_def, ← List.map_eq_flatMap]

end

end GatedModules
