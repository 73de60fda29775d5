import GatedModules.Text.Basic

/-!
# Lists

`total` adds up numbers, `distinct` keeps the first occurrence of every element, in the order of the
list, and `grouped` gathers the elements that share a key. Names are sorted by their code points.
-/

namespace GatedModules

/-! ## Sums -/

def total : List Nat → Nat
  | [] => 0
  | n :: ns => n + total ns

@[simp] theorem total_cons (n : Nat) (ns : List Nat) : total (n :: ns) = n + total ns := rfl

theorem total_filter_le (p : α → Bool) (f : α → Nat) (l : List α) :
    total ((l.filter p).map f) ≤ total (l.map f) := by
  induction l with
  | nil => simp
  | cons a l ih =>
    rw [List.filter_cons]
    split <;> simp only [List.map_cons, total_cons] <;> omega

/-- What is left out of a sum lowers it. -/
theorem total_filter_add_le {p : α → Bool} (f : α → Nat) {l : List α} {a : α} (ha : a ∈ l)
    (hp : p a = false) : total ((l.filter p).map f) + f a ≤ total (l.map f) := by
  induction l with
  | nil => cases ha
  | cons b l ih =>
    rcases List.mem_cons.1 ha with rfl | ha
    · rw [List.filter_cons_of_neg (by simp [hp]), List.map_cons, total_cons, Nat.add_comm]
      exact Nat.add_le_add_left (total_filter_le p f l) _
    · have := ih ha
      rw [List.filter_cons]
      split <;> simp only [List.map_cons, total_cons] <;> omega

/-! ## Distinct elements -/

/-- The elements of a list, each where it occurs first. -/
def distinct [DecidableEq α] : List α → List α
  | [] => []
  | a :: as => a :: (distinct as).filter (· ≠ a)

variable [DecidableEq α]

@[simp] theorem mem_distinct {a : α} {as : List α} : a ∈ distinct as ↔ a ∈ as := by
  induction as with
  | nil => simp [distinct]
  | cons b bs ih =>
    by_cases h : a = b
    · simp [distinct, h]
    · simp [distinct, h, ih]

theorem nodup_distinct (as : List α) : (distinct as).Nodup := by
  induction as with
  | nil => simp [distinct]
  | cons a as ih =>
    simp only [distinct, List.nodup_cons]
    exact ⟨by simp, ih.sublist List.filter_sublist⟩

theorem distinct_sublist (as : List α) : (distinct as).Sublist as := by
  induction as with
  | nil => exact .slnil
  | cons a as ih => exact (List.filter_sublist.trans ih).cons_cons a

theorem distinct_of_nodup {as : List α} (h : as.Nodup) : distinct as = as := by
  induction as with
  | nil => rfl
  | cons a as ih =>
    obtain ⟨ha, has⟩ := List.nodup_cons.1 h
    rw [distinct, ih has, List.filter_eq_self.2]
    intro b hb
    have : b ≠ a := by rintro rfl; exact ha hb
    simpa using this

/-! ## Groups and names -/

/-- The elements gathered by key, the keys in the order of their first elements. -/
def grouped [DecidableEq κ] (key : β → κ) (bs : List β) : List (κ × List β) :=
  (distinct (bs.map key)).map fun k => (k, bs.filter fun b => key b = k)

/-- Names in the order of their code points. -/
def sortNames (names : List Text) : List Text := names.mergeSort fun s t => decide (s ≤ t)

/-- The names that occur more than once, each once, in order. -/
def repeated (names : List Text) : List Text :=
  sortNames ((distinct names).filter fun n => decide (1 < names.count n))

end GatedModules
