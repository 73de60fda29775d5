import GatedModules.Text.Writing
import Mathlib.Logic.Basic

/-!
# Whole texts

A text without halves of surrogate pairs can be written to the stream for output, and texts that are
made of whole ones are whole.
-/

namespace GatedModules.Text

/-- A text of characters, without halves of pairs. -/
def Whole (t : Text) : Prop := ∀ p ∈ t.points, p.isHalf = false

instance (t : Text) : Decidable t.Whole := inferInstanceAs (Decidable (∀ p ∈ t.points, _))

@[simp] theorem whole_ofString (s : String) : (ofString s).Whole := by
  intro p hp
  obtain ⟨c, -, rfl⟩ := List.mem_map.1 hp
  rfl

/-! ## Texts made of others -/

theorem mem_intercalate {separator : Text} {ts : List Text} {c : CodePoint}
    (h : c ∈ (intercalate separator ts).points) :
    c ∈ separator.points ∨ ∃ t ∈ ts, c ∈ t.points := by
  induction ts with
  | nil => cases h
  | cons t ts ih =>
    cases ts with
    | nil => exact .inr ⟨t, by simp, by simpa [intercalate] using h⟩
    | cons u us =>
      simp only [intercalate, List.map_cons, List.intercalate_cons_cons, List.mem_append] at h ih
      rcases h with (h | h) | h
      · exact .inr ⟨t, by simp, h⟩
      · exact .inl h
      · rcases ih h with h | ⟨other, hother, hc⟩
        · exact .inl h
        · exact .inr ⟨other, List.mem_cons_of_mem _ hother, hc⟩

@[simp] theorem whole_append {s t : Text} : (s ++ t).Whole ↔ s.Whole ∧ t.Whole :=
  List.forall_mem_append

theorem whole_join {ts : List Text} (h : ∀ t ∈ ts, t.Whole) : (join ts).Whole := by
  intro p hp
  obtain ⟨t, ht, hp⟩ := List.mem_flatMap.1 hp
  exact h t ht p hp

theorem whole_intercalate {separator : Text} (hseparator : separator.Whole) {ts : List Text}
    (h : ∀ t ∈ ts, t.Whole) : (intercalate separator ts).Whole := by
  intro p hp
  rcases mem_intercalate hp with hp | ⟨t, ht, hp⟩
  · exact hseparator p hp
  · exact h t ht p hp

/-! ## Writing -/

/-- A whole text is written. -/
theorem written_of_whole {t : Text} (h : t.Whole) : t.written = .ok t.printed := by
  have hnone : t.unwritable? CodePoint.isHalf = none := by
    have hall : ∀ p ∈ t.points, (!p.isHalf) = true := fun p hp => by simp [h p hp]
    have hdrop : (t.points ++ []).dropWhile (fun p : CodePoint => !p.isHalf) = [] :=
      List.dropWhile_append_of_pos hall
    rw [List.append_nil] at hdrop
    rw [unwritable?, hdrop]
  rw [written, hnone]

theorem printed_ofString (s : String) : (ofString s).printed = s := by
  have hchars : (ofString s).chars = s.toList := by
    rw [chars, ofString, ofChars, List.map_map]
    exact List.map_id s.toList
  rw [printed, hchars, String.ofList_toList]

@[simp] theorem written_ofString (s : String) : (ofString s).written = .ok s := by
  rw [written_of_whole (whole_ofString s), printed_ofString]

end GatedModules.Text
