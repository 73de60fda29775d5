import GatedModules.Json.Writer

/-!
# JSON is written in ASCII

Whatever a value holds, what the writer makes of it are ASCII characters, so that every stream and
every file takes it as it is.
-/

namespace GatedModules

/-- A string of ASCII characters. -/
def IsAscii (s : String) : Prop := ∀ c ∈ s.toList, c.toNat < 0x80

-- the characters of the string are gone through, and not all characters there are
instance (s : String) : Decidable (IsAscii s) :=
  List.decidableBAll (fun c : Char => c.toNat < 0x80) s.toList

theorem isAscii_append {s t : String} : IsAscii (s ++ t) ↔ IsAscii s ∧ IsAscii t := by
  simp [IsAscii, or_imp, forall_and]

namespace IsAscii

theorem append {s t : String} (hs : IsAscii s) (ht : IsAscii t) : IsAscii (s ++ t) :=
  isAscii_append.2 ⟨hs, ht⟩

theorem ofList {cs : List Char} (h : ∀ c ∈ cs, c.toNat < 0x80) : IsAscii (String.ofList cs) := by
  intro c hc
  rw [String.toList_ofList] at hc
  exact h c hc

theorem join {ss : List String} (h : ∀ s ∈ ss, IsAscii s) : IsAscii (String.join ss) := by
  intro c hc
  rw [String.toList_join, List.mem_flatMap] at hc
  obtain ⟨s, hs, hc⟩ := hc
  exact h s hs c hc

theorem intercalate {separator : String} (hseparator : IsAscii separator) {ss : List String}
    (h : ∀ s ∈ ss, IsAscii s) : IsAscii (separator.intercalate ss) := by
  induction ss with
  | nil => simp [IsAscii]
  | cons s ss ih =>
    obtain ⟨hs, hss⟩ := List.forall_mem_cons.1 h
    cases ss with
    | nil => simpa using hs
    | cons t ss =>
      rw [String.intercalate_cons_cons]
      exact (hs.append hseparator).append (ih hss)

theorem replicate (n : Nat) {c : Char} (h : c.toNat < 0x80) :
    IsAscii (String.ofList (List.replicate n c)) :=
  .ofList fun _ hd => (List.eq_of_mem_replicate hd) ▸ h

theorem padLeft (width : Nat) {s : String} (hs : IsAscii s) :
    IsAscii (GatedModules.padLeft width '0' s) :=
  (replicate _ (by decide)).append hs

end IsAscii

/-! ## Numbers -/

theorem toNat_digitChar_lt (d : Nat) : d.digitChar.toNat < 0x80 := by
  have small : ∀ d : Fin 16, d.val.digitChar.toNat < 0x80 := by decide
  by_cases h : d < 16
  · exact small ⟨d, h⟩
  · rw [Nat.digitChar_eq_star.2 (Nat.le_of_not_lt h)]
    decide

theorem toNat_lt_of_mem_toDigits {base n : Nat} (hbase : 1 < base) {c : Char}
    (h : c ∈ Nat.toDigits base n) : c.toNat < 0x80 := by
  induction n using Nat.strongRecOn with
  | ind n ih =>
    rw [Nat.toDigits_eq_if hbase] at h
    split at h
    · rw [List.mem_singleton.1 h]
      exact toNat_digitChar_lt n
    · rcases List.mem_append.1 h with h | h
      · exact ih _ (Nat.div_lt_self (by omega) hbase) h
      · rw [List.mem_singleton.1 h]
        exact toNat_digitChar_lt _

theorem isAscii_toString_nat (n : Nat) : IsAscii (toString n) := by
  rw [Nat.toString_eq_ofList_toDigits]
  exact .ofList fun _ => toNat_lt_of_mem_toDigits (by decide)

theorem isAscii_toString_int (n : Int) : IsAscii (toString n) := by
  cases n with
  | ofNat n => exact isAscii_toString_nat n
  | negSucc n => exact IsAscii.append (s := "-") (by decide) (isAscii_toString_nat (n + 1))

theorem isAscii_hex (width n : Nat) : IsAscii (Text.hex width n) :=
  .padLeft width (.ofList fun _ => toNat_lt_of_mem_toDigits (by decide))

namespace Double

theorem toNat_lt_of_mem_significant {n : Nat} {c : Char} (h : c ∈ significant n) :
    c.toNat < 0x80 := by
  have hdigit : c ∈ (Nat.toDigits 10 n).reverse :=
    (List.dropWhile_sublist _).subset (List.mem_reverse.1 h)
  exact toNat_lt_of_mem_toDigits (by decide) (List.mem_reverse.1 hdigit)

theorem isAscii_zeros (n : Nat) : IsAscii (zeros n) := .replicate n (by decide)

theorem isAscii_layout {digits : List Char} (h : ∀ c ∈ digits, c.toNat < 0x80) (point : Int) :
    IsAscii (layout digits point) := by
  have htake (n : Nat) : IsAscii (String.ofList (digits.take n)) :=
    .ofList fun c hc => h c (List.mem_of_mem_take hc)
  have hdrop (n : Nat) : IsAscii (String.ofList (digits.drop n)) :=
    .ofList fun c hc => h c (List.mem_of_mem_drop hc)
  have hsign : IsAscii (if point - 1 < 0 then "-" else "+") := by split <;> decide
  have hfraction :
      IsAscii (if digits.length ≤ 1 then "" else "." ++ String.ofList (digits.drop 1)) := by
    split
    · decide
    · exact .append (by decide) (hdrop 1)
  simp only [layout]
  split
  · split
    · exact isAscii_append.2 ⟨.append (by decide) (isAscii_zeros _), .ofList h⟩
    · split
      · exact isAscii_append.2 ⟨.append (.ofList h) (isAscii_zeros _), by decide⟩
      · exact isAscii_append.2 ⟨.append (htake _) (by decide), hdrop _⟩
  · have hmantissa := ((htake 1).append hfraction).append (by decide : IsAscii "e")
    exact (hmantissa.append hsign).append (.padLeft 2 (isAscii_toString_nat _))

theorem isAscii_text (x : Double) : IsAscii x.text := by
  cases x with
  | nan => decide
  | infinite negative => cases negative <;> decide
  | finite negative m e =>
    have hsign : IsAscii (if negative then "-" else "") := by cases negative <;> decide
    simp only [text]
    split
    · exact hsign.append (by decide)
    · exact hsign.append (isAscii_layout (fun _ => toNat_lt_of_mem_significant) _)

end Double

namespace Json

/-! ## Strings -/

theorem isAscii_escapeUnit (n : Nat) : IsAscii (escapeUnit n) :=
  .append (by decide) (isAscii_hex 4 n)

theorem isAscii_escapeWide (n : Nat) : IsAscii (escapeWide n) := by
  unfold escapeWide
  split
  · exact isAscii_escapeUnit n
  · exact .append (isAscii_escapeUnit _) (isAscii_escapeUnit _)

theorem isAscii_writeChar (c : Char) : IsAscii (writeChar c) := by
  unfold writeChar
  -- the seven short escapes
  iterate 7
    split
    · decide
  split
  · rename_i hplain
    intro d hd
    rw [Char.toString_eq_singleton, String.toList_singleton, List.mem_singleton] at hd
    rw [hd]
    omega
  · exact isAscii_escapeWide _

theorem isAscii_writePoint (p : CodePoint) : IsAscii (writePoint p) := by
  cases p with
  | char c => exact isAscii_writeChar c
  | half index => exact isAscii_escapeUnit _

theorem isAscii_writeString (t : Text) : IsAscii (writeString t) := by
  refine .append (.append (by decide) (.join fun s hs => ?_)) (by decide)
  obtain ⟨p, -, rfl⟩ := List.mem_map.1 hs
  exact isAscii_writePoint p

theorem isAscii_writeDouble (x : Double) : IsAscii (writeDouble x) := by
  cases x with
  | nan => decide
  | infinite negative => cases negative <;> decide
  | finite negative m e => exact Double.isAscii_text _

/-! ## Values -/

namespace Layout

/-- A layout whose lines are indented with ASCII characters. -/
def IsAscii : Layout → Prop
  | .line => True
  | .indented unit => GatedModules.IsAscii unit

theorem isAscii_newLine {unit : String} (h : GatedModules.IsAscii unit) (level : Nat) :
    GatedModules.IsAscii (newLine unit level) :=
  .append (by decide) (.join fun _ hs => (List.eq_of_mem_replicate hs) ▸ h)

theorem isAscii_enclose {layout : Layout} (h : layout.IsAscii) (level : Nat)
    {opening closing : String} (hopening : GatedModules.IsAscii opening)
    (hclosing : GatedModules.IsAscii closing) {parts : List String}
    (hparts : ∀ s ∈ parts, GatedModules.IsAscii s) :
    GatedModules.IsAscii (layout.enclose level opening closing parts) := by
  unfold enclose
  split
  · exact hopening.append hclosing
  · cases layout with
    | line => exact (hopening.append (.intercalate (by decide) hparts)).append hclosing
    | indented unit =>
      have hline (n : Nat) := isAscii_newLine h n
      exact (((hopening.append (hline _)).append
        (.intercalate (.append (by decide) (hline _)) hparts)).append (hline _)).append hclosing

end Layout

variable {layout : Layout}

mutual

theorem isAscii_writeAt (h : layout.IsAscii) (level : Nat) :
    ∀ value : Json, IsAscii (writeAt layout level value)
  | .null => by rw [writeAt]; decide
  | .bool b => by rw [writeAt]; cases b <;> decide
  | .int n => by rw [writeAt]; exact isAscii_toString_int n
  | .float x => by rw [writeAt]; exact isAscii_writeDouble x
  | .str t => by rw [writeAt]; exact isAscii_writeString t
  | .arr items => by
    rw [writeAt]
    exact Layout.isAscii_enclose h level (by decide) (by decide) (isAscii_writeItems h _ items)
  | .obj members => by
    rw [writeAt]
    exact Layout.isAscii_enclose h level (by decide) (by decide) (isAscii_writeMembers h _ members)

theorem isAscii_writeItems (h : layout.IsAscii) (level : Nat) :
    ∀ items : List Json, ∀ s ∈ writeItems layout level items, IsAscii s
  | [] => by simp [writeItems]
  | a :: as => by
    rw [writeItems]
    exact List.forall_mem_cons.2 ⟨isAscii_writeAt h level a, isAscii_writeItems h level as⟩

theorem isAscii_writeMembers (h : layout.IsAscii) (level : Nat) :
    ∀ members : List (Text × Json), ∀ s ∈ writeMembers layout level members, IsAscii s
  | [] => by simp [writeMembers]
  | (k, a) :: as => by
    rw [writeMembers]
    have hmember := ((isAscii_writeString k).append (by decide : IsAscii ": ")).append
      (isAscii_writeAt h level a)
    exact List.forall_mem_cons.2 ⟨hmember, isAscii_writeMembers h level as⟩

end

theorem isAscii_write (h : layout.IsAscii) (value : Json) : IsAscii (value.write layout) :=
  isAscii_writeAt h 0 value

end Json

end GatedModules
