import GatedModules.Json.Reader
import GatedModules.Json.Writer
import GatedModules.Proofs.WholeTexts

/-!
# Strings that read back

The writer of JSON turns every character of a string into itself or into an escape, and the reader
undoes it. A half of a pair is written as an escape too, but two halves that meet are read as one
character; so a text is only sure to come back if it is whole.
-/

namespace GatedModules

namespace Json

/-! ## Hexadecimal digits -/

theorem hexValue?_digitChar {d : Nat} (h : d < 16) : hexValue? d.digitChar = some d := by
  have all : ∀ d : Fin 16, hexValue? d.val.digitChar = some d.val := by decide
  exact all ⟨d, h⟩

/-- The four digits of a UTF-16 unit. -/
theorem toList_hex_four {n : Nat} (h : n < 0x10000) : (Text.hex 4 n).toList =
    [(n / 0x1000).digitChar, (n / 0x100 % 16).digitChar, (n / 16 % 16).digitChar,
      (n % 16).digitChar] := by
  have zero : Nat.digitChar 0 = '0' := rfl
  rw [Text.hex, padLeft, Nat.toDigits_eq_if (by decide)]
  split
  · have h₀ : n / 0x1000 = 0 ∧ n / 0x100 % 16 = 0 ∧ n / 16 % 16 = 0 ∧ n % 16 = n := by omega
    simp [h₀, zero]
  · rw [Nat.toDigits_eq_if (by decide)]
    split
    · have h₀ : n / 0x1000 = 0 ∧ n / 0x100 % 16 = 0 ∧ n / 16 % 16 = n / 16 := by omega
      simp [h₀, zero]
    · rw [Nat.toDigits_eq_if (by decide)]
      split
      · have h₀ : n / 0x1000 = 0 ∧ n / 0x100 % 16 = n / 16 / 16 := by omega
        simp [h₀, zero]
      · have h₀ : n / 16 / 16 / 16 = n / 0x1000 ∧ n / 16 / 16 % 16 = n / 0x100 % 16
            ∧ n / 16 / 16 / 16 < 16 := by omega
        rw [Nat.toDigits_of_lt_base h₀.2.2]
        simp [h₀]

theorem length_hex_four {n : Nat} (h : n < 0x10000) : (Text.hex 4 n).toList.length = 4 := by
  rw [toList_hex_four h]
  rfl

theorem hexUnit?_hex {n : Nat} (h : n < 0x10000) {more : List Char} (hmore : more ≠ []) :
    hexUnit? ((Text.hex 4 n).toList ++ more) = some n := by
  have hlength : ¬ (more.length + 4 ≤ 4) := by
    have := List.length_pos_iff.2 hmore
    omega
  have hn : 16 * (16 * (16 * (n / 0x1000) + n / 0x100 % 16) + n / 16 % 16) + n % 16 = n := by omega
  simp only [hexUnit?, toList_hex_four h]
  simp [hlength, hexValue?_digitChar, show n / 0x1000 < 16 by omega, Nat.mod_lt, hn]

/-! ## Escapes -/

theorem toNat_bounds (c : Char) : c.toNat < 0xD800 ∨ 0xDFFF < c.toNat ∧ c.toNat < 0x110000 := by
  have h := c.valid
  simpa [UInt32.isValidChar, Nat.isValidChar] using h

theorem isHighSurrogate_iff {n : Nat} : isHighSurrogate n = true ↔ 0xD800 ≤ n ∧ n < 0xDC00 := by
  simp [isHighSurrogate]

theorem isLowSurrogate_iff {n : Nat} : isLowSurrogate n = true ↔ 0xDC00 ≤ n ∧ n < 0xE000 := by
  simp [isLowSurrogate]

theorem unitPoint_toNat (c : Char) : unitPoint c.toNat = .char c := by
  have := toNat_bounds c
  rw [unitPoint, dif_neg (by omega), Char.ofNat_toNat]

/-- One UTF-16 unit is read as its character; what follows does not matter, since the unit is not
the first half of a pair. -/
theorem unescape_unit {c : Char} (h : c.toNat < 0x10000) {more : List Char} (hmore : more ≠ []) :
    unescape ('u' :: ((Text.hex 4 c.toNat).toList ++ more)) = .ok (.char c, 5) := by
  have hhigh : ¬ isHighSurrogate c.toNat = true := by
    have := toNat_bounds c
    rw [isHighSurrogate_iff]
    omega
  rw [unescape, hexUnit?_hex h hmore]
  dsimp only
  split
  · simp [hhigh, unitPoint_toNat]
  · rw [unitPoint_toNat]

/-- Two units that follow each other, the first of them the first half of a pair. -/
theorem unescape_two_units {digits digits' : List Char} {high : Nat}
    (hhigh : hexUnit? digits = some high) (hpair : isHighSurrogate high = true)
    (hnext : digits.drop 4 = '\\' :: 'u' :: digits') (hlength : 4 < digits'.length) :
    unescape ('u' :: digits) =
      match hexUnit? digits' with
      | none => .error (.invalidUnicodeEscape, 'u' :: digits')
      | some low =>
        if isLowSurrogate low then
          .ok (.char (Char.ofNat (0x10000 + (high - 0xD800) * 0x400 + (low - 0xDC00))), 11)
        else .ok (unitPoint high, 5) := by
  rw [unescape, hhigh]
  dsimp only
  rw [hnext]
  exact if_pos (by simp [hpair, hlength])

/-- The two surrogates that a character beyond the first plane is written as. -/
def surrogates (c : Char) : Nat × Nat :=
  (0xD800 + (c.toNat - 0x10000) / 0x400, 0xDC00 + (c.toNat - 0x10000) % 0x400)

theorem surrogates_lt (c : Char) : (surrogates c).1 < 0x10000 ∧ (surrogates c).2 < 0x10000 := by
  have := toNat_bounds c
  rw [surrogates]
  omega

theorem surrogates_spec {c : Char} (h : 0x10000 ≤ c.toNat) :
    isHighSurrogate (surrogates c).1 = true ∧ isLowSurrogate (surrogates c).2 = true ∧
      0x10000 + ((surrogates c).1 - 0xD800) * 0x400 + ((surrogates c).2 - 0xDC00) = c.toNat := by
  have := toNat_bounds c
  rw [isHighSurrogate_iff, isLowSurrogate_iff, surrogates]
  omega

/-- A surrogate pair is read as the one character it stands for. -/
theorem unescape_pair {c : Char} (h : 0x10000 ≤ c.toNat) {more : List Char} (hmore : more ≠ []) :
    unescape ('u' :: ((Text.hex 4 (surrogates c).1).toList ++
      '\\' :: 'u' :: ((Text.hex 4 (surrogates c).2).toList ++ more))) = .ok (.char c, 11) := by
  obtain ⟨hhigh, hlow, hpoint⟩ := surrogates_spec h
  have hbounds := surrogates_lt c
  have hlength := List.length_pos_iff.2 hmore
  rw [unescape_two_units (hexUnit?_hex hbounds.1 (by simp)) hhigh
    (by rw [List.drop_left' (length_hex_four hbounds.1)])
    (by rw [List.length_append, length_hex_four hbounds.2]; omega), hexUnit?_hex hbounds.2 hmore]
  simp only [hlow, hpoint, Char.ofNat_toNat, if_true]

theorem toList_escapeUnit (n : Nat) :
    (escapeUnit n).toList = '\\' :: 'u' :: (Text.hex 4 n).toList := by
  simp [escapeUnit]

theorem escapeWide_spec (c : Char) : ∃ escape, (escapeWide c.toNat).toList = '\\' :: escape ∧
    ∀ more ≠ [], unescape (escape ++ more) = .ok (.char c, escape.length) := by
  by_cases hunit : c.toNat < 0x10000
  · refine ⟨'u' :: (Text.hex 4 c.toNat).toList, ?_, fun more hmore => ?_⟩
    · rw [escapeWide, if_pos hunit, toList_escapeUnit]
    · rw [List.cons_append, unescape_unit hunit hmore, List.length_cons, length_hex_four hunit]
  · obtain ⟨hhigh, hlow⟩ := surrogates_lt c
    refine ⟨'u' :: ((Text.hex 4 (surrogates c).1).toList ++
      '\\' :: 'u' :: (Text.hex 4 (surrogates c).2).toList), ?_, fun more hmore => ?_⟩
    · rw [escapeWide, if_neg hunit, String.toList_append, toList_escapeUnit, toList_escapeUnit,
        surrogates, List.cons_append, List.cons_append]
    · have hpair := unescape_pair (Nat.le_of_not_lt hunit) hmore
      rw [List.cons_append, List.append_assoc, List.cons_append, List.cons_append, hpair,
        List.length_cons, List.length_append, length_hex_four hhigh, List.length_cons,
        List.length_cons, length_hex_four hlow]

/-- A character is written as itself or as an escape that stands for it. -/
theorem writeChar_cases (c : Char) :
    (writeChar c).toList = [c] ∧ c ≠ '"' ∧ c ≠ '\\' ∧ 0x20 ≤ c.toNat ∧ c.toNat < 0x7F ∨
    ∃ escape, (writeChar c).toList = '\\' :: escape ∧
      ∀ more ≠ [], unescape (escape ++ more) = .ok (.char c, escape.length) := by
  by_cases hshort : c ∈ ['"', '\\', '\n', '\r', '\t', '\x08', '\x0c']
  · right
    simp only [List.mem_cons, List.not_mem_nil, or_false] at hshort
    rcases hshort with rfl | rfl | rfl | rfl | rfl | rfl | rfl <;>
      exact ⟨[_], by simp [writeChar]; rfl, fun _ _ => by simp [unescape]⟩
  · simp only [List.mem_cons, List.not_mem_nil, or_false, not_or] at hshort
    obtain ⟨hquote, hbackslash, hn, hr, ht, hb, hf⟩ := hshort
    rw [writeChar, if_neg hquote, if_neg hbackslash, if_neg hn, if_neg hr, if_neg ht, if_neg hb,
      if_neg hf]
    split
    · rename_i hplain
      exact .inl ⟨by simp, hquote, hbackslash, hplain⟩
    · exact .inr (escapeWide_spec c)

/-! ## Strings -/

theorem readPoints_skip (opening : List Char) {skipped rest : List Char} :
    readPoints opening skipped.length (skipped ++ rest) = readPoints opening 0 rest := by
  induction skipped with
  | nil => rfl
  | cons c skipped ih => rw [List.cons_append, List.length_cons, readPoints, ih]

/-- A step of the reader: what was written for one character is taken off the front. -/
theorem readPoints_writeChar (opening : List Char) (c : Char) {rest : List Char}
    (hrest : rest ≠ []) : readPoints opening 0 ((writeChar c).toList ++ rest) =
      (readPoints opening 0 rest).map fun (points, rest) => (.char c :: points, rest) := by
  rcases writeChar_cases c with ⟨hwritten, hquote, hbackslash, hplain, -⟩ |
    ⟨escape, hwritten, hread⟩
  · rw [hwritten, List.singleton_append, readPoints, if_neg hquote, if_neg hbackslash,
      if_neg (Nat.not_lt.2 hplain)]
  · have hfollowed : (escape ++ rest).isEmpty = false := by simp [hrest]
    rw [hwritten, List.cons_append, readPoints, if_neg (by decide), if_pos rfl, hfollowed,
      hread rest hrest]
    simp only [Bool.false_eq_true, if_false, readPoints_skip]

theorem readPoints_written (opening : List Char) {points : List CodePoint}
    (whole : ∀ p ∈ points, p.isHalf = false) (rest : List Char) :
    readPoints opening 0 (points.flatMap (fun p => (writePoint p).toList) ++ '"' :: rest)
      = .ok (points, rest) := by
  induction points with
  | nil => simp [readPoints]
  | cons p points ih =>
    obtain ⟨hp, hpoints⟩ := List.forall_mem_cons.1 whole
    cases p with
    | half index => cases hp
    | char c =>
      rw [List.flatMap_cons, List.append_assoc, writePoint,
        readPoints_writeChar opening c (by simp), ih hpoints]
      rfl

/-- A whole text is read back from what was written for it. -/
theorem readString_written {t : Text} (whole : t.Whole) {written : List Char}
    (h : (writeString t).toList = '"' :: written) (rest : List Char) :
    readString (written ++ rest) = .ok (t, rest) := by
  have hwritten : written = t.points.flatMap (fun p => (writePoint p).toList) ++ ['"'] := by
    simpa [writeString, List.flatMap_map] using h.symm
  rw [hwritten, List.append_assoc, List.singleton_append, readString, readPoints_written _ whole]
  rfl

theorem toList_writeString (t : Text) : ∃ written, (writeString t).toList = '"' :: written :=
  ⟨t.points.flatMap (fun p => (writePoint p).toList) ++ ['"'], by
    simp [writeString, List.flatMap_map]⟩

end Json

end GatedModules
