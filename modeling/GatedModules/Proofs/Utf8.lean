import GatedModules.Proofs.Results
import GatedModules.Text.Utf8
import Mathlib.Data.List.Basic

/-!
# Decoding is the inverse of encoding

Bytes are decoded just where they encode some text, and as that text: whatever follows the first
byte of a character in its range ends in the encoding of one character.
-/

namespace GatedModules.Text.Utf8

variable {position : Nat} {rest : List Nat} {p : Begun} {b : Nat}

/-! ## Encoding -/

/-- The bytes that encode a code point. -/
def units (v : Nat) : List Nat :=
  if v < 0x80 then [v]
  else if v < 0x800 then [0xC0 + v / 0x40, 0x80 + v % 0x40]
  else if v < 0x10000 then [0xE0 + v / 0x1000, 0x80 + v / 0x40 % 0x40, 0x80 + v % 0x40]
  else [0xF0 + v / 0x40000, 0x80 + v / 0x1000 % 0x40, 0x80 + v / 0x40 % 0x40, 0x80 + v % 0x40]

theorem map_toNat_utf8EncodeChar (c : Char) :
    (String.utf8EncodeChar c).map UInt8.toNat = units c.toNat := by
  have hvalid : c.toNat.isValidChar := c.valid
  have hval : c.val.toNat = c.toNat := rfl
  unfold String.utf8EncodeChar units
  simp only [hval]
  split_ifs <;> simp <;> omega

/-! ## One step -/

theorem decodeFrom_single (h : tailSize? b = some 0) :
    decodeFrom position none (b :: rest) =
      (decodeFrom (position + 1) none rest).map (Char.ofNat b :: ·) := by
  rw [decodeFrom, h]

theorem decodeFrom_begin (due : Nat) (h : tailSize? b = some (due + 1)) :
    decodeFrom position none (b :: rest) =
      decodeFrom (position + 1) (some ⟨b, position, 1, due, (secondRange b).1, (secondRange b).2,
        leadBits b⟩) rest := by
  rw [decodeFrom, h]

theorem decodeFrom_next {due : Nat} (hb : p.low ≤ b ∧ b ≤ p.high) (h : p.due = due + 1) :
    decodeFrom position (some p) (b :: rest) =
      decodeFrom (position + 1) (some ⟨p.lead, p.start, p.read + 1, due, 0x80, 0xBF,
        p.code * 0x40 + b % 0x40⟩) rest := by
  have hrange : ¬ (b < p.low ∨ p.high < b) := by omega
  rw [decodeFrom, if_neg hrange, h]

theorem decodeFrom_last (hb : p.low ≤ b ∧ b ≤ p.high) (h : p.due = 0) :
    decodeFrom position (some p) (b :: rest) =
      (decodeFrom (position + 1) none rest).map (Char.ofNat (p.code * 0x40 + b % 0x40) :: ·) := by
  have hrange : ¬ (b < p.low ∨ p.high < b) := by omega
  rw [decodeFrom, if_neg hrange, h]

/-! ## Encoded text is decoded -/

theorem tailSize?_eq_some_iff {lead due : Nat} : tailSize? lead = some due ↔
    due = 0 ∧ lead < 0x80 ∨ due = 1 ∧ 0xC2 ≤ lead ∧ lead < 0xE0 ∨
      due = 2 ∧ 0xE0 ≤ lead ∧ lead < 0xF0 ∨ due = 3 ∧ 0xF0 ≤ lead ∧ lead < 0xF5 := by
  unfold tailSize?
  split_ifs <;> simp only [Option.some.injEq, false_iff] <;> omega

theorem secondRange_spec (lead : Nat) : 0x80 ≤ (secondRange lead).1 ∧ (secondRange lead).2 ≤ 0xBF ∧
    (lead = 0xE0 → (secondRange lead).1 = 0xA0) ∧ (lead = 0xED → (secondRange lead).2 = 0x9F) ∧
    (lead = 0xF0 → (secondRange lead).1 = 0x90) ∧ (lead = 0xF4 → (secondRange lead).2 = 0x8F) ∧
    (lead ≠ 0xE0 → lead ≠ 0xF0 → (secondRange lead).1 = 0x80) ∧
    (lead ≠ 0xED → lead ≠ 0xF4 → (secondRange lead).2 = 0xBF) := by
  unfold secondRange
  split_ifs <;> simp <;> omega

theorem leadBits_spec (lead : Nat) :
    (0xC0 ≤ lead → lead < 0xE0 → leadBits lead = lead - 0xC0) ∧
    (0xE0 ≤ lead → lead < 0xF0 → leadBits lead = lead - 0xE0) ∧
    (0xF0 ≤ lead → lead < 0xF8 → leadBits lead = lead - 0xF0) := by
  unfold leadBits
  split_ifs <;> omega

theorem decodeFrom_units (c : Char) (position : Nat) (rest : List Nat) :
    ∃ position', decodeFrom position none (units c.toNat ++ rest) =
      (decodeFrom position' none rest).map (c :: ·) := by
  have hvalid : c.toNat.isValidChar := c.valid
  have hchar {n : Nat} (h : n = c.toNat) : Char.ofNat n = c := by rw [h, Char.ofNat_toNat]
  generalize c.toNat = v at *
  unfold units
  split_ifs with h₁ h₂ h₃
  · refine ⟨position + 1, ?_⟩
    rw [List.singleton_append, decodeFrom_single (tailSize?_eq_some_iff.2 (by omega)), hchar rfl]
  · have hrange := secondRange_spec (0xC0 + v / 0x40)
    have hbits := leadBits_spec (0xC0 + v / 0x40)
    refine ⟨position + 2, ?_⟩
    simp only [List.cons_append, List.nil_append]
    rw [decodeFrom_begin 0 (tailSize?_eq_some_iff.2 (by omega)),
      decodeFrom_last (by dsimp only; omega) rfl, hchar (by dsimp only; omega)]
  · have hrange := secondRange_spec (0xE0 + v / 0x1000)
    have hbits := leadBits_spec (0xE0 + v / 0x1000)
    refine ⟨position + 3, ?_⟩
    simp only [List.cons_append, List.nil_append]
    rw [decodeFrom_begin 1 (tailSize?_eq_some_iff.2 (by omega)),
      decodeFrom_next (by dsimp only; omega) rfl, decodeFrom_last (by dsimp only; omega) rfl,
      hchar (by dsimp only; omega)]
  · have hrange := secondRange_spec (0xF0 + v / 0x40000)
    have hbits := leadBits_spec (0xF0 + v / 0x40000)
    refine ⟨position + 4, ?_⟩
    simp only [List.cons_append, List.nil_append]
    rw [decodeFrom_begin 2 (tailSize?_eq_some_iff.2 (by omega)),
      decodeFrom_next (by dsimp only; omega) rfl, decodeFrom_next (by dsimp only; omega) rfl,
      decodeFrom_last (by dsimp only; omega) rfl, hchar (by dsimp only; omega)]

theorem decodeFrom_flatMap_units (cs : List Char) (position : Nat) :
    decodeFrom position none (cs.flatMap fun c => units c.toNat) = .ok cs := by
  induction cs generalizing position with
  | nil => rw [List.flatMap_nil, decodeFrom]
  | cons c cs ih =>
    obtain ⟨position', h⟩ := decodeFrom_units c position (cs.flatMap fun c => units c.toNat)
    rw [List.flatMap_cons, h, ih]
    rfl

/-! ## What is decoded was encoded -/

/-- The code point when some more bytes have been read. -/
def extend (code : Nat) (tail : List Nat) : Nat :=
  tail.foldl (fun code b => code * 0x40 + b % 0x40) code

/-- However a character that has begun with some bytes goes on, it is the one that these bytes
encode: the next one is in the range, and those that follow only continue. -/
def Begun.Fits (p : Begun) (taken : List Nat) : Prop :=
  ∀ b tail, p.low ≤ b ∧ b ≤ p.high → tail.length = p.due → (∀ b ∈ tail, 0x80 ≤ b ∧ b ≤ 0xBF) →
    taken ++ b :: tail = units (Char.ofNat (extend p.code (b :: tail))).toNat

theorem toNat_ofNat {v : Nat} (h : v.isValidChar) : (Char.ofNat v).toNat = v := by
  rw [Char.ofNat, dif_pos h]
  rfl

theorem units_single (h : tailSize? b = some 0) : [b] = units (Char.ofNat b).toNat := by
  have hb : b < 0x80 := by simpa using tailSize?_eq_some_iff.1 h
  rw [toNat_ofNat (.inl (by omega)), units, if_pos hb]

theorem Begun.fits_begin {due : Nat} (h : tailSize? b = some (due + 1)) :
    Begun.Fits ⟨b, position, 1, due, (secondRange b).1, (secondRange b).2, leadBits b⟩ [b] := by
  intro c tail hc htail hcontinue
  dsimp only at hc htail
  have hsize := tailSize?_eq_some_iff.1 h
  have hrange := secondRange_spec b
  have hbits := leadBits_spec b
  match due, tail with
  | 0, [] =>
    simp only [extend, List.foldl]
    rw [toNat_ofNat (by simp only [Nat.isValidChar]; omega)]
    simp only [units]
    split_ifs <;> simp <;> omega
  | 1, [d] =>
    have hd := hcontinue d (by simp)
    simp only [extend, List.foldl]
    rw [toNat_ofNat (by simp only [Nat.isValidChar]; omega)]
    simp only [units]
    split_ifs <;> simp <;> omega
  | 2, [d, e] =>
    have hd := hcontinue d (by simp)
    have he := hcontinue e (by simp)
    simp only [extend, List.foldl]
    rw [toNat_ofNat (by simp only [Nat.isValidChar]; omega)]
    simp only [units]
    split_ifs <;> simp <;> omega
  | due + 3, _ => omega

theorem Begun.Fits.next {taken : List Nat} {due : Nat} (h : p.Fits taken)
    (hb : p.low ≤ b ∧ b ≤ p.high) (hdue : p.due = due + 1) :
    Begun.Fits ⟨p.lead, p.start, p.read + 1, due, 0x80, 0xBF, p.code * 0x40 + b % 0x40⟩
      (taken ++ [b]) := by
  intro c tail hc htail hcontinue
  rw [List.append_assoc]
  refine h b (c :: tail) hb ?_ (List.forall_mem_cons.2 ⟨hc, hcontinue⟩)
  rw [List.length_cons, htail, hdue]

theorem Begun.Fits.last {taken : List Nat} (h : p.Fits taken) (hb : p.low ≤ b ∧ b ≤ p.high)
    (hdue : p.due = 0) :
    taken ++ [b] = units (Char.ofNat (p.code * 0x40 + b % 0x40)).toNat :=
  h b [] hb hdue.symm (by simp)

/-- What has been taken of a character that has begun, if there is one. -/
def Taken : Option Begun → List Nat → Prop
  | none, taken => taken = []
  | some p, taken => p.Fits taken

/-- Together with what has been taken, the bytes are those that encode what is decoded. -/
theorem taken_append_eq_of_decodeFrom {bytes taken : List Nat} {begun : Option Begun}
    {cs : List Char} (h : decodeFrom position begun bytes = .ok cs) (htaken : Taken begun taken) :
    taken ++ bytes = cs.flatMap fun c => units c.toNat := by
  -- A byte that ends a character clears what has been taken, and any other one is taken with it.
  induction bytes generalizing position begun taken cs with
  | nil =>
    cases begun with
    | none =>
      rw [decodeFrom] at h
      cases h
      rw [htaken]
      rfl
    | some p => rw [decodeFrom] at h; cases h
  | cons b rest ih =>
    cases begun with
    | none =>
      cases htaken
      cases hsize : tailSize? b with
      | none => rw [decodeFrom, hsize] at h; cases h
      | some due =>
        cases due with
        | zero =>
          rw [decodeFrom_single hsize] at h
          obtain ⟨more, hmore, rfl⟩ := map_eq_ok_iff.1 h
          rw [List.flatMap_cons, ← ih hmore rfl, ← units_single hsize]
          rfl
        | succ due =>
          rw [decodeFrom_begin due hsize] at h
          have hrest := ih h (Begun.fits_begin hsize)
          simpa using hrest
    | some p =>
      by_cases hb : p.low ≤ b ∧ b ≤ p.high
      · cases hdue : p.due with
        | zero =>
          rw [decodeFrom_last hb hdue] at h
          obtain ⟨more, hmore, rfl⟩ := map_eq_ok_iff.1 h
          rw [List.flatMap_cons, ← ih hmore rfl, ← Begun.Fits.last htaken hb hdue,
            List.append_assoc]
          rfl
        | succ due =>
          rw [decodeFrom_next hb hdue] at h
          have hrest := ih h (Begun.Fits.next htaken hb hdue)
          simpa using hrest
      · have hrange : b < p.low ∨ p.high < b := by omega
        rw [decodeFrom, if_pos hrange] at h
        cases h

/-! ## Bytes -/

theorem toList_loop (bytes : ByteArray) (i : Nat) (read : List UInt8) :
    ByteArray.toList.loop bytes i read = read.reverse ++ bytes.data.toList.drop i := by
  fun_induction ByteArray.toList.loop bytes i read with
  | case1 i read hlt ih =>
    have hlength : i < bytes.data.toList.length := hlt
    have hget : bytes.get! i = bytes.data.toList[i] := getElem!_pos bytes.data i hlt
    rw [ih, List.drop_eq_getElem_cons hlength, List.reverse_cons, List.append_assoc, hget]
    rfl
  | case2 i read hnot =>
    have hlength : bytes.data.toList.length ≤ i := Nat.le_of_not_lt hnot
    rw [List.drop_eq_nil_of_le hlength, List.append_nil]

theorem toList_eq (bytes : ByteArray) : bytes.toList = bytes.data.toList := by
  rw [ByteArray.toList, toList_loop]
  rfl

theorem toList_utf8Encode (cs : List Char) :
    cs.utf8Encode.toList.map UInt8.toNat = cs.flatMap fun c => units c.toNat := by
  rw [toList_eq, List.utf8Encode, List.toList_data_toByteArray, List.map_flatMap]
  simp only [map_toNat_utf8EncodeChar]

theorem eq_of_map_toNat_toList {content content' : ByteArray}
    (h : content.toList.map UInt8.toNat = content'.toList.map UInt8.toNat) :
    content = content' := by
  have hlist : content.toList = content'.toList :=
    List.map_injective_iff.2 (fun _ _ => UInt8.toNat_inj.1) h
  rw [toList_eq, toList_eq] at hlist
  exact ByteArray.ext (Array.toList_inj.1 hlist)

/-- Some bytes are decoded as a text just where they are its encoding. -/
theorem decode_eq_ok_iff {content : ByteArray} {cs : List Char} :
    decode content = .ok cs ↔ content = cs.utf8Encode := by
  constructor
  · intro h
    refine eq_of_map_toNat_toList ?_
    rw [toList_utf8Encode, ← taken_append_eq_of_decodeFrom h rfl]
    rfl
  · rintro rfl
    rw [decode, toList_utf8Encode, decodeFrom_flatMap_units]

theorem exists_decode_iff {content : ByteArray} :
    (∃ cs, decode content = .ok cs) ↔ content.IsValidUTF8 := by
  simp only [decode_eq_ok_iff]
  exact ⟨fun ⟨cs, h⟩ => ⟨cs, h⟩, fun ⟨cs, h⟩ => ⟨cs, h⟩⟩

end GatedModules.Text.Utf8
