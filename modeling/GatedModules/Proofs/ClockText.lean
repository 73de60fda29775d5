import GatedModules.Console.Basic
import Mathlib.Algebra.Order.Floor.Semifield
import Mathlib.Data.Nat.Digits.Defs
import Mathlib.Data.Rat.Floor
import Mathlib.Tactic.Linarith
import Mathlib.Tactic.NormNum

/-!
# What a clock time shows

A time is shown to the nearest hundredth of a second. The seconds are rounded when the minutes have
been split off already, so the last half hundredth of a minute shows as sixty seconds and does not
become the next minute.
-/

namespace GatedModules

/-! ## Rounding -/

/-- The natural number nearest to `q`; of two that are equally near, the even one. -/
structure RoundsTo (q : ℚ) (n : ℕ) : Prop where
  near : |q - n| ≤ 1 / 2
  tie : |q - n| = 1 / 2 → Even n

theorem RoundsTo.le_add_half {q : ℚ} {n : ℕ} (h : RoundsTo q n) : q ≤ n + 1 / 2 := by
  linarith [(abs_le.1 h.near).2]

theorem RoundsTo.sub_half_le {q : ℚ} {n : ℕ} (h : RoundsTo q n) : n - 1 / 2 ≤ q := by
  linarith [(abs_le.1 h.near).1]

theorem RoundsTo.unique {q : ℚ} {m n : ℕ} (hm : RoundsTo q m) (hn : RoundsTo q n) : m = n := by
  wlog hle : m ≤ n generalizing m n
  · exact (this hn hm (Nat.le_of_not_le hle)).symm
  by_contra hne
  have hlt : m + 1 ≤ n := Nat.lt_of_le_of_ne hle hne
  have hcast : (m : ℚ) + 1 ≤ n := by exact_mod_cast hlt
  -- The two are a half away on either side, so they are neighbours and both even.
  have hnext : (n : ℚ) = m + 1 := by linarith [hm.le_add_half, hn.sub_half_le]
  have hq : q = m + 1 / 2 := by linarith [hm.le_add_half, hn.sub_half_le]
  have hmeven : Even m := hm.tie (by rw [hq]; norm_num)
  have hneven : Even n := hn.tie (by rw [hq, hnext]; norm_num)
  have hnm : n = m + 1 := by exact_mod_cast hnext
  rw [hnm, Nat.even_add_one] at hneven
  exact hneven hmeven

theorem RoundsTo.add {q : ℚ} {n k : ℕ} (h : RoundsTo q n) (hk : Even k) :
    RoundsTo (q + k) (k + n) := by
  have hsame : q + k - ((k + n : ℕ) : ℚ) = q - n := by push_cast; ring
  refine ⟨hsame ▸ h.near, fun htie => ?_⟩
  exact hk.add (h.tie (hsame ▸ htie))

theorem RoundsTo.of_lt_half {q : ℚ} {n : ℕ} (h : |q - n| < 1 / 2) : RoundsTo q n :=
  ⟨h.le, fun htie => absurd htie h.ne⟩

theorem roundsTo_midpoint (n : ℕ) : RoundsTo (n + 1 / 2) (n + n % 2) := by
  rcases Nat.mod_two_eq_zero_or_one n with hn | hn
  · rw [hn]
    refine ⟨by norm_num, fun _ => Nat.even_iff.2 hn⟩
  · rw [hn]
    refine ⟨by push_cast; norm_num, fun _ => Nat.even_iff.2 (by omega)⟩

theorem roundsTo_roundHalfEven (num : ℕ) {den : ℕ} (h : 0 < den) :
    RoundsTo (num / den) (roundHalfEven num den) := by
  have hden : (0 : ℚ) < den := by exact_mod_cast h
  obtain ⟨rest, hrest⟩ : ∃ rest : ℚ, rest = ((num % den : ℕ) : ℚ) / den := ⟨_, rfl⟩
  have hmul : rest * den = (num % den : ℕ) := by rw [hrest, div_mul_cancel₀ _ hden.ne']
  have hsplit : (num : ℚ) / den = (num / den : ℕ) + rest := by
    have hnum : (den : ℚ) * (num / den : ℕ) + (num % den : ℕ) = num := by
      exact_mod_cast Nat.div_add_mod num den
    rw [div_eq_iff hden.ne', add_mul, hmul, ← hnum, mul_comm]
  have hnonneg : 0 ≤ rest := hrest ▸ by positivity
  have hlt : rest < 1 := by
    rw [hrest, div_lt_one hden]
    exact_mod_cast Nat.mod_lt num h
  have hbelow : rest < 1 / 2 ↔ 2 * (num % den) < den := by
    rw [hrest, div_lt_div_iff₀ hden two_pos, one_mul, mul_comm]
    norm_cast
  have habove : 1 / 2 < rest ↔ den < 2 * (num % den) := by
    rw [hrest, div_lt_div_iff₀ two_pos hden, one_mul, mul_comm]
    norm_cast
  rw [hsplit, roundHalfEven]
  split_ifs with hdown hup
  · refine .of_lt_half ?_
    rw [add_sub_cancel_left, abs_of_nonneg hnonneg]
    exact hbelow.2 hdown
  · refine .of_lt_half (abs_lt.2 ?_)
    push_cast
    constructor <;> linarith [habove.2 hup]
  · have htie : rest = 1 / 2 :=
      le_antisymm (not_lt.1 (mt habove.1 hup)) (not_lt.1 (mt hbelow.1 hdown))
    rw [htie]
    exact roundsTo_midpoint _

/-! ## Padding -/

theorem length_padLeft (width : ℕ) (pad : Char) (s : String) :
    (padLeft width pad s).length = max width s.length := by
  rw [padLeft, String.length_append, String.length_ofList, List.length_replicate]
  omega

theorem padLeft_append (width : ℕ) (pad : Char) (s t : String) :
    padLeft (width + t.length) pad (s ++ t) = padLeft width pad s ++ t := by
  rw [padLeft, padLeft, String.length_append, Nat.add_sub_add_right, String.append_assoc]

/-! ## Numbers behind doubles -/

namespace Double

/-- The exact value of a finite double. -/
def value (x : Double) : ℚ := x.toFraction.1 / x.toFraction.2

theorem toFraction_den_pos (x : Double) : 0 < x.toFraction.2 := by
  cases x with
  | finite negative m e => exact Nat.pow_pos two_pos
  | nan | infinite negative => exact one_pos

end Double

namespace ClockTime

/-- The text of whole minutes and hundredths of a second beyond them. -/
def layout (minutes hundredths : ℕ) : String :=
  padLeft 2 '0' (toString minutes) ++ ":" ++ padLeft 2 '0' (toString (hundredths / 100)) ++ "."
    ++ padLeft 2 '0' (toString (hundredths % 100))

theorem padLeft_fixedText (num den : ℕ) :
    let hundredths := roundHalfEven (num * 100) den
    padLeft 5 '0' (fixedText 2 num den)
      = padLeft 2 '0' (toString (hundredths / 100)) ++ "."
        ++ padLeft 2 '0' (toString (hundredths % 100)) := by
  intro hundredths
  obtain ⟨decimals, hdecimals⟩ :
      ∃ decimals, decimals = "." ++ padLeft 2 '0' (toString (hundredths % 100)) := ⟨_, rfl⟩
  have hdigits : (toString (hundredths % 100)).length ≤ 2 :=
    Nat.repr_length _ 2 two_pos (Nat.mod_lt _ (by decide))
  have hlength : decimals.length = 3 := by
    rw [hdecimals, String.length_append, length_padLeft, max_eq_left hdigits]
    rfl
  have hfixed : fixedText 2 num den = toString (hundredths / 100) ++ decimals := by
    rw [hdecimals, ← String.append_assoc]
    rfl
  have hpad := padLeft_append 2 '0' (toString (hundredths / 100)) decimals
  rw [hlength] at hpad
  rw [hfixed, hpad, hdecimals, String.append_assoc]

/-- The minutes and hundredths of a second that stand for `q` seconds: the minutes are the whole
ones, and together they are `q` to the nearest hundredth. -/
structure Reading (q : ℚ) (minutes hundredths : ℕ) : Prop where
  whole : minutes = ⌊q / 60⌋₊
  rounded : RoundsTo (100 * q) (6000 * minutes + hundredths)

namespace Reading

variable {q : ℚ} {minutes hundredths : ℕ}

theorem unique (h : Reading q minutes hundredths) {minutes' hundredths' : ℕ}
    (h' : Reading q minutes' hundredths') : minutes' = minutes ∧ hundredths' = hundredths := by
  have hminutes : minutes' = minutes := h'.whole.trans h.whole.symm
  have hsum := h'.rounded.unique h.rounded
  omega

theorem lt_minute (h : Reading q minutes hundredths) : q < 60 * minutes + 60 := by
  have hfloor := Nat.lt_floor_add_one (q / 60)
  rw [← h.whole, div_lt_iff₀ (by norm_num)] at hfloor
  linarith

theorem le_minute (h : Reading q minutes hundredths) : hundredths ≤ 6000 := by
  have hlt := h.lt_minute
  have hnear := h.rounded.sub_half_le
  push_cast at hnear
  have hcast : (hundredths : ℚ) < 6001 := by linarith
  have hnat : hundredths < 6001 := by exact_mod_cast hcast
  omega

/-- A time shows sixty seconds exactly where at most half a hundredth is missing to the next
minute. -/
theorem eq_minute_iff (h : Reading q minutes hundredths) :
    hundredths = 6000 ↔ 59.995 ≤ q - 60 * minutes := by
  have hlow := h.rounded.sub_half_le
  have hhigh := h.rounded.le_add_half
  push_cast at hlow hhigh
  constructor
  · rintro rfl
    push_cast at hlow
    linarith
  · intro hq
    have hcast : (5999 : ℚ) ≤ hundredths := by linarith
    have hnat : 5999 ≤ hundredths := by exact_mod_cast hcast
    rcases Nat.lt_or_ge hundredths 6000 with hlt | hge
    · have hlast : hundredths = 5999 := by omega
      -- Half a hundredth is missing, and the number of hundredths below is odd.
      subst hlast
      push_cast at hhigh
      have htie : 100 * q - ((6000 * minutes + 5999 : ℕ) : ℚ) = 1 / 2 := by
        push_cast
        linarith
      have heven := Nat.even_iff.1 (h.rounded.tie (by rw [htie]; norm_num))
      omega
    · exact le_antisymm h.le_minute hge

end Reading

theorem ofFraction_natCast (num den : ℕ) :
    ofFraction num den = ⟨(num / (60 * den) : ℕ), num % (60 * den), den⟩ := by
  rw [ofFraction]
  norm_cast

@[simp] theorem ofFraction_zero (den : ℕ) : ofFraction 0 den = ⟨0, 0, den⟩ := by simp [ofFraction]

theorem text_ofFraction (num : ℕ) {den : ℕ} (h : 0 < den) :
    ∃ minutes hundredths, Reading (num / den) minutes hundredths ∧
      (ofFraction num den).text = layout minutes hundredths := by
  have hden : (0 : ℚ) < den := by exact_mod_cast h
  obtain ⟨minutes, hminutes⟩ : ∃ minutes, minutes = num / (60 * den) := ⟨_, rfl⟩
  obtain ⟨rest, hrest⟩ : ∃ rest, rest = num % (60 * den) := ⟨_, rfl⟩
  have hsplit : num = 60 * den * minutes + rest := by
    rw [hminutes, hrest, Nat.div_add_mod]
  refine ⟨minutes, roundHalfEven (rest * 100) den, ⟨?_, ?_⟩, ?_⟩
  · rw [hminutes, ← Nat.floor_div_eq_div (K := ℚ), div_div, mul_comm]
    push_cast
    rfl
  · have hround := (roundsTo_roundHalfEven (rest * 100) h).add
      (k := 6000 * minutes) (Nat.even_iff.2 (by omega))
    convert hround using 1
    rw [hsplit]
    push_cast
    field_simp
    ring
  · rw [ofFraction_natCast, ← hminutes, ← hrest, text, padLeft_fixedText, layout]
    simp only [String.append_assoc]
    rfl

/-! ## Seconds that are doubles -/

theorem ofSeconds?_of_value {x : Double} (hfinite : x.isFinite) (hnonneg : 0 ≤ x.value)
    (hlimit : x.value < exactLimit) :
    ∃ num den : ℕ, 0 < den ∧ x.value = num / den ∧ ofSeconds? x = some (ofFraction num den) := by
  obtain ⟨den, hden⟩ : ∃ den, x.toFraction.2 = den := ⟨_, rfl⟩
  have hpos : 0 < den := hden ▸ x.toFraction_den_pos
  have hcast : (0 : ℚ) < den := by exact_mod_cast hpos
  obtain ⟨num, hnum⟩ : ∃ num : ℕ, x.toFraction.1 = num := by
    rw [Double.value, hden, le_div_iff₀ hcast, zero_mul] at hnonneg
    exact Int.eq_ofNat_of_zero_le (by exact_mod_cast hnonneg)
  have hvalue : x.value = num / den := by
    rw [Double.value, hnum, hden]
    rfl
  have hless : (num : ℤ).natAbs < exactLimit * den := by
    rw [hvalue, div_lt_iff₀ hcast] at hlimit
    exact_mod_cast hlimit
  cases hnegative : x.isNegative with
  | false =>
    refine ⟨num, den, hpos, hvalue, ?_⟩
    simp only [ofSeconds?, hfinite, hnum, hden, hless, hnegative, if_true, Bool.false_eq_true,
      if_false]
  | true =>
    -- A number with a sign that is not below zero is a negative zero.
    have hzero : num = 0 := by
      cases x with
      | finite negative m e =>
        cases hnegative
        have hsize : -((m * 2 ^ e.toNat : ℕ) : ℤ) = num := hnum
        omega
      | nan | infinite negative => cases hfinite
    subst hzero
    rw [Nat.cast_zero, zero_div] at hvalue
    refine ⟨0, _, (Double.nearest false 0 den).toFraction_den_pos, ?_, ?_⟩
    · rw [hvalue, Nat.cast_zero, zero_div]
    · rw [Nat.cast_zero] at hnum hless ⊢
      simp only [ofSeconds?, hfinite, hnum, hden, hless, hnegative, if_true, ofFraction_zero]
      rfl

/-- What is shown for a time of `q` seconds. The code reads the seconds off the clock as a double;
they are shown as the fraction that they are. -/
theorem text_reads {q : ℚ} (h : 0 ≤ q) :
    ∃ minutes hundredths : ℕ,
      (ofFraction q.num q.den).text = layout minutes hundredths ∧
      minutes = ⌊q / 60⌋₊ ∧
      RoundsTo (100 * q) (6000 * minutes + hundredths) ∧
      hundredths ≤ 6000 ∧
      (hundredths = 6000 ↔ 59.995 ≤ q - 60 * minutes) ∧
      ∀ c : Console, c.elapsed.isFinite → c.elapsed.value = q → q < exactLimit →
        c.time?.map text = some (layout minutes hundredths) := by
  obtain ⟨num, hnum⟩ : ∃ num : ℕ, q.num = num :=
    Int.eq_ofNat_of_zero_le (Rat.num_nonneg.2 h)
  obtain ⟨minutes, hundredths, hreading, htext⟩ := text_ofFraction num q.den_pos
  have hq : (num : ℚ) / q.den = q := by
    have hdiv := q.num_div_den
    rwa [hnum] at hdiv
  rw [hq] at hreading
  refine ⟨minutes, hundredths, hnum ▸ htext, hreading.whole, hreading.rounded,
    hreading.le_minute, hreading.eq_minute_iff, fun c hfinite hvalue hlimit => ?_⟩
  obtain ⟨n, d, hd, hnd, htime⟩ :=
    ofSeconds?_of_value hfinite (hvalue ▸ h) (hvalue ▸ hlimit)
  obtain ⟨minutes', hundredths', hreading', htext'⟩ := text_ofFraction n hd
  rw [← hnd, hvalue] at hreading'
  obtain ⟨rfl, rfl⟩ := hreading.unique hreading'
  rw [Console.time?, htime, Option.map_some, htext']

/-- A console that was started when its clock showed zero, and now shows `num / den` seconds. -/
def consoleAfter (num den : ℕ) : Console :=
  { startedAt := some .zero, now := .nearest false num den }

/-- A time in the middle between two hundredths shows the even one. -/
theorem midpoint_text_reads :
    let c := consoleAfter 521 8
    ((0 : ℚ) ≤ 521 / 8 ∧ c.elapsed.isFinite ∧ c.elapsed.value = 521 / 8 ∧
      (521 / 8 : ℚ) < exactLimit) ∧
    c.time?.map text = some "01:05.12" ∧
    ∃ minutes hundredths : ℕ,
      c.time?.map text = some (layout minutes hundredths) ∧
      minutes = ⌊(521 / 8 : ℚ) / 60⌋₊ ∧
      RoundsTo (100 * (521 / 8)) (6000 * minutes + hundredths) := by
  intro c
  have hnonneg : (0 : ℚ) ≤ 521 / 8 := by norm_num
  have hfinite : c.elapsed.isFinite = true := by decide +kernel
  have hvalue : c.elapsed.value = 521 / 8 := by
    have hfraction : c.elapsed.toFraction = (521 * 2 ^ 43, 2 ^ 46) := by decide +kernel
    rw [Double.value, hfraction]
    norm_num
  have hlimit : (521 / 8 : ℚ) < exactLimit := by
    rw [div_lt_iff₀ (by norm_num)]
    exact_mod_cast (by decide +kernel : 521 < exactLimit * 8)
  obtain ⟨minutes, hundredths, -, hwhole, hrounded, -, -, hshown⟩ := text_reads hnonneg
  exact ⟨⟨hnonneg, hfinite, hvalue, hlimit⟩, by decide +kernel, minutes, hundredths,
    hshown c hfinite hvalue hlimit, hwhole, hrounded⟩

/-- In the last half hundredth of a minute the console shows no minutes and sixty seconds. No
minutes with at most 59.99 seconds are written like that and are the time to the nearest
hundredth. -/
theorem minute_not_carried :
    let c := consoleAfter 15359 256
    c.elapsed.value = 15359 / 256 ∧
    c.time?.map text = some "00:60.00" ∧
    ¬ ∃ minutes hundredths : ℕ,
      c.time?.map text = some (layout minutes hundredths) ∧
      hundredths ≤ 5999 ∧
      RoundsTo (100 * (15359 / 256)) (6000 * minutes + hundredths) := by
  intro c
  have hshown : c.time?.map text = some "00:60.00" := by decide +kernel
  have hvalue : c.elapsed.value = 15359 / 256 := by
    have hfraction : c.elapsed.toFraction = (15359 * 2 ^ 39, 2 ^ 47) := by decide +kernel
    rw [Double.value, hfraction]
    norm_num
  refine ⟨hvalue, hshown, ?_⟩
  rintro ⟨minutes, hundredths, htext, hmost, hrounded⟩
  have hminute : RoundsTo (100 * (15359 / 256)) 6000 := .of_lt_half (by norm_num [abs_lt])
  have hsum := hrounded.unique hminute
  obtain ⟨rfl, rfl⟩ : minutes = 1 ∧ hundredths = 0 := by omega
  rw [hshown] at htext
  exact absurd htext (by decide +kernel)

end ClockTime

end GatedModules
