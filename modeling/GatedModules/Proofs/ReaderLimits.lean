import GatedModules.Json.Reader
import GatedModules.Proofs.Results
import Mathlib.Data.List.Infix
import Mathlib.Tactic.SplitIfs

/-!
# The limits of the reader

The reader takes a text from the left and leaves the end of it. So it stops at an integer of too
many digits only where that many stand in a row, and at a value that stands in too many others only
where that many brackets open.
-/

namespace GatedModules.Json

variable {α β : Type} {depth n : Nat} {c : Char} {cs rest : List Char} {s : Stop}

def isOpening (c : Char) : Bool := c == '[' || c == '\x7b'

/-- How many brackets of a text may open a list or an object. -/
def openings (cs : List Char) : Nat := cs.countP isOpening

/-- A number of digits stand in a row in a text. -/
def HasDigits (n : Nat) (cs : List Char) : Prop :=
  ∃ digits, digits <:+: cs ∧ digits.length = n ∧ ∀ c ∈ digits, isDigit c = true

/-- What a text has in it where reading stops while `depth` lists and objects may stand in one
another. -/
def Accounts (depth : Nat) (cs : List Char) : Stop → Prop
  | .fault _ _ => True
  | .tooLong n => Text.digitLimit < n ∧ HasDigits n cs
  | .tooDeep _ => depth < openings cs

/-- What is left is the end of the text, and the text accounts for a stop. -/
def Reads (depth : Nat) (cs : List Char) (x : Except Stop (α × List Char)) : Prop :=
  Yields (fun p => p.2 <:+ cs) (Accounts depth cs) x

theorem Accounts.of_suffix (hrest : rest <:+ cs) (h : Accounts depth rest s) :
    Accounts depth cs s := by
  cases s with
  | fault => trivial
  | tooLong n =>
    obtain ⟨hlong, digits, hdigits, hall⟩ := h
    exact ⟨hlong, digits, hdigits.trans hrest.isInfix, hall⟩
  | tooDeep => exact Nat.lt_of_lt_of_le h hrest.sublist.countP_le

/-- Behind a bracket one value less may be opened. -/
theorem Accounts.behind (hc : isOpening c = true) (h : Accounts depth cs s) :
    Accounts (depth + 1) (c :: cs) s := by
  cases s with
  | fault => trivial
  | tooLong n =>
    obtain ⟨hlong, digits, hdigits, hall⟩ := h
    exact ⟨hlong, digits, hdigits.trans (List.suffix_cons c cs).isInfix, hall⟩
  | tooDeep =>
    change depth + 1 < openings (c :: cs)
    rw [openings, List.countP_cons_of_pos hc]
    exact Nat.succ_lt_succ h

namespace Reads

variable {x : Except Stop (α × List Char)}

theorem of_suffix (hrest : rest <:+ cs) (h : Reads depth rest x) : Reads depth cs x := by
  cases x with
  | ok p => exact List.IsSuffix.trans h hrest
  | error s => exact Accounts.of_suffix hrest h

theorem behind (hc : isOpening c = true) (h : Reads depth cs x) :
    Reads (depth + 1) (c :: cs) x := by
  cases x with
  | ok p => exact List.IsSuffix.trans h (List.suffix_cons c cs)
  | error s => exact Accounts.behind hc h

theorem bind {f : α × List Char → Except Stop (β × List Char)} (h : Reads depth cs x)
    (hf : ∀ a rest, rest <:+ cs → Reads depth cs (f (a, rest))) : Reads depth cs (x >>= f) :=
  Yields.bind h fun p hp => hf p.1 p.2 hp

theorem map {f : α × List Char → β × List Char} (h : Reads depth cs x)
    (hf : ∀ p, (f p).2 = p.2) : Reads depth cs (x.map f) :=
  Yields.map h fun p hp => (hf p).symm ▸ hp

theorem done {a : α} (h : rest <:+ cs) :
    Reads depth cs (.ok (a, rest) : Except Stop (α × List Char)) := h

theorem fault {kind : Fault} {place : List Char} :
    Reads depth cs (.error (.fault kind place) : Except Stop (α × List Char)) := trivial

end Reads

/-! ## Strings -/

theorem skipSpace_suffix (cs : List Char) : skipSpace cs <:+ cs := List.dropWhile_suffix _

theorem suffix_of_skipSpace_eq (h : skipSpace cs = c :: rest) : rest <:+ cs :=
  (h ▸ List.suffix_cons c rest).trans (skipSpace_suffix cs)

theorem readPoints_reads (opening : List Char) (skip : Nat) (cs : List Char) :
    Reads depth cs (readPoints opening skip cs) := by
  induction cs generalizing skip with
  | nil => rw [readPoints]; exact .fault
  | cons c cs ih =>
    have hbehind (skip : Nat) : Reads depth (c :: cs) (readPoints opening skip cs) :=
      (ih skip).of_suffix (List.suffix_cons c cs)
    cases skip with
    | succ skip => exact hbehind skip
    | zero =>
      rw [readPoints]
      split_ifs
      · exact .done (List.suffix_cons c cs)
      · exact .fault
      · split
        · exact .fault
        · exact (hbehind _).map fun _ => rfl
      · exact .fault
      · exact (hbehind 0).map fun _ => rfl

theorem readString_reads (cs : List Char) : Reads depth cs (readString cs) :=
  (readPoints_reads _ 0 cs).map fun _ => rfl

/-! ## Numbers and words -/

theorem splitFraction_suffix (cs : List Char) : (splitFraction cs).2 <:+ cs := by
  unfold splitFraction
  split
  · split_ifs
    · exact List.suffix_refl _
    · exact (List.dropWhile_suffix _).trans (List.suffix_cons _ _)
  · exact List.suffix_refl _

theorem splitExponent_suffix (cs : List Char) : (splitExponent cs).2 <:+ cs := by
  unfold splitExponent
  split
  · next e rest =>
    split
    · split
      next negative digits hsign =>
      have hdigits : digits <:+ rest := by
        split at hsign <;> cases hsign
        · exact List.suffix_cons _ _
        · exact List.suffix_cons _ _
        · exact List.suffix_refl _
      split
      · exact List.suffix_refl _
      · exact ((List.dropWhile_suffix _).trans hdigits).trans (List.suffix_cons e rest)
    · exact List.suffix_refl _
  · exact List.suffix_refl _

/-- The digits before a point and what follows them make up the text. -/
theorem splitWhole_spec (cs : List Char) :
    (splitWhole cs).1 ++ (splitWhole cs).2 = cs ∧ ∀ c ∈ (splitWhole cs).1, isDigit c = true := by
  unfold splitWhole
  split
  · exact ⟨rfl, by simp [isDigit]⟩
  · exact ⟨List.takeWhile_append_dropWhile, List.all_eq_true.1 (List.all_takeWhile)⟩

theorem readNumber_reads (start : List Char) : Reads depth start (readNumber start) := by
  unfold readNumber
  split
  next negative unsigned hsign =>
  have hunsigned : unsigned <:+ start := by
    split at hsign <;> cases hsign
    · exact List.suffix_cons _ _
    · exact List.suffix_refl _
  split
  next whole afterWhole hwhole =>
  obtain ⟨hparts, hdigits⟩ := splitWhole_spec unsigned
  rw [hwhole] at hparts hdigits
  split
  · exact .fault
  split
  next fraction afterFraction hfraction =>
  split
  next exponent rest hexponent =>
  have hrest : rest <:+ start := by
    have hafterFraction := splitFraction_suffix afterWhole
    have hafterExponent := splitExponent_suffix afterFraction
    rw [hfraction] at hafterFraction
    rw [hexponent] at hafterExponent
    have hafterWhole : afterWhole <:+ unsigned := ⟨whole, hparts⟩
    exact hafterExponent.trans (hafterFraction.trans (hafterWhole.trans hunsigned))
  split
  · split
    · next hlong =>
      have hwhole : whole <:+: unsigned := ⟨[], afterWhole, hparts⟩
      exact ⟨hlong, whole, hwhole.trans hunsigned.isInfix, rfl, hdigits⟩
    · exact .done hrest
  · exact .done hrest

theorem readScalar_reads (cs : List Char) : Reads depth cs (readScalar cs) := by
  unfold readScalar
  split
  · exact .done (List.drop_suffix _ _)
  · exact readNumber_reads cs

/-! ## Values -/

/-- What is said of the reader with some fuel. -/
structure ReadsWith (fuel : Nat) : Prop where
  value : ∀ depth cs, Reads depth cs (readValue depth fuel cs)
  items : ∀ depth cs, Reads depth cs (readItems depth fuel cs)
  members : ∀ depth cs, Reads depth cs (readMembers depth fuel cs)

theorem readsWith_zero : ReadsWith 0 where
  value depth cs := by
    unfold readValue
    exact readScalar_reads cs
  items depth cs := by
    unfold readItems
    exact .fault
  members depth cs := by
    unfold readMembers
    exact .fault

theorem openings_pos (hc : isOpening c = true) (cs : List Char) : 0 < openings (c :: cs) := by
  rw [openings, List.countP_cons_of_pos hc]
  exact Nat.succ_pos _

/-- The bracket of a list or an object accounts for the one level less that its content has. -/
theorem ReadsWith.value_succ {fuel : Nat} (ih : ReadsWith fuel) (depth : Nat) (cs : List Char) :
    Reads depth cs (readValue depth (fuel + 1) cs) := by
  unfold readValue
  split
  · next rest _ =>
    have hstring : Reads depth ('"' :: rest) (readString rest) :=
      (readString_reads rest).of_suffix (List.suffix_cons _ rest)
    exact hstring.bind fun _ _ hmore => .done hmore
  · next fuel' rest hfuel =>
    obtain rfl : fuel = fuel' := Nat.succ.inj hfuel
    cases depth with
    | zero => exact openings_pos rfl rest
    | succ depth =>
      rw [if_neg (Nat.succ_ne_zero depth)]
      split
      · next more hskip =>
        exact .done ((suffix_of_skipSpace_eq hskip).trans (List.suffix_cons _ rest))
      · have hitems : Reads (depth + 1) ('[' :: rest) (readItems depth fuel (skipSpace rest)) :=
          ((ih.items depth _).of_suffix (skipSpace_suffix rest)).behind rfl
        exact hitems.bind fun _ _ hmore => .done hmore
  · next fuel' rest hfuel =>
    obtain rfl : fuel = fuel' := Nat.succ.inj hfuel
    cases depth with
    | zero => exact openings_pos rfl rest
    | succ depth =>
      rw [if_neg (Nat.succ_ne_zero depth)]
      split
      · next more hskip =>
        exact .done ((suffix_of_skipSpace_eq hskip).trans (List.suffix_cons _ rest))
      · have hmembers : Reads (depth + 1) ('\x7b' :: rest)
            (readMembers depth fuel (skipSpace rest)) :=
          ((ih.members depth _).of_suffix (skipSpace_suffix rest)).behind rfl
        exact hmembers.bind fun _ _ hmore => .done hmore
  · exact readScalar_reads _

theorem ReadsWith.items_succ {fuel : Nat} (ih : ReadsWith fuel) (depth : Nat) (cs : List Char) :
    Reads depth cs (readItems depth (fuel + 1) cs) := by
  unfold readItems
  refine (ih.value depth cs).bind fun value rest hrest => ?_
  dsimp only
  split
  · next more hskip => exact .done ((suffix_of_skipSpace_eq hskip).trans hrest)
  · next more hskip =>
    have hmore : skipSpace more <:+ cs :=
      (skipSpace_suffix more).trans ((suffix_of_skipSpace_eq hskip).trans hrest)
    exact ((ih.items depth _).of_suffix hmore).bind fun _ _ hend => .done hend
  · exact .fault

theorem ReadsWith.members_succ {fuel : Nat} (ih : ReadsWith fuel) (depth : Nat) (cs : List Char) :
    Reads depth cs (readMembers depth (fuel + 1) cs) := by
  unfold readMembers
  split
  · next rest =>
    have hstring : Reads depth ('"' :: rest) (readString rest) :=
      (readString_reads rest).of_suffix (List.suffix_cons _ rest)
    refine hstring.bind fun key named hnamed => ?_
    dsimp only
    split
    · next more hskip =>
      have hmore : skipSpace more <:+ '"' :: rest :=
        (skipSpace_suffix more).trans ((suffix_of_skipSpace_eq hskip).trans hnamed)
      refine ((ih.value depth _).of_suffix hmore).bind fun value next hnext => ?_
      dsimp only
      split
      · next last hskip => exact .done ((suffix_of_skipSpace_eq hskip).trans hnext)
      · next last hskip =>
        have hlast : skipSpace last <:+ '"' :: rest :=
          (skipSpace_suffix last).trans ((suffix_of_skipSpace_eq hskip).trans hnext)
        exact ((ih.members depth _).of_suffix hlast).bind fun _ _ hend => .done hend
      · exact .fault
    · exact .fault
  · exact .fault

theorem readsWith (fuel : Nat) : ReadsWith fuel := by
  induction fuel with
  | zero => exact readsWith_zero
  | succ fuel ih => exact ⟨ih.value_succ, ih.items_succ, ih.members_succ⟩

theorem readText_accounts (cs : List Char) :
    Yields (fun _ => True) (Accounts depthLimit cs) (readText cs) := by
  unfold readText
  split
  · trivial
  · have hvalue : Reads depthLimit cs (readValue depthLimit (2 * cs.length + 1) (skipSpace cs)) :=
      ((readsWith _).value _ _).of_suffix (skipSpace_suffix cs)
    refine Yields.bind hvalue fun p _ => ?_
    dsimp only
    split <;> trivial

/-! ## Lines -/

/-- Digits do not stand across the end of a line. -/
theorem eq_nil_of_prefix_newline {digits : List Char} (h : digits <+: '\n' :: cs)
    (hdigits : ∀ c ∈ digits, isDigit c = true) : digits = [] := by
  cases digits with
  | nil => rfl
  | cons d digits =>
    obtain ⟨rfl, -⟩ := List.cons_prefix_cons.1 h
    exact absurd (hdigits '\n' List.mem_cons_self) (by decide)

theorem prefix_of_prefix_unifyNewlines {digits : List Char} (h : digits <+: Text.unifyNewlines cs)
    (hdigits : ∀ c ∈ digits, isDigit c = true) : digits <+: cs := by
  fun_induction Text.unifyNewlines cs generalizing digits with
  | case1 => exact h
  | case2 rest ih =>
    rw [eq_nil_of_prefix_newline h hdigits]
    exact List.nil_prefix
  | case3 rest hnot ih =>
    rw [eq_nil_of_prefix_newline h hdigits]
    exact List.nil_prefix
  | case4 c rest hnot hnot' ih =>
    cases digits with
    | nil => exact List.nil_prefix
    | cons d digits =>
      obtain ⟨rfl, hrest⟩ := List.cons_prefix_cons.1 h
      have hmore := ih hrest fun c hc => hdigits c (List.mem_cons_of_mem _ hc)
      exact List.cons_prefix_cons.2 ⟨rfl, hmore⟩

theorem infix_of_infix_unifyNewlines {digits : List Char} (h : digits <:+: Text.unifyNewlines cs)
    (hdigits : ∀ c ∈ digits, isDigit c = true) : digits <:+: cs := by
  fun_induction Text.unifyNewlines cs with
  | case1 => exact h
  | case2 rest ih =>
    rcases List.infix_cons_iff.1 h with hprefix | hinfix
    · rw [eq_nil_of_prefix_newline hprefix hdigits]
      exact List.nil_infix
    · exact (ih hinfix).trans ⟨['\r', '\n'], [], by simp⟩
  | case3 rest hnot ih =>
    rcases List.infix_cons_iff.1 h with hprefix | hinfix
    · rw [eq_nil_of_prefix_newline hprefix hdigits]
      exact List.nil_infix
    · exact (ih hinfix).trans (List.suffix_cons _ rest).isInfix
  | case4 c rest hnot hnot' ih =>
    rcases List.infix_cons_iff.1 h with hprefix | hinfix
    · rw [← Text.unifyNewlines] at hprefix
      · exact (prefix_of_prefix_unifyNewlines hprefix hdigits).isInfix
      all_goals assumption
    · exact (ih hinfix).trans (List.suffix_cons c rest).isInfix

theorem hasDigits_of_unifyNewlines (h : HasDigits n (Text.unifyNewlines cs)) : HasDigits n cs := by
  obtain ⟨digits, hinfix, hlength, hdigits⟩ := h
  exact ⟨digits, infix_of_infix_unifyNewlines hinfix hdigits, hlength, hdigits⟩

theorem openings_unifyNewlines (cs : List Char) :
    openings (Text.unifyNewlines cs) = openings cs := by
  fun_induction Text.unifyNewlines cs with
  | case1 => rfl
  | case2 rest ih => simpa [openings, isOpening] using ih
  | case3 rest hnot ih => simpa [openings, isOpening] using ih
  | case4 c rest hnot hnot' ih => simpa [openings, List.countP_cons] using ih

/-! ## Reading -/

/-- An integer of too many digits stands in the text. -/
theorem hasDigits_of_read (h : read (Text.unifyNewlines cs) = .error (.tooLong n)) :
    Text.digitLimit < n ∧ HasDigits n cs := by
  obtain ⟨s, hs, hlocate⟩ := mapError_eq_error_iff.1 h
  have haccounts := (readText_accounts _).bearable_of_error hs
  cases s with
  | fault => cases hlocate
  | tooLong digits =>
    cases hlocate
    exact ⟨haccounts.1, hasDigits_of_unifyNewlines haccounts.2⟩
  | tooDeep => cases hlocate

/-- More brackets open in the text than lists and objects may stand in one another. -/
theorem openings_of_read {container : Container}
    (h : read (Text.unifyNewlines cs) = .error (.tooDeep container)) :
    depthLimit < openings cs := by
  obtain ⟨s, hs, hlocate⟩ := mapError_eq_error_iff.1 h
  have haccounts := (readText_accounts _).bearable_of_error hs
  cases s with
  | fault => cases hlocate
  | tooLong digits => cases hlocate
  | tooDeep => exact openings_unifyNewlines cs ▸ haccounts

/-! ## Brackets that only open -/

theorem skipSpace_brackets (n : Nat) :
    skipSpace (List.replicate n '[') = List.replicate n '[' := by
  cases n with
  | zero => rfl
  | succ n => rfl

/-- Brackets that only open are followed down to the limit. -/
theorem readValue_brackets {depth n fuel : Nat} (hn : depth < n) (hfuel : 2 * depth < fuel) :
    readValue depth fuel (List.replicate n '[') = .error (.tooDeep .list) := by
  induction depth generalizing n fuel with
  | zero =>
    obtain ⟨n, rfl⟩ := Nat.exists_eq_succ_of_ne_zero (Nat.ne_of_gt hn)
    obtain ⟨fuel, rfl⟩ := Nat.exists_eq_succ_of_ne_zero (Nat.ne_of_gt hfuel)
    rw [List.replicate_succ, readValue]
    rfl
  | succ depth ih =>
    obtain ⟨n, rfl⟩ : ∃ m, n = m + 2 := ⟨n - 2, by omega⟩
    obtain ⟨fuel, rfl⟩ : ∃ f, fuel = f + 2 := ⟨fuel - 2, by omega⟩
    have hvalue : readValue depth fuel (List.replicate (n + 1) '[') = .error (.tooDeep .list) :=
      ih (by omega) (by omega)
    have hitems : readItems depth (fuel + 1) (List.replicate (n + 1) '[') =
        .error (.tooDeep .list) := by
      rw [readItems, hvalue]
      rfl
    rw [List.replicate_succ, readValue, if_neg (Nat.succ_ne_zero depth), skipSpace_brackets]
    change (readItems depth (fuel + 1) (List.replicate (n + 1) '[') >>= _) = _
    rw [hitems]
    rfl

theorem readText_brackets {n : Nat} (h : depthLimit < n) :
    readText (List.replicate n '[') = .error (.tooDeep .list) := by
  have hvalue : readValue depthLimit (2 * n + 1) (List.replicate n '[') =
      .error (.tooDeep .list) := readValue_brackets h (by omega)
  obtain ⟨n, rfl⟩ := Nat.exists_eq_succ_of_ne_zero (Nat.ne_of_gt (Nat.zero_lt_of_lt h))
  rw [readText, if_neg (by simp [List.replicate_succ]), skipSpace_brackets,
    List.length_replicate, hvalue]
  rfl

theorem unifyNewlines_brackets (n : Nat) :
    Text.unifyNewlines (List.replicate n '[') = List.replicate n '[' := by
  induction n with
  | zero => rfl
  | succ n ih =>
    rw [List.replicate_succ, Text.unifyNewlines, ih] <;> simp

theorem read_brackets {n : Nat} (h : depthLimit < n) :
    read (Text.unifyNewlines (List.replicate n '[')) = .error (.tooDeep .list) := by
  rw [unifyNewlines_brackets, read, readText_brackets h]
  rfl

end GatedModules.Json
