import GatedModules.Proofs.AsciiText
import GatedModules.Proofs.StringEscapes

/-!
# Values that read back

What is written for a value reads as that value, whatever the layout, unless the reader refuses it
for its size or cannot tell it from another: an integer has to be short enough, a text whole, the
names in an object distinct, and lists and objects not too deep in one another. The reader is given
what was written with something after it, so that the parts of a value can be taken one by one.
-/

namespace GatedModules.Json

/-! ## Blanks -/

theorem isSpace_iff {c : Char} :
    isSpace c = true ↔ c = ' ' ∨ c = '\t' ∨ c = '\n' ∨ c = '\r' := by
  simp [isSpace, or_assoc]

/-- Characters that the reader passes over between the parts of a value. -/
def Blank (gap : List Char) : Prop := ∀ c ∈ gap, isSpace c = true

theorem skipSpace_blank {gap : List Char} (h : Blank gap) (cs : List Char) :
    skipSpace (gap ++ cs) = skipSpace cs := by
  induction gap with
  | nil => rfl
  | cons c gap ih =>
    obtain ⟨hc, hgap⟩ := List.forall_mem_cons.1 h
    rw [List.cons_append, skipSpace, List.dropWhile_cons_of_pos hc]
    exact ih hgap

theorem skipSpace_cons {c : Char} (h : isSpace c = false) (cs : List Char) :
    skipSpace (c :: cs) = c :: cs :=
  List.dropWhile_cons_of_neg (by simp [h])

/-- A text that begins neither with a blank nor with a bracket that closes. -/
def Opens (cs : List Char) : Prop :=
  ∃ c rest, cs = c :: rest ∧ isSpace c = false ∧ c ≠ ']' ∧ c ≠ '\x7d'

theorem Opens.append {cs : List Char} (h : Opens cs) (more : List Char) : Opens (cs ++ more) := by
  obtain ⟨c, rest, rfl, hc⟩ := h
  exact ⟨c, rest ++ more, rfl, hc⟩

theorem opens_intercalate {parts : List (List Char)} (hparts : parts ≠ [])
    (h : ∀ part ∈ parts, Opens part) (separator : List Char) :
    Opens (separator.intercalate parts) := by
  obtain ⟨part, parts, rfl⟩ := List.exists_cons_of_ne_nil hparts
  obtain ⟨hpart, -⟩ := List.forall_mem_cons.1 h
  cases parts with
  | nil => simpa using hpart
  | cons next parts =>
    rw [List.intercalate_cons_cons, List.append_assoc]
    exact hpart.append _

theorem opens_parts {parts : List α} (hparts : parts ≠ []) {write : α → List Char}
    (h : ∀ a ∈ parts, Opens (write a)) (separator : List Char) :
    Opens (separator.intercalate (parts.map write)) := by
  refine opens_intercalate (by simpa using hparts) (fun part hpart => ?_) separator
  obtain ⟨a, ha, rfl⟩ := List.mem_map.1 hpart
  exact h a ha

theorem skipSpace_opens {gap cs : List Char} (hgap : Blank gap) (h : Opens cs)
    (more : List Char) : skipSpace (gap ++ (cs ++ more)) = cs ++ more := by
  obtain ⟨c, rest, rfl, hc, -⟩ := h
  rw [skipSpace_blank hgap, List.cons_append, skipSpace_cons hc]

/-! ## Integers -/

/-- What follows a number does not go on with it. -/
def EndsNumber (rest : List Char) : Prop :=
  ∀ c ∈ rest.head?, isDigit c = false ∧ c ≠ '.' ∧ c ≠ 'e' ∧ c ≠ 'E'

theorem ne_of_isDigit {c d : Char} (hd : isDigit d = true) (hc : isDigit c = false) : d ≠ c := by
  rintro rfl
  exact absurd (hc.symm.trans hd) Bool.false_ne_true

theorem opens_of_isDigit {d : Char} (hd : isDigit d = true) (ds : List Char) : Opens (d :: ds) := by
  have hne (c : Char) (hc : isDigit c = false) : d ≠ c := ne_of_isDigit hd hc
  refine ⟨d, ds, rfl, ?_, hne ']' rfl, hne '\x7d' rfl⟩
  simp [isSpace, hne ' ' rfl, hne '\t' rfl, hne '\n' rfl, hne '\r' rfl]

theorem isDigit_of_mem_toDigits {n : Nat} {c : Char} (h : c ∈ Nat.toDigits 10 n) :
    isDigit c = true := by
  have hc := Nat.isDigit_of_mem_toDigits (by decide) (by decide) h
  simpa [isDigit, Char.isDigit, Char.le_def, UInt32.le_iff_toNat_le] using hc

-- the first digit is a zero only if it is the only one
theorem toDigits_eq_cons (n : Nat) :
    ∃ d ds, Nat.toDigits 10 n = d :: ds ∧ (d = '0' → n = 0) := by
  induction n using Nat.strongRecOn with
  | ind n ih =>
    rw [Nat.toDigits_eq_if (by decide)]
    split
    · exact ⟨_, [], rfl, Nat.digitChar_eq_zero.1⟩
    · obtain ⟨d, ds, hdigits, hzero⟩ := ih (n / 10) (by omega)
      refine ⟨d, ds ++ [(n % 10).digitChar], by rw [hdigits]; rfl, fun hd => ?_⟩
      have := hzero hd
      omega

theorem takeWhile_isDigit {ds rest : List Char} (hds : ∀ c ∈ ds, isDigit c = true)
    (hrest : EndsNumber rest) :
    (ds ++ rest).takeWhile isDigit = ds ∧ (ds ++ rest).dropWhile isDigit = rest := by
  rw [List.takeWhile_append_of_pos hds, List.dropWhile_append_of_pos hds]
  cases rest with
  | nil => simp
  | cons c rest =>
    have hc := (hrest c rfl).1
    simp [hc]

theorem splitWhole_toDigits (n : Nat) {rest : List Char} (hrest : EndsNumber rest) :
    splitWhole (Nat.toDigits 10 n ++ rest) = (Nat.toDigits 10 n, rest) := by
  obtain ⟨d, ds, hdigits, hzero⟩ := toDigits_eq_cons n
  obtain ⟨htake, hdrop⟩ := takeWhile_isDigit (fun c => isDigit_of_mem_toDigits (n := n)) hrest
  by_cases hd : d = '0'
  · obtain rfl := hzero hd
    rfl
  · rw [hdigits, List.cons_append] at htake hdrop ⊢
    unfold splitWhole
    split
    · rename_i heq
      cases heq
      exact absurd rfl hd
    · rw [htake, hdrop]

theorem splitFraction_of_ends {rest : List Char} (h : EndsNumber rest) :
    splitFraction rest = ([], rest) := by
  unfold splitFraction
  split
  · exact absurd rfl (h '.' rfl).2.1
  · rfl

theorem splitExponent_of_ends {rest : List Char} (h : EndsNumber rest) :
    splitExponent rest = (none, rest) := by
  cases rest with
  | nil => rfl
  | cons c rest =>
    obtain ⟨-, -, he, hE⟩ := h c rfl
    exact if_neg (by simp [he, hE])

theorem digitsValue_toDigits (n : Nat) : digitsValue (Nat.toDigits 10 n) = n :=
  Nat.ofDigitChars_ten_toDigits

theorem toList_toString_nat (n : Nat) : (toString n).toList = Nat.toDigits 10 n := by
  rw [Nat.toString_eq_ofList_toDigits, String.toList_ofList]

theorem toList_toString_negSucc (n : Nat) :
    (toString (Int.negSucc n)).toList = '-' :: Nat.toDigits 10 (n + 1) := by
  rw [← toList_toString_nat]
  exact String.toList_append

theorem readNumber_toString {n : Int} (short : (Nat.toDigits 10 n.natAbs).length ≤ Text.digitLimit)
    {rest : List Char} (hrest : EndsNumber rest) :
    readNumber ((toString n).toList ++ rest) = .ok (.int n, rest) := by
  cases n with
  | ofNat n =>
    have hwritten : (toString (Int.ofNat n)).toList = Nat.toDigits 10 n := toList_toString_nat n
    have hunsigned : ∀ cs, Nat.toDigits 10 n ++ rest ≠ '-' :: cs := by
      intro cs hcs
      obtain ⟨d, ds, hdigits, -⟩ := toDigits_eq_cons n
      have hd : isDigit d = true := isDigit_of_mem_toDigits (n := n) (by simp [hdigits])
      rw [hdigits, List.cons_append, List.cons.injEq] at hcs
      exact ne_of_isDigit hd (by decide) hcs.1
    rw [hwritten, readNumber]
    · have hfits : ¬ Text.digitLimit < (Nat.toDigits 10 n).length := Nat.not_lt.2 short
      simp [splitWhole_toDigits n hrest, splitFraction_of_ends hrest, splitExponent_of_ends hrest,
        digitsValue_toDigits, hfits]
    · exact hunsigned
  | negSucc n =>
    have hfits : ¬ Text.digitLimit < (Nat.toDigits 10 (n + 1)).length := Nat.not_lt.2 short
    rw [toList_toString_negSucc, List.cons_append, readNumber]
    simp [splitWhole_toDigits (n + 1) hrest, splitFraction_of_ends hrest,
      splitExponent_of_ends hrest, digitsValue_toDigits, hfits, Int.negSucc_eq]

/-! ## Words and numbers -/

theorem readValue_of_scalar (depth fuel : Nat) {c : Char}
    (hc : c ≠ '"' ∧ c ≠ '[' ∧ c ≠ '\x7b') (cs : List Char) :
    readValue depth fuel (c :: cs) = readScalar (c :: cs) := by
  obtain ⟨hquote, hbracket, hbrace⟩ := hc
  cases fuel with
  | zero => rw [readValue] <;> simp
  | succ fuel => rw [readValue] <;> simp [hquote, hbracket, hbrace]

theorem toString_eq_cons (n : Int) : ∃ d ds, isDigit d = true ∧
    ((toString n).toList = d :: ds ∨ (toString n).toList = '-' :: d :: ds) := by
  have hcons (m : Nat) : ∃ d ds, isDigit d = true ∧ Nat.toDigits 10 m = d :: ds := by
    obtain ⟨d, ds, hdigits, -⟩ := toDigits_eq_cons m
    exact ⟨d, ds, isDigit_of_mem_toDigits (n := m) (by simp [hdigits]), hdigits⟩
  cases n with
  | ofNat n =>
    obtain ⟨d, ds, hd, hdigits⟩ := hcons n
    exact ⟨d, ds, hd, .inl ((toList_toString_nat n).trans hdigits)⟩
  | negSucc n =>
    obtain ⟨d, ds, hd, hdigits⟩ := hcons (n + 1)
    exact ⟨d, ds, hd, .inr (by rw [toList_toString_negSucc, hdigits])⟩

-- no word begins with a digit, and the one with a sign goes on with a letter
theorem readScalar_toString {n : Int} (short : (Nat.toDigits 10 n.natAbs).length ≤ Text.digitLimit)
    {rest : List Char} (hrest : EndsNumber rest) :
    readScalar ((toString n).toList ++ rest) = .ok (.int n, rest) := by
  obtain ⟨d, ds, hd, hwritten⟩ := toString_eq_cons n
  have hne (c : Char) (hc : isDigit c = false) : c ≠ d := (ne_of_isDigit hd hc).symm
  have hword : words.find? (fun w => w.1.isPrefixOf ((toString n).toList ++ rest)) = none := by
    rcases hwritten with hwritten | hwritten
    · rw [hwritten]
      simp [words, hne 'n' rfl, hne 't' rfl, hne 'f' rfl, hne 'N' rfl, hne 'I' rfl, hne '-' rfl]
    · rw [hwritten]
      simp [words, hne 'I' rfl]
  rw [readScalar, hword]
  exact readNumber_toString short hrest

theorem readScalar_null (rest : List Char) :
    readScalar ("null".toList ++ rest) = .ok (.null, rest) := by
  simp [readScalar, words]

theorem readScalar_bool (b : Bool) (rest : List Char) :
    readScalar ((if b then "true" else "false").toList ++ rest) = .ok (.bool b, rest) := by
  cases b <;> simp [readScalar, words]

/-! ## One item or member -/

section

variable {depth fuel : Nat} {cs more next rest : List Char} {value : Json}

theorem readItems_last (hvalue : readValue depth fuel cs = .ok (value, more))
    (hclose : skipSpace more = ']' :: rest) :
    readItems depth (fuel + 1) cs = .ok ([value], rest) := by
  simp [readItems, hvalue, hclose, bind, Except.bind, pure, Except.pure]

theorem readItems_more (hvalue : readValue depth fuel cs = .ok (value, more))
    (hcomma : skipSpace more = ',' :: next) {values : List Json}
    (hitems : readItems depth fuel (skipSpace next) = .ok (values, rest)) :
    readItems depth (fuel + 1) cs = .ok (value :: values, rest) := by
  simp [readItems, hvalue, hcomma, hitems, bind, Except.bind, pure, Except.pure]

variable {key : Text} {named : List Char}

theorem readMembers_last (hkey : readString cs = .ok (key, ':' :: named))
    (hvalue : readValue depth fuel (skipSpace named) = .ok (value, more))
    (hclose : skipSpace more = '\x7d' :: rest) :
    readMembers depth (fuel + 1) ('"' :: cs) = .ok ([(key, value)], rest) := by
  have hcolon := skipSpace_cons (c := ':') (by decide) named
  simp [readMembers, hkey, hcolon, hvalue, hclose, bind, Except.bind, pure, Except.pure]

theorem readMembers_more (hkey : readString cs = .ok (key, ':' :: named))
    (hvalue : readValue depth fuel (skipSpace named) = .ok (value, more))
    (hcomma : skipSpace more = ',' :: next) {members : List (Text × Json)}
    (hmembers : readMembers depth fuel (skipSpace next) = .ok (members, rest)) :
    readMembers depth (fuel + 1) ('"' :: cs) = .ok ((key, value) :: members, rest) := by
  have hcolon := skipSpace_cons (c := ':') (by decide) named
  simp [readMembers, hkey, hcolon, hvalue, hcomma, hmembers, bind, Except.bind, pure, Except.pure]

theorem readValue_noItems (depth fuel : Nat) (rest : List Char) :
    readValue (depth + 1) (fuel + 1) (("[" ++ "]").toList ++ rest) = .ok (.arr [], rest) := by
  have hskip := skipSpace_cons (c := ']') (by decide) rest
  simp [readValue, hskip]

theorem readValue_noMembers (depth fuel : Nat) (rest : List Char) :
    readValue (depth + 1) (fuel + 1) (("\x7b" ++ "\x7d").toList ++ rest) = .ok (.obj [], rest) := by
  have hskip := skipSpace_cons (c := '\x7d') (by decide) rest
  simp [readValue, hskip]

theorem readValue_list (hopens : Opens (skipSpace cs)) {values : List Json}
    (hitems : readItems depth fuel (skipSpace cs) = .ok (values, rest)) :
    readValue (depth + 1) (fuel + 1) ('[' :: cs) = .ok (.arr values, rest) := by
  obtain ⟨c, next, hskip, -, hc, -⟩ := hopens
  rw [hskip] at hitems
  simp [readValue, hskip, hc, hitems, bind, Except.bind, pure, Except.pure]

theorem readValue_object (hopens : Opens (skipSpace cs)) {members : List (Text × Json)}
    (hmembers : readMembers depth fuel (skipSpace cs) = .ok (members, rest)) :
    readValue (depth + 1) (fuel + 1) ('\x7b' :: cs) = .ok (.obj (ofPairs members), rest) := by
  obtain ⟨c, next, hskip, -, -, hc⟩ := hopens
  rw [hskip] at hmembers
  simp [readValue, hskip, hc, hmembers, bind, Except.bind, pure, Except.pure]

end

/-! ## Lists and objects -/

theorem setMember_of_new {key : Text} {members : List (Text × α)} (value : α)
    (h : key ∉ members.map (·.1)) : setMember key value members = members ++ [(key, value)] := by
  induction members with
  | nil => rfl
  | cons m members ih =>
    obtain ⟨hm, hmembers⟩ : key ≠ m.1 ∧ key ∉ members.map (·.1) := by simpa using h
    rw [setMember, if_neg hm.symm, ih hmembers, List.cons_append]

theorem ofPairs_of_nodup {pairs : List (Text × α)} (h : (pairs.map (·.1)).Nodup) :
    ofPairs pairs = pairs := by
  have added (before after : List (Text × α)) (h : ((before ++ after).map (·.1)).Nodup) :
      after.foldl (fun members p => setMember p.1 p.2 members) before = before ++ after := by
    induction after generalizing before with
    | nil => simp
    | cons p after ih =>
      have hnew : p.1 ∉ before.map (·.1) := by
        rw [List.map_append, List.nodup_append] at h
        intro hp
        exact h.2.2 _ hp _ (by simp) rfl
      rw [List.foldl_cons, setMember_of_new p.2 hnew, ih _ (by simpa using h), List.append_assoc,
        List.singleton_append]
  exact added [] pairs h

/-- What was written for a value is read as that value, with enough fuel for its length. -/
def ReadsBack (depth : Nat) (written : List Char) (value : Json) : Prop :=
  ∀ fuel rest, 2 * written.length ≤ fuel → EndsNumber rest →
    readValue depth fuel (written ++ rest) = .ok (value, rest)

theorem skipSpace_close {gap : List Char} (hgap : Blank gap) {c : Char} (hc : isSpace c = false)
    (rest : List Char) : skipSpace (gap ++ c :: rest) = c :: rest := by
  rw [skipSpace_blank hgap, skipSpace_cons hc]

theorem endsNumber_cons {c : Char} (hc : isDigit c = false ∧ c ≠ '.' ∧ c ≠ 'e' ∧ c ≠ 'E')
    (rest : List Char) : EndsNumber (c :: rest) := by
  intro d hd
  cases hd
  exact hc

theorem endsNumber_blank {gap rest : List Char} (hgap : Blank gap) (hrest : EndsNumber rest) :
    EndsNumber (gap ++ rest) := by
  cases gap with
  | nil => exact hrest
  | cons c gap =>
    refine endsNumber_cons ?_ _
    rcases isSpace_iff.1 (hgap c (by simp)) with rfl | rfl | rfl | rfl <;> decide

section

variable {depth : Nat} {before between after : List Char} {write : Json → List Char}

theorem readItems_written (hbetween : Blank between) (hafter : Blank after) {values : List Json}
    (hvalues : values ≠ []) (opens : ∀ v ∈ values, Opens (write v))
    (back : ∀ v ∈ values, ReadsBack depth (write v) v) (rest : List Char) {fuel : Nat}
    (hfuel : 2 * ((',' :: between).intercalate (values.map write)).length < fuel) :
    readItems depth fuel
      ((',' :: between).intercalate (values.map write) ++ (after ++ ']' :: rest))
        = .ok (values, rest) := by
  induction values generalizing fuel with
  | nil => exact absurd rfl hvalues
  | cons v values ih =>
    obtain ⟨fuel, rfl⟩ : ∃ n, fuel = n + 1 := ⟨fuel - 1, by omega⟩
    have hback := back v (by simp)
    cases values with
    | nil =>
      simp only [List.map_cons, List.map_nil, List.intercalate_singleton] at hfuel ⊢
      have hend := endsNumber_blank hafter (endsNumber_cons (c := ']') (by decide) rest)
      exact readItems_last (hback fuel _ (by omega) hend) (skipSpace_close hafter (by decide) rest)
    | cons w values =>
      simp only [List.map_cons, List.intercalate_cons_cons, List.append_assoc, List.cons_append,
        List.length_append, List.length_cons] at hfuel ⊢
      refine readItems_more (hback fuel _ (by omega) (endsNumber_cons (by decide) _))
        (skipSpace_cons (by decide) _) ?_
      have hopens := opens_parts (List.cons_ne_nil w values) (fun u hu => opens u (.tail _ hu))
        (',' :: between)
      rw [List.map_cons] at hopens
      rw [skipSpace_opens hbetween hopens]
      refine ih (by simp) (fun u hu => opens u (.tail _ hu)) (fun u hu => back u (.tail _ hu)) ?_
      simp only [List.map_cons]
      omega

theorem readsBack_list (hbefore : Blank before) (hbetween : Blank between) (hafter : Blank after)
    {values : List Json} (hvalues : values ≠ []) (opens : ∀ v ∈ values, Opens (write v))
    (back : ∀ v ∈ values, ReadsBack depth (write v) v) :
    ReadsBack (depth + 1) ('[' :: (before ++ ((',' :: between).intercalate (values.map write)
      ++ (after ++ [']'])))) (.arr values) := by
  intro fuel rest hfuel _
  have hskip := skipSpace_opens hbefore (opens_parts hvalues opens (',' :: between))
    (after ++ ']' :: rest)
  simp only [List.cons_append, List.append_assoc, List.nil_append, List.length_cons,
    List.length_append] at hfuel ⊢
  obtain ⟨fuel, rfl⟩ : ∃ n, fuel = n + 1 := ⟨fuel - 1, by omega⟩
  refine readValue_list ?_ ?_
  · rw [hskip]
    exact (opens_parts hvalues opens _).append _
  · rw [hskip]
    exact readItems_written hbetween hafter hvalues opens back rest (by omega)

/-- What is written for a member. -/
def memberText (write : Json → List Char) (member : Text × Json) : List Char :=
  (writeString member.1).toList ++ ':' :: ' ' :: write member.2

theorem opens_memberText (write : Json → List Char) (member : Text × Json) :
    Opens (memberText write member) := by
  obtain ⟨named, hnamed⟩ := toList_writeString member.1
  exact Opens.append ⟨'"', named, hnamed, by decide⟩ _

theorem readMembers_written (hbetween : Blank between) (hafter : Blank after)
    {members : List (Text × Json)} (hmembers : members ≠ [])
    (whole : ∀ m ∈ members, m.1.Whole) (opens : ∀ m ∈ members, Opens (write m.2))
    (back : ∀ m ∈ members, ReadsBack depth (write m.2) m.2) (rest : List Char) {fuel : Nat}
    (hfuel : 2 * ((',' :: between).intercalate (members.map (memberText write))).length < fuel) :
    readMembers depth fuel
      ((',' :: between).intercalate (members.map (memberText write)) ++ (after ++ '\x7d' :: rest))
        = .ok (members, rest) := by
  induction members generalizing fuel with
  | nil => exact absurd rfl hmembers
  | cons m members ih =>
    obtain ⟨fuel, rfl⟩ : ∃ n, fuel = n + 1 := ⟨fuel - 1, by omega⟩
    obtain ⟨named, hnamed⟩ := toList_writeString m.1
    have hkey := readString_written (whole m (by simp)) hnamed
    have hmember : memberText write m = '"' :: (named ++ ':' :: ' ' :: write m.2) := by
      rw [memberText, hnamed, List.cons_append]
    have hvalue (hlength : 2 * (write m.2).length ≤ fuel) (more : List Char)
        (hmore : EndsNumber more) :
        readValue depth fuel (skipSpace (' ' :: (write m.2 ++ more))) = .ok (m.2, more) := by
      have hblank : Blank [' '] := by simp [Blank, isSpace]
      rw [← List.singleton_append, skipSpace_opens hblank (opens m (by simp))]
      exact back m (by simp) fuel more hlength hmore
    cases members with
    | nil =>
      simp only [List.map_cons, List.map_nil, List.intercalate_singleton, hmember,
        List.append_assoc, List.cons_append, List.length_append, List.length_cons] at hfuel ⊢
      have hend := endsNumber_blank hafter (endsNumber_cons (c := '\x7d') (by decide) rest)
      exact readMembers_last (hkey _) (hvalue (by omega) _ hend)
        (skipSpace_close hafter (by decide) rest)
    | cons n members =>
      simp only [List.map_cons, List.intercalate_cons_cons, hmember, List.append_assoc,
        List.cons_append, List.length_append, List.length_cons] at hfuel ⊢
      refine readMembers_more (hkey _) (hvalue (by omega) _ (endsNumber_cons (by decide) _))
        (skipSpace_cons (by decide) _) ?_
      have hopens := opens_parts (List.cons_ne_nil n members) (fun u _ => opens_memberText write u)
        (',' :: between)
      rw [List.map_cons] at hopens
      rw [skipSpace_opens hbetween hopens]
      refine ih (by simp) (fun u hu => whole u (.tail _ hu)) (fun u hu => opens u (.tail _ hu))
        (fun u hu => back u (.tail _ hu)) ?_
      simp only [List.map_cons]
      omega

theorem readsBack_object (hbefore : Blank before) (hbetween : Blank between) (hafter : Blank after)
    {members : List (Text × Json)} (hmembers : members ≠ []) (distinct : (members.map (·.1)).Nodup)
    (whole : ∀ m ∈ members, m.1.Whole) (opens : ∀ m ∈ members, Opens (write m.2))
    (back : ∀ m ∈ members, ReadsBack depth (write m.2) m.2) :
    ReadsBack (depth + 1) ('\x7b' :: (before ++ ((',' :: between).intercalate
      (members.map (memberText write)) ++ (after ++ ['\x7d'])))) (.obj members) := by
  intro fuel rest hfuel _
  have hopens := opens_parts hmembers (fun m _ => opens_memberText write m) (',' :: between)
  have hskip := skipSpace_opens hbefore hopens (after ++ '\x7d' :: rest)
  simp only [List.cons_append, List.append_assoc, List.nil_append, List.length_cons,
    List.length_append] at hfuel ⊢
  obtain ⟨fuel, rfl⟩ : ∃ n, fuel = n + 1 := ⟨fuel - 1, by omega⟩
  rw [← ofPairs_of_nodup distinct]
  refine readValue_object ?_ ?_
  · rw [ofPairs_of_nodup distinct, hskip]
    exact hopens.append _
  · rw [ofPairs_of_nodup distinct, hskip]
    exact readMembers_written hbetween hafter hmembers whole opens back rest (by omega)

end

/-! ## Values -/

/-- A value that the reader takes where so many lists and objects may be opened. -/
inductive Legible : Nat → Json → Prop
  | null {depth : Nat} : Legible depth .null
  | bool {depth : Nat} (b : Bool) : Legible depth (.bool b)
  | int {depth : Nat} {n : Int} (short : (Nat.toDigits 10 n.natAbs).length ≤ Text.digitLimit) :
    Legible depth (.int n)
  | str {depth : Nat} {t : Text} (whole : t.Whole) : Legible depth (.str t)
  | arr {depth : Nat} {items : List Json} (hitems : ∀ v ∈ items, Legible depth v) :
    Legible (depth + 1) (.arr items)
  | obj {depth : Nat} {members : List (Text × Json)} (distinct : (members.map (·.1)).Nodup)
    (whole : ∀ m ∈ members, m.1.Whole) (values : ∀ m ∈ members, Legible depth m.2) :
    Legible (depth + 1) (.obj members)

/-- A layout whose lines are indented with blanks. -/
def Layout.IsBlank : Layout → Prop
  | .line => True
  | .indented unit => Blank unit.toList

theorem Layout.isBlank_spaces (n : Int) : (spaces n).IsBlank := by
  intro c hc
  rw [String.toList_ofList] at hc
  rw [List.eq_of_mem_replicate hc]
  rfl

theorem Layout.IsBlank.isAscii {layout : Layout} (h : layout.IsBlank) : layout.IsAscii := by
  cases layout with
  | line => trivial
  | indented unit =>
    intro c hc
    rcases isSpace_iff.1 (h c hc) with rfl | rfl | rfl | rfl <;> decide

theorem Layout.blank_newLine {unit : String} (h : Blank unit.toList) (level : Nat) :
    Blank (newLine unit level).toList := by
  intro c hc
  rw [newLine, String.toList_append, List.mem_append, String.toList_join, List.mem_flatMap] at hc
  rcases hc with hc | ⟨s, hs, hc⟩
  · have hnewline : c = '\n' := by simpa using hc
    rw [hnewline]
    rfl
  · rw [List.eq_of_mem_replicate hs] at hc
    exact h c hc

variable {layout : Layout}

/-- The parts of a value between its brackets: commas part them, and the rest are blanks. -/
theorem Layout.toList_enclose (h : layout.IsBlank) (level : Nat) (opening closing : String)
    {parts : List String} (hparts : parts ≠ []) :
    ∃ before between after, Blank before ∧ Blank between ∧ Blank after ∧
      (layout.enclose level opening closing parts).toList = opening.toList ++
        (before ++ ((',' :: between).intercalate (parts.map String.toList)
          ++ (after ++ closing.toList))) := by
  have hsome : ¬ parts.isEmpty = true := by simpa using hparts
  cases layout with
  | line =>
    refine ⟨[], [' '], [], by simp [Blank], by simp [Blank, isSpace], by simp [Blank], ?_⟩
    simp [enclose, hparts, String.toList_intercalate]
  | indented unit =>
    have hline := blank_newLine h
    refine ⟨_, _, _, hline (level + 1), hline (level + 1), hline level, ?_⟩
    simp [enclose, hparts, String.toList_intercalate]

theorem Layout.enclose_nil (level : Nat) (opening closing : String) :
    layout.enclose level opening closing [] = opening ++ closing := rfl

theorem writeItems_eq_map (level : Nat) (items : List Json) :
    writeItems layout level items = items.map (writeAt layout level) := by
  induction items with
  | nil => rw [writeItems, List.map_nil]
  | cons a as ih => rw [writeItems, ih, List.map_cons]

theorem writeMembers_eq_map (level : Nat) (members : List (Text × Json)) :
    writeMembers layout level members =
      members.map fun m => writeString m.1 ++ ": " ++ writeAt layout level m.2 := by
  induction members with
  | nil => rw [writeMembers, List.map_nil]
  | cons m members ih => rw [writeMembers, ih, List.map_cons]

theorem Layout.opens_enclose (level : Nat) {opening : String} {c : Char} {cs : List Char}
    (hopening : opening.toList = c :: cs) (hc : isSpace c = false ∧ c ≠ ']' ∧ c ≠ '\x7d')
    (closing : String) (parts : List String) :
    Opens (layout.enclose level opening closing parts).toList := by
  have hopens : Opens opening.toList := ⟨c, cs, hopening, hc⟩
  unfold enclose
  split
  · rw [String.toList_append]
    exact hopens.append _
  · cases layout <;> simp only [String.toList_append, List.append_assoc] <;> exact hopens.append _

theorem Legible.opens {depth : Nat} {value : Json} (h : Legible depth value) (level : Nat) :
    Opens (writeAt layout level value).toList := by
  cases h with
  | null => exact ⟨'n', _, by rw [writeAt]; rfl, by decide⟩
  | bool b =>
    rw [writeAt]
    cases b with
    | false => exact ⟨'f', _, rfl, by decide⟩
    | true => exact ⟨'t', _, rfl, by decide⟩
  | @int _ n short =>
    obtain ⟨d, ds, hd, hwritten⟩ := toString_eq_cons n
    rw [writeAt]
    rcases hwritten with hwritten | hwritten
    · rw [hwritten]
      exact opens_of_isDigit hd ds
    · exact ⟨'-', _, hwritten, by decide⟩
  | @str _ t whole =>
    obtain ⟨written, hwritten⟩ := toList_writeString t
    exact ⟨'"', written, by rw [writeAt, hwritten], by decide⟩
  | arr items =>
    rw [writeAt]
    exact Layout.opens_enclose level (c := '[') rfl (by decide) _ _
  | obj distinct whole values =>
    rw [writeAt]
    exact Layout.opens_enclose level (c := '\x7b') rfl (by decide) _ _

theorem Legible.readsBack (hlayout : layout.IsBlank) {depth : Nat} {value : Json}
    (h : Legible depth value) (level : Nat) :
    ReadsBack depth (writeAt layout level value).toList value := by
  induction h generalizing level with
  | null =>
    intro fuel rest _ _
    rw [writeAt]
    exact (readValue_of_scalar _ fuel (by decide) _).trans (readScalar_null rest)
  | bool b =>
    intro fuel rest _ _
    rw [writeAt]
    have hscalar := readScalar_bool b rest
    cases b with
    | false => exact (readValue_of_scalar _ fuel (by decide) _).trans hscalar
    | true => exact (readValue_of_scalar _ fuel (by decide) _).trans hscalar
  | @int _ n short =>
    intro fuel rest _ hrest
    obtain ⟨d, ds, hd, hwritten⟩ := toString_eq_cons n
    have hscalar := readScalar_toString short hrest
    rw [writeAt]
    rcases hwritten with hwritten | hwritten
    · rw [hwritten] at hscalar ⊢
      have hhead : d ≠ '"' ∧ d ≠ '[' ∧ d ≠ '\x7b' :=
        ⟨ne_of_isDigit hd rfl, ne_of_isDigit hd rfl, ne_of_isDigit hd rfl⟩
      exact (readValue_of_scalar _ fuel hhead _).trans hscalar
    · rw [hwritten] at hscalar ⊢
      exact (readValue_of_scalar _ fuel (by decide) _).trans hscalar
  | @str _ t whole =>
    intro fuel rest hfuel _
    obtain ⟨written, hwritten⟩ := toList_writeString t
    rw [writeAt, hwritten] at hfuel ⊢
    obtain ⟨fuel, rfl⟩ : ∃ n, fuel = n + 1 := ⟨fuel - 1, by simp at hfuel; omega⟩
    rw [List.cons_append, readValue, readString_written whole hwritten]
    rfl
  | @arr depth items hitems ih =>
    intro fuel rest hfuel hrest
    rw [writeAt, writeItems_eq_map] at hfuel ⊢
    by_cases hnone : items = []
    · subst hnone
      obtain ⟨fuel, rfl⟩ : ∃ n, fuel = n + 1 := ⟨fuel - 1, by
        simp [Layout.enclose_nil] at hfuel
        omega⟩
      rw [List.map_nil, Layout.enclose_nil]
      exact readValue_noItems depth fuel rest
    · obtain ⟨before, between, after, hbefore, hbetween, hafter, hwritten⟩ :=
        Layout.toList_enclose hlayout level "[" "]"
          (mt (List.map_eq_nil_iff (f := writeAt layout (level + 1))).1 hnone)
      rw [hwritten, List.map_map] at hfuel ⊢
      exact readsBack_list hbefore hbetween hafter hnone (fun v hv => (hitems v hv).opens _)
        (fun v hv => ih v hv _) fuel rest hfuel hrest
  | @obj depth members distinct whole values ih =>
    intro fuel rest hfuel hrest
    rw [writeAt, writeMembers_eq_map] at hfuel ⊢
    by_cases hnone : members = []
    · subst hnone
      obtain ⟨fuel, rfl⟩ : ∃ n, fuel = n + 1 := ⟨fuel - 1, by
        simp [Layout.enclose_nil] at hfuel
        omega⟩
      rw [List.map_nil, Layout.enclose_nil]
      exact readValue_noMembers depth fuel rest
    · obtain ⟨before, between, after, hbefore, hbetween, hafter, hwritten⟩ :=
        Layout.toList_enclose hlayout level "\x7b" "\x7d" (mt (List.map_eq_nil_iff
          (f := fun m => writeString m.1 ++ ": " ++ writeAt layout (level + 1) m.2)).1 hnone)
      have hmembers : (members.map fun m => writeString m.1 ++ ": " ++
            writeAt layout (level + 1) m.2).map String.toList
          = members.map (memberText fun v => (writeAt layout (level + 1) v).toList) := by
        rw [List.map_map]
        refine List.map_congr_left fun m _ => ?_
        simp [memberText]
      rw [hwritten, hmembers] at hfuel ⊢
      exact readsBack_object hbefore hbetween hafter hnone distinct whole
        (fun m hm => (values m hm).opens _) (fun m hm => ih m hm _) fuel rest hfuel hrest

theorem readText_write (hlayout : layout.IsBlank) {value : Json} (h : Legible depthLimit value) :
    readText (value.write layout).toList = .ok value := by
  have hopens : Opens (value.write layout).toList := h.opens 0
  have hskip := skipSpace_opens (by simp [Blank] : Blank []) hopens []
  have hread := h.readsBack hlayout 0 (2 * (value.write layout).toList.length + 1) []
    (Nat.le_succ _) (by simp [EndsNumber])
  have hmark : (value.write layout).toList.head? ≠ some '\uFEFF' := by
    intro hhead
    exact absurd (isAscii_write hlayout.isAscii value _ (List.mem_of_mem_head? hhead)) (by decide)
  rw [List.append_nil, List.nil_append] at hskip
  rw [List.append_nil] at hread
  rw [readText, if_neg hmark, hskip]
  exact hread ▸ rfl

theorem read_write (hlayout : layout.IsBlank) {value : Json} (h : Legible depthLimit value) :
    read (value.write layout).toList = .ok value := by
  rw [read, readText_write hlayout h]
  rfl

end GatedModules.Json
