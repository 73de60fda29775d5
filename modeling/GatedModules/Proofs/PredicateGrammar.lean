import GatedModules.Proofs.PredicateForm

/-!
# The grammar of written predicates

A value is read as a predicate just where the grammar generates it. Any other value has a first
fault, at whatever depth, and that is what reading it reports.
-/

namespace GatedModules

/-! ## Results that are settled -/

/-- A result is a value where something is good and else an error, the one of its fault. -/
structure Settled (x : Except ε α) (good : Prop) (fault : ε → Prop) : Prop where
  ok_of_good : good → ∃ a, x = .ok a
  error_of_fault : ∀ e, fault e → x = .error e
  good_or_fault : good ∨ ∃ e, fault e

namespace Settled

variable {x : Except ε α} {good : Prop} {fault : ε → Prop}

theorem exists_ok_iff (h : Settled x good fault) : (∃ a, x = .ok a) ↔ good := by
  constructor
  · rintro ⟨a, ha⟩
    rcases h.good_or_fault with hgood | ⟨e, he⟩
    · exact hgood
    · cases ha.symm.trans (h.error_of_fault e he)
  · exact h.ok_of_good

theorem error_iff (h : Settled x good fault) {e : ε} : x = .error e ↔ fault e := by
  constructor
  · intro he
    rcases h.good_or_fault with hgood | ⟨e', hfault⟩
    · obtain ⟨a, ha⟩ := h.ok_of_good hgood
      cases ha.symm.trans he
    · cases (h.error_of_fault e' hfault).symm.trans he
      exact hfault
  · exact h.error_of_fault e

theorem not_good_iff (h : Settled x good fault) : ¬ good ↔ ∃ e, x = .error e := by
  rw [← h.exists_ok_iff]
  cases x <;> simp

end Settled

namespace Predicate

/-! ## The grammar -/

/-- The tests that take one name or a list of names. -/
def nameTests : List Text := ["platform", "architecture", "configuration"]

/-- The tests that take a list of predicates. -/
def listTests : List Text := ["all", "any"]

def tests : List Text := "feature" :: "not" :: (nameTests ++ listTests)

/-- A value is a name or a list of names. -/
def IsNames (value : Json) : Prop :=
  (∃ name, value = .str name) ∨ ∃ names, value = .texts names

/-- The values that stand for predicates: a truth value, or an object with one member, which is a
test with what it takes. -/
inductive Grammar : Json → Prop
  | truth (b : Bool) : Grammar (.bool b)
  | names {test : Text} {value : Json} (htest : test ∈ nameTests) (hvalue : IsNames value) :
    Grammar (.obj [(test, value)])
  | flag {name : Text} (hname : name ≠ "") : Grammar (.obj [("feature", .str name)])
  | list {test : Text} {items : List Json} (htest : test ∈ listTests)
    (hitems : ∀ item ∈ items, Grammar item) : Grammar (.obj [(test, .arr items)])
  | negation {value : Json} (hvalue : Grammar value) : Grammar (.obj [("not", value)])

/-- What is wrong with a value first, from the left: everything before the fault is in order. -/
inductive FirstFault : Json → ReadError → Prop
  | shape {data : Json} (hbool : ∀ b, data ≠ .bool b)
    (hobj : ∀ test value, data ≠ .obj [(test, value)]) : FirstFault data (.notPredicate data)
  | names {test : Text} {value : Json} (htest : test ∈ nameTests) (hvalue : ¬ IsNames value) :
    FirstFault (.obj [(test, value)]) (.notNames test value)
  | flag {value : Json} (hvalue : ∀ name : Text, name ≠ "" → value ≠ .str name) :
    FirstFault (.obj [("feature", value)]) (.notFlag value)
  | list {test : Text} {value : Json} (htest : test ∈ listTests)
    (hvalue : ∀ items, value ≠ .arr items) :
    FirstFault (.obj [(test, value)]) (.notList test value)
  | item {test : Text} {before after : List Json} {item : Json} {e : ReadError}
    (htest : test ∈ listTests) (hbefore : ∀ b ∈ before, Grammar b) (hitem : FirstFault item e) :
    FirstFault (.obj [(test, .arr (before ++ item :: after))]) e
  | negation {value : Json} {e : ReadError} (hvalue : FirstFault value e) :
    FirstFault (.obj [("not", value)]) e
  | unknown {test : Text} {value : Json} (htest : test ∉ tests) :
    FirstFault (.obj [(test, value)]) (.unknownTest test)

/-! ## Reading an object with one member -/

variable {test : Text} {data value item : Json} {before after items : List Json} {e : ReadError}

theorem ofJson_names (htest : test ∈ nameTests) (value : Json) :
    ∃ make, ofJson (.obj [(test, value)]) = (readNames test value).map make := by
  simp only [nameTests, List.mem_cons, List.not_mem_nil, or_false] at htest
  rcases htest with rfl | rfl | rfl
  · exact ⟨.platformIn, by unfold ofJson; rfl⟩
  · exact ⟨.architectureIn, by unfold ofJson; rfl⟩
  · exact ⟨.configurationIn, by unfold ofJson; rfl⟩

theorem ofJson_feature (value : Json) : ofJson (.obj [("feature", value)]) = readFlag value := by
  unfold ofJson
  rfl

theorem ofJson_not (value : Json) :
    ofJson (.obj [("not", value)]) = (ofJson value).map .negation := by
  conv_lhs => unfold ofJson
  rfl

theorem ofJson_list (htest : test ∈ listTests) (items : List Json) :
    ∃ make, ofJson (.obj [(test, .arr items)]) = (ofJsons items).map make := by
  simp only [listTests, List.mem_cons, List.not_mem_nil, or_false] at htest
  rcases htest with rfl | rfl
  · exact ⟨.allOf, by unfold ofJson; rfl⟩
  · exact ⟨.anyOf, by unfold ofJson; rfl⟩

theorem ofJson_notList (htest : test ∈ listTests) (hvalue : ∀ items, value ≠ .arr items) :
    ofJson (.obj [(test, value)]) = .error (.notList test value) := by
  simp only [listTests, List.mem_cons, List.not_mem_nil, or_false] at htest
  rcases htest with rfl | rfl
  · cases value with
    | arr items => exact absurd rfl (hvalue items)
    | _ => unfold ofJson; rfl
  · cases value with
    | arr items => exact absurd rfl (hvalue items)
    | _ => unfold ofJson; rfl

theorem ofJson_unknown (htest : test ∉ tests) (value : Json) :
    ofJson (.obj [(test, value)]) = .error (.unknownTest test) := by
  simp only [tests, nameTests, listTests, List.mem_append, List.mem_cons, List.not_mem_nil,
    or_false, not_or] at htest
  unfold ofJson
  simp [htest]

/-! ## What is generated is read -/

theorem readNames_eq_ok_iff {names : List Text} :
    readNames test value = .ok names ↔
      (∃ name, value = .str name ∧ names = [name]) ∨ value = .texts names := by
  unfold readNames
  split
  · next name => simp [Json.texts, eq_comm]
  · next hvalue =>
    have hname : ¬ ∃ name, value = .str name ∧ names = [name] := by
      rintro ⟨name, h, -⟩
      exact hvalue name h
    rw [or_iff_right hname, ← Json.textList?_eq_some_iff]
    cases value.textList? <;> simp

theorem readNames_of_isNames (hvalue : IsNames value) :
    ∃ names, readNames test value = .ok names := by
  rcases hvalue with ⟨name, rfl⟩ | ⟨names, rfl⟩
  · exact ⟨[name], readNames_eq_ok_iff.2 (.inl ⟨name, rfl, rfl⟩)⟩
  · exact ⟨names, readNames_texts test names⟩

theorem exists_ofJsons (h : ∀ item ∈ items, ∃ p, ofJson item = .ok p) :
    ∃ ps, ofJsons items = .ok ps := by
  induction items with
  | nil => exact ⟨[], rfl⟩
  | cons item items ih =>
    obtain ⟨⟨p, hp⟩, hitems⟩ := List.forall_mem_cons.1 h
    obtain ⟨ps, hps⟩ := ih hitems
    exact ⟨p :: ps, by rw [ofJsons, hp, hps]; rfl⟩

theorem exists_ofJson_of_grammar (h : Grammar data) : ∃ p, ofJson data = .ok p := by
  induction h with
  | truth b => cases b <;> exact ⟨_, rfl⟩
  | names htest hvalue =>
    obtain ⟨names, hnames⟩ := readNames_of_isNames hvalue
    obtain ⟨make, hread⟩ := ofJson_names htest _
    exact ⟨make names, by rw [hread, hnames]; rfl⟩
  | @flag name hname => exact ⟨.featureEnabled name, ofJson_of_form ⟨rfl, hname⟩⟩
  | list htest _ ih =>
    obtain ⟨ps, hps⟩ := exists_ofJsons ih
    obtain ⟨make, hread⟩ := ofJson_list htest _
    exact ⟨make ps, by rw [hread, hps]; rfl⟩
  | negation _ ih =>
    obtain ⟨p, hp⟩ := ih
    exact ⟨.negation p, by rw [ofJson_not, hp]; rfl⟩

/-! ## The first fault is reported -/

theorem readNames_of_not_isNames (hvalue : ¬ IsNames value) :
    readNames test value = .error (.notNames test value) := by
  unfold readNames
  split
  · next name => exact absurd (.inl ⟨name, rfl⟩) hvalue
  · cases htexts : value.textList? with
    | none => rfl
    | some names => exact absurd (.inr ⟨names, Json.textList?_eq_some_iff.1 htexts⟩) hvalue

theorem readFlag_of_not_name (hvalue : ∀ name : Text, name ≠ "" → value ≠ .str name) :
    readFlag value = .error (.notFlag value) := by
  unfold readFlag
  split
  · next name =>
    have hname : name = "" := by
      by_contra hname
      exact hvalue name hname rfl
    rw [if_pos hname]
  · rfl

theorem ofJsons_of_error (hbefore : ∀ b ∈ before, Grammar b) (hitem : ofJson item = .error e) :
    ofJsons (before ++ item :: after) = .error e := by
  induction before with
  | nil => rw [List.nil_append, ofJsons, hitem]; rfl
  | cons b before ih =>
    obtain ⟨hb, hrest⟩ := List.forall_mem_cons.1 hbefore
    obtain ⟨p, hp⟩ := exists_ofJson_of_grammar hb
    rw [List.cons_append, ofJsons, hp, ih hrest]
    rfl

theorem ofJson_of_firstFault (h : FirstFault data e) : ofJson data = .error e := by
  induction h with
  | @shape data hbool hobj =>
    unfold ofJson
    split
    · exact absurd rfl (hbool true)
    · exact absurd rfl (hbool false)
    · exact absurd rfl (hobj _ _)
    · rfl
  | names htest hvalue =>
    obtain ⟨make, hread⟩ := ofJson_names htest _
    rw [hread, readNames_of_not_isNames hvalue]
    rfl
  | flag hvalue => rw [ofJson_feature, readFlag_of_not_name hvalue]
  | list htest hvalue => exact ofJson_notList htest hvalue
  | item htest hbefore _ ih =>
    -- What stands before the fault is generated, so the reader gets through it.
    obtain ⟨make, hread⟩ := ofJson_list htest _
    rw [hread, ofJsons_of_error hbefore ih]
    rfl
  | negation _ ih =>
    rw [ofJson_not, ih]
    rfl
  | unknown htest => exact ofJson_unknown htest _

/-! ## Every value is generated or faulty -/

mutual

-- The recursion is that of the reader. The tests are split by what they take.
theorem grammar_or_firstFault : ∀ data : Json, Grammar data ∨ ∃ e, FirstFault data e
  | .bool b => .inl (.truth b)
  | .obj [(test, value)] => by
    by_cases hnames : test ∈ nameTests
    · by_cases hvalue : IsNames value
      · exact .inl (.names hnames hvalue)
      · exact .inr ⟨_, .names hnames hvalue⟩
    by_cases hlist : test ∈ listTests
    · by_cases hvalue : ∀ items, value ≠ .arr items
      · exact .inr ⟨_, .list hlist hvalue⟩
      · match value with
        | .arr items =>
          rcases items_or_firstFault items with
            hitems | ⟨before, item, after, e, rfl, hbefore, hitem⟩
          · exact .inl (.list hlist hitems)
          · exact .inr ⟨e, .item hlist hbefore hitem⟩
        | .null | .bool _ | .int _ | .float _ | .str _ | .obj _ => simp at hvalue
    by_cases hfeature : test = "feature"
    · subst hfeature
      by_cases hvalue : ∀ name : Text, name ≠ "" → value ≠ .str name
      · exact .inr ⟨_, .flag hvalue⟩
      · push Not at hvalue
        obtain ⟨name, hname, rfl⟩ := hvalue
        exact .inl (.flag hname)
    by_cases hnot : test = "not"
    · subst hnot
      rcases grammar_or_firstFault value with hvalue | ⟨e, hvalue⟩
      · exact .inl (.negation hvalue)
      · exact .inr ⟨e, .negation hvalue⟩
    · exact .inr ⟨_, .unknown (by simp [tests, hnames, hlist, hfeature, hnot])⟩
  | .null | .int _ | .float _ | .str _ | .arr _ | .obj [] | .obj (_ :: _ :: _) =>
    .inr ⟨_, .shape (by simp) (by simp)⟩

theorem items_or_firstFault : ∀ items : List Json, (∀ item ∈ items, Grammar item) ∨
    ∃ before item after e, items = before ++ item :: after ∧ (∀ b ∈ before, Grammar b) ∧
      FirstFault item e
  | [] => .inl fun _ h => absurd h List.not_mem_nil
  | item :: rest => by
    rcases grammar_or_firstFault item with hitem | ⟨e, hitem⟩
    · rcases items_or_firstFault rest with
        hrest | ⟨before, faulty, after, e, rfl, hbefore, hfault⟩
      · exact .inl (List.forall_mem_cons.2 ⟨hitem, hrest⟩)
      · have hbefore' := List.forall_mem_cons.2 ⟨hitem, hbefore⟩
        exact .inr ⟨item :: before, faulty, after, e, rfl, hbefore', hfault⟩
    · exact .inr ⟨[], item, rest, e, rfl, fun _ h => absurd h List.not_mem_nil, hitem⟩

end

theorem ofJson_settled (data : Json) : Settled (ofJson data) (Grammar data) (FirstFault data) where
  ok_of_good := exists_ofJson_of_grammar
  error_of_fault _ := ofJson_of_firstFault
  good_or_fault := grammar_or_firstFault data

/-- A value is read as a predicate just where the grammar generates it. Reading any other value
reports its first fault, however deep that lies. -/
theorem read_by_grammar (data : Json) :
    ((∃ p, ofJson data = .ok p) ↔ Grammar data) ∧
    (¬ Grammar data ↔ ∃ e, ofJson data = .error e) ∧
    ∀ e, ofJson data = .error e ↔ FirstFault data e := by
  have hsettled := ofJson_settled data
  exact ⟨hsettled.exists_ok_iff, hsettled.not_good_iff, fun _ => hsettled.error_iff⟩

end Predicate

end GatedModules
