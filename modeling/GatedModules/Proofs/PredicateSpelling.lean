import GatedModules.Proofs.PredicateGrammar

/-!
# The spelling of written predicates

A predicate can be spelled in several ways: a test of names takes a single name or a list, and what
never holds is `false` or the disjunction of nothing. It is written in one of them, and that is the
spelling it was read from with the lists and the `false` put in.
-/

namespace GatedModules

namespace Json

/-- What stands under a key, a single name under a test of names being made a list. -/
def namesListed (key : Text) : Json → Json
  | .str name => if key ∈ Predicate.nameTests then .texts [name] else .str name
  | value => value

/-- The member of an object that stands for the disjunction of nothing. -/
def anyOfNothing : Text × Json := ("any", .arr [])

mutual

/-- A value with a list for every single name under a test of names, and `false` for every
disjunction of nothing, at every depth. -/
def respelled : Json → Json
  | .arr items => .arr (respelledItems items)
  | .obj members =>
    if members = [anyOfNothing] then .bool false else .obj (respelledMembers members)
  | value => value

def respelledItems : List Json → List Json
  | [] => []
  | item :: rest => respelled item :: respelledItems rest

def respelledMembers : List (Text × Json) → List (Text × Json)
  | [] => []
  | (key, value) :: rest => (key, namesListed key (respelled value)) :: respelledMembers rest

end

@[simp] theorem respelled_bool (b : Bool) : (Json.bool b).respelled = .bool b := by
  simp [respelled]

@[simp] theorem respelled_str (t : Text) : (Json.str t).respelled = .str t := by
  simp [respelled]

theorem respelledItems_eq_map (items : List Json) : respelledItems items = items.map respelled := by
  induction items with
  | nil => rfl
  | cons item items ih => rw [respelledItems, ih, List.map_cons]

theorem respelled_arr (items : List Json) :
    (Json.arr items).respelled = .arr (items.map respelled) := by
  rw [respelled, respelledItems_eq_map]

theorem respelled_texts (names : List Text) : (Json.texts names).respelled = .texts names := by
  rw [texts, respelled_arr, List.map_map]
  exact congrArg Json.arr (List.map_congr_left fun name _ => respelled_str name)

theorem respelled_member {key : Text} {value : Json} (h : (key, value) ≠ anyOfNothing) :
    (Json.obj [(key, value)]).respelled = .obj [(key, namesListed key value.respelled)] := by
  rw [respelled, if_neg (mt List.singleton_inj.1 h), respelledMembers, respelledMembers]

theorem namesListed_of_not_mem {key : Text} (hkey : key ∉ Predicate.nameTests) (value : Json) :
    namesListed key value = value := by
  unfold namesListed
  split
  · rw [if_neg hkey]
  · rfl

theorem ne_anyOfNothing {key : Text} (hkey : key ≠ "any") (value : Json) :
    (key, value) ≠ anyOfNothing :=
  fun h => hkey (congrArg Prod.fst h)

theorem respelled_other {key : Text} (hkey : key ∉ Predicate.nameTests) (hany : key ≠ "any")
    (value : Json) : (Json.obj [(key, value)]).respelled = .obj [(key, value.respelled)] := by
  rw [respelled_member (ne_anyOfNothing hany value), namesListed_of_not_mem hkey]

end Json

namespace Predicate

variable {data value : Json} {test : Text} {names : List Text} {items : List Json}
  {ps : List Predicate}

theorem respelled_names (htest : test ∈ nameTests) (h : readNames test value = .ok names) :
    (Json.obj [(test, value)]).respelled = .obj [(test, .texts names)] := by
  have hany : test ≠ "any" := by
    rintro rfl
    exact absurd htest (by decide)
  rw [Json.respelled_member (Json.ne_anyOfNothing hany value)]
  rcases readNames_eq_ok_iff.1 h with ⟨name, rfl, rfl⟩ | rfl
  · rw [Json.respelled_str, Json.namesListed, if_pos htest]
  · rw [Json.respelled_texts]
    rfl

theorem map_toJson_eq_respelled (h : ofJsons items = .ok ps)
    (heach : ∀ p ∈ ps, ∀ {data : Json}, ofJson data = .ok p → p.toJson = data.respelled) :
    ps.map toJson = items.map Json.respelled := by
  have hread := ofJsons_eq_ok_iff.1 h
  clear h
  induction hread with
  | nil => rfl
  | @cons item p items ps hp _ ih =>
    obtain ⟨hfirst, hrest⟩ := List.forall_mem_cons.1 heach
    rw [List.map_cons, List.map_cons, hfirst hp, ih hrest]

theorem toJson_eq_respelled {p : Predicate} (h : ofJson data = .ok p) :
    p.toJson = data.respelled := by
  induction p generalizing data with
  | always =>
    obtain rfl := form_of_ofJson h
    rw [toJson, Json.respelled_bool]
  | platformIn names | architectureIn names | configurationIn names =>
    obtain ⟨value, rfl, hnames⟩ := form_of_ofJson h
    rw [toJson, respelled_names (by decide) hnames]
  | featureEnabled name =>
    obtain ⟨rfl, -⟩ := form_of_ofJson h
    rw [toJson, Json.respelled_other (by decide) (by decide), Json.respelled_str]
  | allOf ps ih =>
    obtain ⟨items, rfl, hps⟩ := form_of_ofJson h
    rw [toJson, toJsons_eq_map, map_toJson_eq_respelled hps ih,
      Json.respelled_other (by decide) (by decide), Json.respelled_arr]
  | anyOf ps ih =>
    rcases form_of_ofJson h with ⟨rfl, rfl⟩ | ⟨items, rfl, hps⟩
    · rw [Json.respelled_bool]
      rfl
    have hitems := map_toJson_eq_respelled hps ih
    rw [toJson, toJsons_eq_map, hitems]
    -- Nothing is written as `false`, and only nothing is respelled so.
    cases ps with
    | nil =>
      obtain rfl := List.map_eq_nil_iff.1 hitems.symm
      rfl
    | cons p ps =>
      obtain ⟨item, items, rfl, -⟩ := List.map_eq_cons_iff.1 hitems.symm
      rw [Json.respelled_member (by simp [Json.anyOfNothing]), Json.respelled_arr,
        Json.namesListed_of_not_mem (by decide)]
      rfl
  | negation p ih =>
    obtain ⟨value, rfl, hp⟩ := form_of_ofJson h
    rw [toJson, ih hp, Json.respelled_other (by decide) (by decide)]

/-- A predicate comes back from its written form just where its flags have names. What is written
for a predicate that was read is the value it was read from, spelled with lists and `false`. So
different predicates whose flags have names are not written alike. -/
theorem written_form_inverse :
    (∀ p : Predicate, ofJson p.toJson = .ok p ↔ p.Named) ∧
    (∀ data p, ofJson data = .ok p → p.toJson = data.respelled) ∧
    ∀ p q : Predicate, p.Named → q.Named → p.toJson = q.toJson → p = q :=
  ⟨fun _ => ⟨named_of_ofJson, ofJson_toJson⟩, fun _ _ => toJson_eq_respelled,
    fun _ _ => eq_of_toJson_eq⟩

end Predicate

/-! ## A predicate in mixed spelling -/

namespace MixedSpelling

/-- A single name, and the disjunction of nothing inside others. -/
def data : Json :=
  .obj [("any", .arr [.obj [("platform", .str "Linux")],
    .obj [("not", .obj [("all", .arr [.bool true, .obj [("any", .arr [])]])])],
    .obj [("feature", .str "X")]])]

def predicate : Predicate :=
  .anyOf [.platformIn ["Linux"], .negation (.allOf [.always, .anyOf []]), .featureEnabled "X"]

def written : Json :=
  .obj [("any", .arr [.obj [("platform", .texts ["Linux"])],
    .obj [("not", .obj [("all", .arr [.bool true, .bool false])])],
    .obj [("feature", .str "X")]])]

theorem ofJson_data : Predicate.ofJson data = .ok predicate := rfl

theorem respelled_data : data.respelled = written := rfl

end MixedSpelling

namespace Predicate

theorem mixedSpelling_written_form_inverse :
    ofJson MixedSpelling.data = .ok MixedSpelling.predicate ∧
    MixedSpelling.predicate.Named ∧ MixedSpelling.predicate.toJson = MixedSpelling.written ∧
    ofJson MixedSpelling.written = .ok MixedSpelling.predicate := by
  have hread := MixedSpelling.ofJson_data
  have hwritten := written_form_inverse.2.1 _ _ hread
  rw [MixedSpelling.respelled_data] at hwritten
  have hnamed := named_of_ofJson hread
  refine ⟨hread, hnamed, hwritten, ?_⟩
  rw [← hwritten]
  exact (written_form_inverse.1 _).2 hnamed

end Predicate

end GatedModules
