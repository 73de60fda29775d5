import GatedModules.Predicate.Reader
import GatedModules.Proofs.Activity
import Mathlib.Data.List.Forall2
import Mathlib.Tactic.SplitIfs

/-!
# The written form of a predicate

What is written for a predicate is read as that predicate. Only a flag without a name is never read,
so that nothing of what is read has one.
-/

namespace GatedModules

theorem exists_mem_of_forall₂ {related : α → β → Prop} {as : List α} {bs : List β}
    (h : List.Forall₂ related as bs) {b : β} (hb : b ∈ bs) : ∃ a ∈ as, related a b := by
  induction h with
  | nil => cases hb
  | @cons a c as bs hac _ ih =>
    rcases List.mem_cons.1 hb with rfl | hb
    · exact ⟨a, List.mem_cons_self, hac⟩
    · obtain ⟨a', ha', hrelated⟩ := ih hb
      exact ⟨a', List.mem_cons_of_mem _ ha', hrelated⟩

theorem forall₂_map_map {related : β → γ → Prop} {f : α → β} {g : α → γ} {as : List α}
    (h : ∀ a ∈ as, related (f a) (g a)) : List.Forall₂ related (as.map f) (as.map g) := by
  rw [List.forall₂_map_left_iff, List.forall₂_map_right_iff, List.forall₂_same]
  exact h

theorem Json.mapM_text?_eq_some_iff {items : List Json} {ts : List Text} :
    items.mapM Json.text? = some ts ↔ items = ts.map .str := by
  induction items generalizing ts with
  | nil => simp [eq_comm]
  | cons item items ih =>
    rw [List.mapM_cons, Option.bind_eq_bind, Option.bind_eq_some_iff]
    constructor
    · rintro ⟨t, ht, hrest⟩
      obtain ⟨ts', hts, hcons⟩ := Option.bind_eq_some_iff.1 hrest
      cases hcons
      cases item <;> cases ht
      rw [ih.1 hts, List.map_cons]
    · intro h
      obtain ⟨t, ts', rfl, ht, hts⟩ := List.map_eq_cons_iff.1 h.symm
      exact ⟨t, by rw [← ht]; rfl, Option.bind_eq_some_iff.2 ⟨ts', ih.2 hts.symm, rfl⟩⟩

theorem Json.textList?_eq_some_iff {value : Json} {ts : List Text} :
    value.textList? = some ts ↔ value = .texts ts := by
  unfold Json.textList? Json.texts
  split
  · next items => rw [Json.mapM_text?_eq_some_iff, Json.arr.injEq]
  · next hvalue =>
    simp only [reduceCtorEq, false_iff]
    exact hvalue _

namespace Predicate

/-- What a value looks like that is read as a predicate. -/
def Form (data : Json) : Predicate → Prop
  | .always => data = .bool true
  | .platformIn names =>
    ∃ value, data = .obj [("platform", value)] ∧ readNames "platform" value = .ok names
  | .architectureIn names =>
    ∃ value, data = .obj [("architecture", value)] ∧ readNames "architecture" value = .ok names
  | .configurationIn names =>
    ∃ value, data = .obj [("configuration", value)] ∧ readNames "configuration" value = .ok names
  | .featureEnabled name => data = .obj [("feature", .str name)] ∧ name ≠ ""
  | .allOf ps => ∃ items, data = .obj [("all", .arr items)] ∧ ofJsons items = .ok ps
  | .anyOf ps =>
    (data = .bool false ∧ ps = []) ∨
      ∃ items, data = .obj [("any", .arr items)] ∧ ofJsons items = .ok ps
  | .negation p => ∃ value, data = .obj [("not", value)] ∧ ofJson value = .ok p

theorem readFlag_eq_ok_iff {value : Json} {p : Predicate} :
    readFlag value = .ok p ↔ ∃ name, value = .str name ∧ name ≠ "" ∧ p = .featureEnabled name := by
  unfold readFlag
  split
  · next name =>
    by_cases hname : name = "" <;> simp [hname, eq_comm]
  · next hvalue =>
    simp only [reduceCtorEq, false_iff]
    rintro ⟨name, rfl, -⟩
    exact hvalue name rfl

theorem form_of_ofJson {data : Json} {p : Predicate} (h : ofJson data = .ok p) : Form data p := by
  unfold ofJson at h
  split at h
  · cases h
    rfl
  · cases h
    exact .inl ⟨rfl, rfl⟩
  · next test value =>
    split_ifs at h with hplatform harchitecture hconfiguration hfeature hall hany hnot
    · obtain ⟨names, hnames, rfl⟩ := map_eq_ok_iff.1 h
      subst hplatform
      exact ⟨value, rfl, hnames⟩
    · obtain ⟨names, hnames, rfl⟩ := map_eq_ok_iff.1 h
      subst harchitecture
      exact ⟨value, rfl, hnames⟩
    · obtain ⟨names, hnames, rfl⟩ := map_eq_ok_iff.1 h
      subst hconfiguration
      exact ⟨value, rfl, hnames⟩
    · obtain ⟨name, rfl, hname, rfl⟩ := readFlag_eq_ok_iff.1 h
      exact ⟨by rw [hfeature], hname⟩
    · split at h
      · next items =>
        obtain ⟨ps, hps, rfl⟩ := map_eq_ok_iff.1 h
        exact ⟨items, by rw [hall], hps⟩
      · cases h
    · split at h
      · next items =>
        obtain ⟨ps, hps, rfl⟩ := map_eq_ok_iff.1 h
        exact .inr ⟨items, by rw [hany], hps⟩
      · cases h
    · obtain ⟨child, hchild, rfl⟩ := map_eq_ok_iff.1 h
      exact ⟨value, by rw [hnot], hchild⟩
  · cases h

theorem ofJson_of_form {data : Json} {p : Predicate} (h : Form data p) : ofJson data = .ok p := by
  cases p with
  | always =>
    cases h
    rfl
  | platformIn names | architectureIn names | configurationIn names =>
    obtain ⟨value, rfl, hnames⟩ := h
    unfold ofJson
    exact map_eq_ok_iff.2 ⟨names, hnames, rfl⟩
  | featureEnabled name =>
    obtain ⟨rfl, hname⟩ := h
    unfold ofJson
    exact readFlag_eq_ok_iff.2 ⟨name, rfl, hname, rfl⟩
  | allOf ps =>
    obtain ⟨items, rfl, hps⟩ := h
    unfold ofJson
    exact map_eq_ok_iff.2 ⟨ps, hps, rfl⟩
  | anyOf ps =>
    rcases h with ⟨rfl, rfl⟩ | ⟨items, rfl, hps⟩
    · rfl
    · unfold ofJson
      exact map_eq_ok_iff.2 ⟨ps, hps, rfl⟩
  | negation p =>
    obtain ⟨value, rfl, hp⟩ := h
    unfold ofJson
    exact map_eq_ok_iff.2 ⟨p, hp, rfl⟩

theorem ofJson_eq_ok_iff {data : Json} {p : Predicate} : ofJson data = .ok p ↔ Form data p :=
  ⟨form_of_ofJson, ofJson_of_form⟩

theorem ofJsons_eq_ok_iff {items : List Json} {ps : List Predicate} :
    ofJsons items = .ok ps ↔ List.Forall₂ (fun item p => ofJson item = .ok p) items ps := by
  induction items generalizing ps with
  | nil => simp [ofJsons, eq_comm]
  | cons item items ih =>
    rw [ofJsons, List.forall₂_cons_left_iff, bind_eq_ok_iff]
    constructor
    · rintro ⟨p, hp, hrest⟩
      obtain ⟨ps, hps, hcons⟩ := bind_eq_ok_iff.1 hrest
      cases hcons
      exact ⟨p, ps, hp, ih.1 hps, rfl⟩
    · rintro ⟨p, ps, hp, hps, rfl⟩
      exact ⟨p, hp, bind_eq_ok_iff.2 ⟨ps, ih.2 hps, rfl⟩⟩

/-! ## Predicates that can be read -/

/-- Every flag that a predicate tests has a name. -/
def Named : Predicate → Prop
  | .featureEnabled name => name ≠ ""
  | .allOf ps | .anyOf ps => ∀ p, p ∈ ps → p.Named
  | .negation p => p.Named
  | _ => True

theorem named_of_ofJson {data : Json} {p : Predicate} (h : ofJson data = .ok p) : p.Named := by
  induction p generalizing data with
  | always | platformIn _ | architectureIn _ | configurationIn _ => simp [Named]
  | featureEnabled name =>
    rw [Named]
    exact (ofJson_eq_ok_iff.1 h).2
  | allOf ps ih =>
    obtain ⟨items, -, hps⟩ := ofJson_eq_ok_iff.1 h
    rw [Named]
    intro p hp
    obtain ⟨item, -, hitem⟩ := exists_mem_of_forall₂ (ofJsons_eq_ok_iff.1 hps) hp
    exact ih p hp hitem
  | anyOf ps ih =>
    rw [Named]
    rcases ofJson_eq_ok_iff.1 h with ⟨-, rfl⟩ | ⟨items, -, hps⟩
    · intro p hp
      cases hp
    · intro p hp
      obtain ⟨item, -, hitem⟩ := exists_mem_of_forall₂ (ofJsons_eq_ok_iff.1 hps) hp
      exact ih p hp hitem
  | negation p ih =>
    obtain ⟨value, -, hp⟩ := ofJson_eq_ok_iff.1 h
    rw [Named]
    exact ih hp

theorem readNames_texts (test : Text) (names : List Text) :
    readNames test (.texts names) = .ok names := by
  rw [readNames, Json.textList?_eq_some_iff.2 rfl]
  rintro name h
  cases h

theorem toJsons_eq_map (ps : List Predicate) : toJsons ps = ps.map toJson := by
  induction ps with
  | nil => rfl
  | cons p ps ih => rw [toJsons, ih, List.map_cons]

theorem ofJsons_map_toJson {ps : List Predicate} (h : ∀ p ∈ ps, ofJson p.toJson = .ok p) :
    ofJsons (ps.map toJson) = .ok ps := by
  rw [ofJsons_eq_ok_iff, List.forall₂_map_left_iff, List.forall₂_same]
  exact h

theorem ofJson_toJson {p : Predicate} (h : p.Named) : ofJson p.toJson = .ok p := by
  induction p with
  | always => rfl
  | platformIn names | architectureIn names | configurationIn names =>
    exact ofJson_of_form ⟨_, rfl, readNames_texts _ names⟩
  | featureEnabled name =>
    rw [Named] at h
    exact ofJson_of_form ⟨rfl, h⟩
  | allOf ps ih =>
    rw [Named] at h
    refine ofJson_of_form ⟨_, rfl, ?_⟩
    rw [toJsons_eq_map]
    exact ofJsons_map_toJson fun p hp => ih p hp (h p hp)
  | anyOf ps ih =>
    rw [Named] at h
    rw [toJson]
    cases ps with
    | nil => rfl
    | cons p ps =>
      refine ofJson_of_form (.inr ⟨_, rfl, ?_⟩)
      rw [toJsons_eq_map]
      exact ofJsons_map_toJson fun q hq => ih q hq (h q hq)
  | negation p ih =>
    rw [Named] at h
    exact ofJson_of_form ⟨_, rfl, ih h⟩

/-- Two predicates that can be read are not written alike. -/
theorem eq_of_toJson_eq {p q : Predicate} (hp : p.Named) (hq : q.Named)
    (h : p.toJson = q.toJson) : p = q := by
  have hread := ofJson_toJson hp
  rw [h, ofJson_toJson hq] at hread
  exact (Except.ok.inj hread).symm

end Predicate

end GatedModules
