import GatedModules.Proofs.EnvironmentView

/-!
# What predicates mean

A predicate says something of an environment, and evaluation finds out whether it is so. A name is
that of the environment's platform or configuration if reading the name gives just this, so names
that cannot be read have no say and may be left out.
-/

namespace GatedModules

/-! ## Names of platforms and configurations -/

namespace Platform

theorem lower_words_nodup : (vocabulary.words.map fun w => Text.lower w.1).Nodup := by
  decide +kernel

theorem find?_eq_some_iff {name : Text} {p : Platform} :
    vocabulary.find? name = some p ↔ Text.sameLower name p.name = true := by
  rw [Vocabulary.find?_eq_some_iff lower_words_nodup, Text.sameLower_iff]
  constructor
  · rintro ⟨w, hw, rfl, hlower⟩
    obtain ⟨q, -, rfl⟩ := List.mem_map.1 hw
    exact hlower.symm
  · intro hlower
    have hall : p ∈ all := by cases p <;> decide
    exact ⟨(p.name, p), List.mem_map.2 ⟨p, hall, rfl⟩, rfl, hlower.symm⟩

/-- Of `other` this is not so: all names that are not known stand for it. -/
theorem ofName_eq_iff {name : Text} {p : Platform} (hp : p ≠ .other) :
    ofName name = p ↔ Text.sameLower name p.name = true := by
  rw [← find?_eq_some_iff, ofName]
  cases vocabulary.find? name with
  | none => simpa using hp.symm
  | some q => simp

theorem mem_known {p : Platform} : p ∈ known ↔ p ≠ .other := by
  cases p <;> decide

theorem isKnownName_iff {name : Text} : isKnownName name = true ↔ ofName name ≠ .other := by
  rw [isKnownName, List.any_eq_true]
  constructor
  · rintro ⟨p, hp, hname⟩
    rw [(ofName_eq_iff (mem_known.1 hp)).2 hname]
    exact mem_known.1 hp
  · intro h
    exact ⟨ofName name, mem_known.2 h, (ofName_eq_iff h).1 rfl⟩

end Platform

namespace Configuration

theorem lower_words_nodup : (vocabulary.words.map fun w => Text.lower w.1).Nodup := by
  decide +kernel

theorem mem_all (c : Configuration) : c ∈ all := by
  cases c <;> decide

theorem ofName?_eq_some_iff {name : Text} {c : Configuration} :
    ofName? name = some c ↔ Text.sameLower name c.name = true := by
  rw [ofName?, Vocabulary.find?_eq_some_iff lower_words_nodup, Text.sameLower_iff]
  constructor
  · rintro ⟨w, hw, rfl, hlower⟩
    obtain ⟨d, -, rfl⟩ := List.mem_map.1 hw
    exact hlower.symm
  · intro hlower
    exact ⟨(c.name, c), List.mem_map.2 ⟨c, mem_all c, rfl⟩, rfl, hlower.symm⟩

end Configuration

namespace Predicate

variable {env : Environment}

theorem matchesPlatform_iff (h : env.platform ≠ .other) {name : Text} :
    matchesPlatform env name = true ↔ Platform.ofName name = env.platform := by
  rw [matchesPlatform, Bool.and_eq_true, Platform.isKnownName_iff, Platform.ofName_eq_iff h]
  refine and_iff_right_of_imp fun hname => ?_
  rwa [(Platform.ofName_eq_iff h).2 hname]

theorem matchesConfiguration_iff {name : Text} :
    matchesConfiguration env name = true ↔
      Configuration.ofName? name = some env.configuration := by
  rw [matchesConfiguration, Bool.and_eq_true, Configuration.ofName?_eq_some_iff]
  refine and_iff_right_of_imp fun hname => ?_
  exact List.any_eq_true.2 ⟨env.configuration, Configuration.mem_all _, hname⟩

/-! ## Conjunctions and disjunctions -/

theorem evaluateAll_eq_true_iff {ps : List Predicate} :
    evaluateAll env ps = .ok true ↔ ∀ p ∈ ps, evaluate env p = .ok true := by
  induction ps with
  | nil => simp [evaluateAll]
  | cons p ps ih =>
    rw [evaluateAll, bind_eq_ok_iff, List.forall_mem_cons, ← ih]
    constructor
    · rintro ⟨b, hb, hrest⟩
      cases b with
      | true => exact ⟨hb, hrest⟩
      | false => cases hrest
    · rintro ⟨hp, hrest⟩
      exact ⟨true, hp, hrest⟩

/-- A child without an answer would end the search before the one that holds. -/
theorem evaluateAny_eq_true_iff (henv : env.HasTextArchitecture) {ps : List Predicate} :
    evaluateAny env ps = .ok true ↔ ∃ p ∈ ps, evaluate env p = .ok true := by
  induction ps with
  | nil => simp [evaluateAny]
  | cons p ps ih =>
    rw [evaluateAny, bind_eq_ok_iff, List.exists_mem_cons_iff, ← ih]
    constructor
    · rintro ⟨b, hb, hrest⟩
      cases b with
      | true => exact .inl hb
      | false => exact .inr hrest
    · rintro (hp | hrest)
      · exact ⟨true, hp, rfl⟩
      · obtain ⟨b, hb⟩ := evaluate_total henv p
        cases b with
        | true => exact ⟨true, hb, rfl⟩
        | false => exact ⟨false, hb, hrest⟩

theorem evaluateAll_map {f : Predicate → Predicate} {ps : List Predicate}
    (h : ∀ p ∈ ps, evaluate env (f p) = evaluate env p) :
    evaluateAll env (ps.map f) = evaluateAll env ps := by
  induction ps with
  | nil => rfl
  | cons p ps ih =>
    obtain ⟨hp, hps⟩ := List.forall_mem_cons.1 h
    rw [List.map_cons, evaluateAll, evaluateAll, hp, ih hps]

theorem evaluateAny_map {f : Predicate → Predicate} {ps : List Predicate}
    (h : ∀ p ∈ ps, evaluate env (f p) = evaluate env p) :
    evaluateAny env (ps.map f) = evaluateAny env ps := by
  induction ps with
  | nil => rfl
  | cons p ps ih =>
    obtain ⟨hp, hps⟩ := List.forall_mem_cons.1 h
    rw [List.map_cons, evaluateAny, evaluateAny, hp, ih hps]

theorem evaluate_eq_false_iff (henv : env.HasTextArchitecture) {p : Predicate} :
    evaluate env p = .ok false ↔ ¬ evaluate env p = .ok true := by
  obtain ⟨b, hb⟩ := evaluate_total henv p
  rw [hb]
  cases b <;> simp

/-! ## Meaning -/

/-- What a predicate says of an environment. -/
def Holds (env : Environment) : Predicate → Prop
  | .always => True
  | .platformIn names =>
    env.platform ≠ .other ∧ ∃ name ∈ names, Platform.ofName name = env.platform
  | .architectureIn names =>
    ∃ architecture, env.architecture = .str architecture ∧
      ∃ name ∈ names, Text.lower name = Text.lower architecture
  | .configurationIn names =>
    ∃ name ∈ names, Configuration.ofName? name = some env.configuration
  | .featureEnabled name => name ∈ env.enabledFeatures
  | .allOf ps => ∀ p, p ∈ ps → p.Holds env
  | .anyOf ps => ∃ p, ∃ _ : p ∈ ps, p.Holds env
  | .negation p => ¬ p.Holds env

theorem evaluate_eq_true_iff (henv : env.HasTextArchitecture) (hflags : env.FlagsDistinct)
    (p : Predicate) : evaluate env p = .ok true ↔ p.Holds env := by
  induction p with
  | always => simp [evaluate, Holds]
  | platformIn names =>
    rw [evaluate, Holds, Except.ok.injEq, Bool.and_eq_true, bne_iff_ne, List.any_eq_true]
    refine and_congr_right fun h => ?_
    simp only [matchesPlatform_iff h]
  | architectureIn names =>
    obtain ⟨a, ha⟩ := henv
    simp [evaluate, Holds, ha, Text.sameLower_iff]
  | configurationIn names =>
    simp [evaluate, Holds, matchesConfiguration_iff]
  | featureEnabled name =>
    rw [evaluate, Holds, Except.ok.injEq, Environment.mem_enabledFeatures hflags]
  | allOf ps ih =>
    rw [evaluate, Holds, evaluateAll_eq_true_iff]
    exact forall₂_congr ih
  | anyOf ps ih =>
    rw [evaluate, Holds, evaluateAny_eq_true_iff henv]
    simp only [exists_prop]
    exact exists_congr fun p => and_congr_right (ih p)
  | negation p ih =>
    -- that the child does not hold is seen by its own answer, so the hypothesis goes both ways
    rw [evaluate, Holds, ← ih, ← evaluate_eq_false_iff henv, map_eq_ok_iff]
    simp

/-! ## Unknown names -/

/-- The predicate without the names that stand for no platform and for no configuration. -/
def withoutUnknownNames : Predicate → Predicate
  | .platformIn names => .platformIn (names.filter fun name => Platform.ofName name ≠ .other)
  | .configurationIn names =>
    .configurationIn (names.filter fun name => (Configuration.ofName? name).isSome)
  | .allOf ps => .allOf (ps.map withoutUnknownNames)
  | .anyOf ps => .anyOf (ps.map withoutUnknownNames)
  | .negation p => .negation p.withoutUnknownNames
  | p => p

theorem any_filter_of_imp {f g : α → Bool} (h : ∀ a, g a = true → f a = true) (as : List α) :
    (as.filter f).any g = as.any g := by
  rw [List.any_filter]
  congr 1
  funext a
  cases hg : g a with
  | false => rw [Bool.and_false]
  | true => rw [h a hg, Bool.and_true]

theorem evaluate_withoutUnknownNames (env : Environment) (p : Predicate) :
    evaluate env p.withoutUnknownNames = evaluate env p := by
  induction p with
  | platformIn names =>
    have hknown : ∀ name, matchesPlatform env name = true →
        decide (Platform.ofName name ≠ .other) = true := by
      intro name hname
      rw [matchesPlatform, Bool.and_eq_true, Platform.isKnownName_iff] at hname
      exact decide_eq_true hname.1
    rw [withoutUnknownNames, evaluate, evaluate, any_filter_of_imp hknown]
  | configurationIn names =>
    have hknown : ∀ name, matchesConfiguration env name = true →
        (Configuration.ofName? name).isSome = true := by
      intro name hname
      rw [matchesConfiguration_iff.1 hname]
      rfl
    rw [withoutUnknownNames, evaluate, evaluate, any_filter_of_imp hknown]
  | allOf ps ih => rw [withoutUnknownNames, evaluate, evaluate, evaluateAll_map ih]
  | anyOf ps ih => rw [withoutUnknownNames, evaluate, evaluate, evaluateAny_map ih]
  | negation p ih => rw [withoutUnknownNames, evaluate, evaluate, ih]
  | _ => rw [withoutUnknownNames] <;> simp

/-- Where the architecture is a text, a predicate evaluates to whether it holds, and leaving out the
names that are not known changes nothing. -/
theorem evaluate_iff_holds (env : Environment) (henv : env.HasTextArchitecture)
    (hflags : env.FlagsDistinct) (p : Predicate) :
    (evaluate env p = .ok true ↔ p.Holds env) ∧ (evaluate env p = .ok false ↔ ¬ p.Holds env) ∧
      evaluate env p.withoutUnknownNames = evaluate env p := by
  have htrue := evaluate_eq_true_iff henv hflags p
  refine ⟨htrue, ?_, evaluate_withoutUnknownNames env p⟩
  rw [evaluate_eq_false_iff henv, htrue]

end Predicate

/-! ## On a console -/

namespace Consoles

/-- The name of the console itself is as unknown as any other. -/
def gate : Predicate :=
  .allOf [.negation (.platformIn ["Switch", "Other"]), .configurationIn ["Retail", "shipping"],
    .anyOf [.architectureIn [], .featureEnabled "PROFILE", .featureEnabled "HDR"]]

end Consoles

namespace Predicate

theorem consoles_evaluate_iff_holds :
    Consoles.second.HasTextArchitecture ∧ Consoles.second.FlagsDistinct ∧
    Consoles.gate.Holds Consoles.second ∧ ¬ (negation Consoles.gate).Holds Consoles.second ∧
    Consoles.gate.withoutUnknownNames = .allOf [.negation (.platformIn []),
      .configurationIn ["shipping"],
      .anyOf [.architectureIn [], .featureEnabled "PROFILE", .featureEnabled "HDR"]] ∧
    evaluate Consoles.second Consoles.gate.withoutUnknownNames = .ok true := by
  have henv := Consoles.sameView.hasTextArchitecture'
  have hflags := Consoles.second_flagsDistinct
  have hgate : evaluate Consoles.second Consoles.gate = .ok true := by decide
  have hnegated : evaluate Consoles.second (.negation Consoles.gate) = .ok false := by decide
  have hknown : Consoles.gate.withoutUnknownNames = .allOf [.negation (.platformIn []),
      .configurationIn ["shipping"],
      .anyOf [.architectureIn [], .featureEnabled "PROFILE", .featureEnabled "HDR"]] := by
    simp only [Consoles.gate, withoutUnknownNames, List.map_cons, List.map_nil]
    decide
  obtain ⟨hholds, -, hsame⟩ := evaluate_iff_holds Consoles.second henv hflags Consoles.gate
  obtain ⟨-, hfails, -⟩ := evaluate_iff_holds Consoles.second henv hflags (.negation Consoles.gate)
  exact ⟨henv, hflags, hholds.1 hgate, hfails.1 hnegated, hknown, hsame.trans hgate⟩

end Predicate

end GatedModules
