import GatedModules.Environment.Reader
import GatedModules.Proofs.PredicateForm

/-!
# Which conditions have an answer

Reading an environment checks every part of it but the architecture, which is kept as it stands. So
a condition has an answer in an environment that was read, unless evaluating it comes to a test of
the architecture and something else than a text is there.
-/

namespace GatedModules

/-! ## Environments that were read -/

namespace Environment

variable {data : Json} {env : Environment}

theorem architecture_of_create {platform architecture configuration : Json}
    {features : List (Text × Json)}
    (h : create platform architecture configuration features = .ok env) :
    env.architecture = architecture := by
  obtain ⟨p, -, h⟩ := bind_eq_ok_iff.1 h
  obtain ⟨c, -, h⟩ := bind_eq_ok_iff.1 h
  cases h
  rfl

theorem architecture_of_ofJson (h : ofJson data = .ok env) :
    env.architecture = (data.member? "architecture").getD defaultArchitecture := by
  unfold ofJson at h
  split at h
  · unfold ofMembers at h
    split at h
    · cases h
    · split at h
      · split at h
        · cases h
        · exact architecture_of_create (mapError_eq_ok_iff.1 h)
      · cases h
  · cases h

theorem hasTextArchitecture_iff_of_ofJson (h : ofJson data = .ok env) :
    env.HasTextArchitecture ↔
      data.member? "architecture" = none ∨ ∃ t, data.member? "architecture" = some (.str t) := by
  rw [HasTextArchitecture, architecture_of_ofJson h]
  cases data.member? "architecture" with
  | none => simp [defaultArchitecture]
  | some architecture => simp

end Environment

/-! ## Conditions that ask for the architecture -/

namespace Predicate

/-- Evaluating a predicate comes to a test of the architecture. -/
inductive AsksArchitecture (env : Environment) : Predicate → Prop
  | test (names : List Text) : AsksArchitecture env (.architectureIn names)
  | inAll {before after : List Predicate} {p : Predicate}
    (hbefore : ∀ q ∈ before, evaluate env q = .ok true) (hp : AsksArchitecture env p) :
    AsksArchitecture env (.allOf (before ++ p :: after))
  | inAny {before after : List Predicate} {p : Predicate}
    (hbefore : ∀ q ∈ before, evaluate env q = .ok false) (hp : AsksArchitecture env p) :
    AsksArchitecture env (.anyOf (before ++ p :: after))
  | inNegation {p : Predicate} (hp : AsksArchitecture env p) : AsksArchitecture env (.negation p)

variable {env : Environment} {fault : ArchitectureFault}

/-- A search through some predicates that goes on as long as they have one answer. -/
def searchPast (env : Environment) (passed : Bool) :
    List Predicate → Except ArchitectureFault Bool
  | [] => .ok passed
  | p :: ps => do if (← evaluate env p) = passed then searchPast env passed ps else return !passed

theorem evaluateAll_eq_searchPast (ps : List Predicate) :
    evaluateAll env ps = searchPast env true ps := by
  induction ps with
  | nil => rfl
  | cons p ps ih =>
    rw [evaluateAll, searchPast, ih]
    rfl

theorem evaluateAny_eq_searchPast (ps : List Predicate) :
    evaluateAny env ps = searchPast env false ps := by
  induction ps with
  | nil => rfl
  | cons p ps ih =>
    rw [evaluateAny, searchPast, ih]
    refine congrArg _ (funext fun b => ?_)
    cases b <;> rfl

theorem searchPast_cons_of_passed {passed : Bool} {p : Predicate}
    (h : evaluate env p = .ok passed) (ps : List Predicate) :
    searchPast env passed (p :: ps) = searchPast env passed ps := by
  rw [searchPast, h]
  exact if_pos rfl

/-- The search ends at the first child without an answer, if those before it let it get there. -/
theorem searchPast_eq_error_iff {passed : Bool} {ps : List Predicate} :
    searchPast env passed ps = .error fault ↔ ∃ before p after, ps = before ++ p :: after ∧
      (∀ q ∈ before, evaluate env q = .ok passed) ∧ evaluate env p = .error fault := by
  constructor
  · intro h
    induction ps with
    | nil => cases h
    | cons p ps ih =>
      cases hp : evaluate env p with
      | error f =>
        rw [searchPast, hp] at h
        cases h
        exact ⟨[], p, ps, rfl, by simp, hp⟩
      | ok b =>
        by_cases hb : b = passed
        · subst hb
          rw [searchPast_cons_of_passed hp] at h
          obtain ⟨before, q, after, rfl, hbefore, hq⟩ := ih h
          exact ⟨p :: before, q, after, rfl, List.forall_mem_cons.2 ⟨hp, hbefore⟩, hq⟩
        · have hended : searchPast env passed (p :: ps) = .ok !passed := by
            rw [searchPast, hp]
            exact if_neg hb
          rw [hended] at h
          cases h
  · rintro ⟨before, p, after, rfl, hbefore, hp⟩
    induction before with
    | nil =>
      rw [List.nil_append, searchPast, hp]
      rfl
    | cons q before ih =>
      obtain ⟨hq, hbefore⟩ := List.forall_mem_cons.1 hbefore
      rw [List.cons_append, searchPast_cons_of_passed hq]
      exact ih hbefore

theorem asksArchitecture_of_error {p : Predicate} (h : evaluate env p = .error fault) :
    p.AsksArchitecture env := by
  induction p with
  | architectureIn names => exact .test names
  | allOf ps ih =>
    rw [evaluate, evaluateAll_eq_searchPast] at h
    obtain ⟨before, p, after, rfl, hbefore, hp⟩ := searchPast_eq_error_iff.1 h
    exact .inAll hbefore (ih p (by simp) hp)
  | anyOf ps ih =>
    rw [evaluate, evaluateAny_eq_searchPast] at h
    obtain ⟨before, p, after, rfl, hbefore, hp⟩ := searchPast_eq_error_iff.1 h
    exact .inAny hbefore (ih p (by simp) hp)
  | negation p ih =>
    rw [evaluate] at h
    cases hp : evaluate env p with
    | error f =>
      rw [hp] at h
      cases h
      exact .inNegation (ih hp)
    | ok b =>
      rw [hp] at h
      cases h
  | _ =>
    rw [evaluate] at h
    cases h

theorem evaluate_of_asksArchitecture (henv : ¬ env.HasTextArchitecture) {p : Predicate}
    (h : p.AsksArchitecture env) : evaluate env p = .error ⟨env.architecture⟩ := by
  induction h with
  | test names =>
    rw [evaluate]
    split
    · next t ht => exact absurd ⟨t, ht⟩ henv
    · rfl
  | inAll hbefore _ ih =>
    rw [evaluate, evaluateAll_eq_searchPast]
    exact searchPast_eq_error_iff.2 ⟨_, _, _, rfl, hbefore, ih⟩
  | inAny hbefore _ ih =>
    rw [evaluate, evaluateAny_eq_searchPast]
    exact searchPast_eq_error_iff.2 ⟨_, _, _, rfl, hbefore, ih⟩
  | inNegation _ ih =>
    rw [evaluate, ih]
    rfl

theorem evaluate_eq_error_iff {p : Predicate} :
    evaluate env p = .error fault ↔
      ¬ env.HasTextArchitecture ∧ p.AsksArchitecture env ∧ fault = ⟨env.architecture⟩ := by
  constructor
  · intro h
    have henv : ¬ env.HasTextArchitecture := by
      intro henv
      obtain ⟨b, hb⟩ := evaluate_total henv p
      rw [h] at hb
      cases hb
    have hasks := asksArchitecture_of_error h
    rw [evaluate_of_asksArchitecture henv hasks] at h
    cases h
    exact ⟨henv, hasks, rfl⟩
  · rintro ⟨henv, hasks, rfl⟩
    exact evaluate_of_asksArchitecture henv hasks

/-- In an environment that was read, a condition has an answer if the architecture is a text or is
left out, or if the condition does not ask for it. Otherwise the fault is the architecture that was
given. -/
theorem answer_of_environment_read (data : Json) (env : Environment)
    (h : Environment.ofJson data = .ok env) (p : Predicate) :
    ((∃ b, evaluate env p = .ok b) ↔
      (data.member? "architecture" = none ∨ ∃ t, data.member? "architecture" = some (.str t)) ∨
        ¬ p.AsksArchitecture env) ∧
    ∀ fault, evaluate env p = .error fault → data.member? "architecture" = some fault.found := by
  rw [← Environment.hasTextArchitecture_iff_of_ofJson h]
  constructor
  · constructor
    · rintro ⟨b, hb⟩
      refine Classical.or_iff_not_imp_left.2 fun henv hasks => ?_
      rw [evaluate_of_asksArchitecture henv hasks] at hb
      cases hb
    · intro hor
      cases hp : evaluate env p with
      | ok b => exact ⟨b, rfl⟩
      | error fault =>
        obtain ⟨henv, hasks, -⟩ := evaluate_eq_error_iff.1 hp
        exact (hor.elim henv fun hnot => hnot hasks).elim
  · intro fault hp
    obtain ⟨henv, -, rfl⟩ := evaluate_eq_error_iff.1 hp
    rw [Environment.hasTextArchitecture_iff_of_ofJson h] at henv
    rw [Environment.architecture_of_ofJson h]
    cases harchitecture : data.member? "architecture" with
    | none => exact absurd (.inl harchitecture) henv
    | some architecture => rfl

end Predicate

/-! ## A number for an architecture -/

namespace NumberedArchitecture

def data : Json := .obj [("platform", .str "Linux"), ("architecture", .int 64)]

def env : Environment := ⟨.linux, "Linux", .int 64, .development, []⟩

def condition : Json := .obj [("architecture", .texts ["x64"])]

def test : Predicate := .architectureIn ["x64"]

/-- The flag is not set, so the architecture is not asked for. -/
def gated : Predicate := .allOf [.featureEnabled "SIMD", test]

theorem ofJson_data : Environment.ofJson data = .ok env := rfl

theorem ofJson_condition : Predicate.ofJson condition = .ok test :=
  Predicate.ofJson_of_form ⟨_, rfl, Predicate.readNames_texts _ _⟩

end NumberedArchitecture

namespace Predicate

theorem numberedArchitecture_answer :
    Environment.ofJson NumberedArchitecture.data = .ok NumberedArchitecture.env ∧
    NumberedArchitecture.test.AsksArchitecture NumberedArchitecture.env ∧
    (¬ ∃ b, evaluate NumberedArchitecture.env NumberedArchitecture.test = .ok b) ∧
    evaluate NumberedArchitecture.env NumberedArchitecture.gated = .ok false ∧
    ¬ NumberedArchitecture.gated.AsksArchitecture NumberedArchitecture.env := by
  have hread := NumberedArchitecture.ofJson_data
  have hgated : evaluate NumberedArchitecture.env NumberedArchitecture.gated = .ok false := rfl
  have hmember : ¬ (NumberedArchitecture.data.member? "architecture" = none ∨
      ∃ t, NumberedArchitecture.data.member? "architecture" = some (.str t)) := by
    have hgiven : NumberedArchitecture.data.member? "architecture" = some (.int 64) := by decide
    simp [hgiven]
  obtain ⟨htest, -⟩ := answer_of_environment_read _ _ hread NumberedArchitecture.test
  obtain ⟨hanswer, -⟩ := answer_of_environment_read _ _ hread NumberedArchitecture.gated
  refine ⟨hread, .test _, fun h => ?_, hgated, (hanswer.1 ⟨_, hgated⟩).resolve_left hmember⟩
  exact (htest.1 h).elim hmember fun hnot => hnot (.test _)

/-- Both the environment and the condition are read, and evaluating breaks off. -/
theorem numberedArchitecture_unanswered :
    Environment.ofJson NumberedArchitecture.data = .ok NumberedArchitecture.env ∧
    ofJson NumberedArchitecture.condition = .ok NumberedArchitecture.test ∧
    evaluate NumberedArchitecture.env NumberedArchitecture.test = .error ⟨.int 64⟩ :=
  ⟨NumberedArchitecture.ofJson_data, NumberedArchitecture.ofJson_condition, rfl⟩

end Predicate

end GatedModules
