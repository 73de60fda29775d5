import GatedModules.Json.Basic

/-!
# Predicates

A predicate says in which environments a dependency edge is there. It is built from tests of the
platform, the architecture, the configuration and the feature flags.
-/

namespace GatedModules

inductive Predicate where
  | always
  | platformIn (names : List Text)
  | architectureIn (names : List Text)
  | configurationIn (names : List Text)
  | featureEnabled (name : Text)
  | allOf (children : List Predicate)
  | anyOf (children : List Predicate)
  | negation (child : Predicate)
  deriving Repr, Inhabited

namespace Predicate

/-! ## Induction -/

/-- Induction over a predicate, with every child of a conjunction or a disjunction at hand. -/
@[elab_as_elim, induction_eliminator]
theorem induction {motive : Predicate → Prop} (always : motive .always)
    (platformIn : ∀ names, motive (.platformIn names))
    (architectureIn : ∀ names, motive (.architectureIn names))
    (configurationIn : ∀ names, motive (.configurationIn names))
    (featureEnabled : ∀ name, motive (.featureEnabled name))
    (allOf : ∀ ps, (∀ p ∈ ps, motive p) → motive (.allOf ps))
    (anyOf : ∀ ps, (∀ p ∈ ps, motive p) → motive (.anyOf ps))
    (negation : ∀ p, motive p → motive (.negation p)) : ∀ p, motive p
  | .always => always
  | .platformIn names => platformIn names
  | .architectureIn names => architectureIn names
  | .configurationIn names => configurationIn names
  | .featureEnabled name => featureEnabled name
  | .allOf ps => allOf ps fun p _ => induction always platformIn architectureIn configurationIn
      featureEnabled allOf anyOf negation p
  | .anyOf ps => anyOf ps fun p _ => induction always platformIn architectureIn configurationIn
      featureEnabled allOf anyOf negation p
  | .negation p => negation p (induction always platformIn architectureIn configurationIn
      featureEnabled allOf anyOf negation p)

/-! ## Equality -/

mutual

/-- Whether two predicates are the same tree. -/
def same : Predicate → Predicate → Bool
  | .always, .always => true
  | .platformIn a, .platformIn b => a == b
  | .architectureIn a, .architectureIn b => a == b
  | .configurationIn a, .configurationIn b => a == b
  | .featureEnabled a, .featureEnabled b => a == b
  | .allOf a, .allOf b => sameChildren a b
  | .anyOf a, .anyOf b => sameChildren a b
  | .negation a, .negation b => same a b
  | _, _ => false

def sameChildren : List Predicate → List Predicate → Bool
  | [], [] => true
  | p :: ps, q :: qs => same p q && sameChildren ps qs
  | _, _ => false

end

mutual

theorem same_self : ∀ p : Predicate, same p p = true
  | .always | .platformIn _ | .architectureIn _ | .configurationIn _ | .featureEnabled _ => by
    simp [same]
  | .allOf ps | .anyOf ps => by simp [same, sameChildren_self ps]
  | .negation p => by simp [same, same_self p]

theorem sameChildren_self : ∀ ps : List Predicate, sameChildren ps ps = true
  | [] => by simp [sameChildren]
  | p :: ps => by simp [sameChildren, same_self p, sameChildren_self ps]

end

mutual

theorem eq_of_same : ∀ {p q : Predicate}, same p q = true → p = q
  | .always, q, h | .platformIn _, q, h | .architectureIn _, q, h | .configurationIn _, q, h
  | .featureEnabled _, q, h => by cases q <;> simp_all [same]
  | .allOf ps, q, h => by
    cases q with
    | allOf qs =>
      have e : ps = qs := eq_of_sameChildren (by simpa [same] using h)
      rw [e]
    | _ => simp [same] at h
  | .anyOf ps, q, h => by
    cases q with
    | anyOf qs =>
      have e : ps = qs := eq_of_sameChildren (by simpa [same] using h)
      rw [e]
    | _ => simp [same] at h
  | .negation p, q, h => by
    cases q with
    | negation q =>
      have e : p = q := eq_of_same (by simpa [same] using h)
      rw [e]
    | _ => simp [same] at h

theorem eq_of_sameChildren : ∀ {ps qs : List Predicate}, sameChildren ps qs = true → ps = qs
  | [], qs, h => by cases qs <;> simp_all [sameChildren]
  | p :: ps, qs, h => by
    cases qs with
    | nil => simp [sameChildren] at h
    | cons q qs =>
      simp only [sameChildren, Bool.and_eq_true] at h
      rw [eq_of_same h.1, eq_of_sameChildren h.2]

end

theorem same_iff {p q : Predicate} : same p q = true ↔ p = q :=
  ⟨eq_of_same, fun h => h ▸ same_self p⟩

instance : DecidableEq Predicate := fun _ _ => decidable_of_iff _ same_iff

/-! ## In words -/

/-- A set of names between braces. -/
def describeNames (names : List Text) : Text := "\x7b" ++ Text.intercalate ", " names ++ "\x7d"

mutual

/-- A predicate in words. An empty conjunction always holds and an empty disjunction never does. -/
def describe : Predicate → Text
  | .always => "always"
  | .platformIn names => "platform in " ++ describeNames names
  | .architectureIn names => "architecture in " ++ describeNames names
  | .configurationIn names => "configuration in " ++ describeNames names
  | .featureEnabled name => "feature " ++ name
  | .allOf ps =>
    if ps.isEmpty then "always" else "(" ++ Text.intercalate " and " (describeAll ps) ++ ")"
  | .anyOf ps =>
    if ps.isEmpty then "never" else "(" ++ Text.intercalate " or " (describeAll ps) ++ ")"
  | .negation p => "not " ++ describe p

def describeAll : List Predicate → List Text
  | [] => []
  | p :: ps => describe p :: describeAll ps

end

/-! ## As JSON -/

mutual

/-- The JSON form: an object whose one member names the test, or a truth value. -/
def toJson : Predicate → Json
  | .always => .bool true
  | .platformIn names => .obj [("platform", .texts names)]
  | .architectureIn names => .obj [("architecture", .texts names)]
  | .configurationIn names => .obj [("configuration", .texts names)]
  | .featureEnabled name => .obj [("feature", .str name)]
  | .allOf ps => .obj [("all", .arr (toJsons ps))]
  | .anyOf ps => if ps.isEmpty then .bool false else .obj [("any", .arr (toJsons ps))]
  | .negation p => .obj [("not", toJson p)]

def toJsons : List Predicate → List Json
  | [] => []
  | p :: ps => toJson p :: toJsons ps

end

end Predicate

end GatedModules
