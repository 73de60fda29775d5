import GatedModules.Proofs.Results
import GatedModules.Registry.Basic

/-!
# Active edges

Which edges of a module are there is settled edge by edge. Where the architecture of the environment
is a text, every condition has an answer.
-/

namespace GatedModules

/-! ## Conditions have an answer -/

/-- The architecture of an environment is a text. -/
def Environment.HasTextArchitecture (env : Environment) : Prop := ∃ a, env.architecture = .str a

namespace Predicate

variable {env : Environment}

mutual

theorem evaluate_total (h : env.HasTextArchitecture) :
    ∀ p : Predicate, ∃ b, evaluate env p = .ok b
  | .always | .platformIn _ | .configurationIn _ | .featureEnabled _ => by simp [evaluate]
  | .architectureIn _ => by
    obtain ⟨a, ha⟩ := h
    simp [evaluate, ha]
  | .allOf ps => by simpa [evaluate] using evaluateAll_total h ps
  | .anyOf ps => by simpa [evaluate] using evaluateAny_total h ps
  | .negation p => by
    obtain ⟨b, hb⟩ := evaluate_total h p
    exact ⟨!b, by simp [evaluate, hb, Except.map]⟩

theorem evaluateAll_total (h : env.HasTextArchitecture) :
    ∀ ps : List Predicate, ∃ b, evaluateAll env ps = .ok b
  | [] => by simp [evaluateAll]
  | p :: ps => by
    obtain ⟨b, hb⟩ := evaluate_total h p
    obtain ⟨c, hc⟩ := evaluateAll_total h ps
    cases b
    · exact ⟨false, by simp [evaluateAll, hb, bind, Except.bind]; rfl⟩
    · exact ⟨c, by simp [evaluateAll, hb, hc, bind, Except.bind]⟩

theorem evaluateAny_total (h : env.HasTextArchitecture) :
    ∀ ps : List Predicate, ∃ b, evaluateAny env ps = .ok b
  | [] => by simp [evaluateAny]
  | p :: ps => by
    obtain ⟨b, hb⟩ := evaluate_total h p
    obtain ⟨c, hc⟩ := evaluateAny_total h ps
    cases b
    · exact ⟨c, by simp [evaluateAny, hb, hc, bind, Except.bind]⟩
    · exact ⟨true, by simp [evaluateAny, hb, bind, Except.bind]; rfl⟩

end

end Predicate

namespace Edge

/-- Whether the condition of an edge is met; a condition without an answer is not. -/
def holds (env : Environment) (e : Edge) : Bool :=
  match e.isActive env with
  | .ok b => b
  | .error _ => false

theorem isActive_total {env : Environment} (h : env.HasTextArchitecture) (e : Edge) :
    ∃ b, e.isActive env = .ok b := by
  unfold isActive
  cases e.condition with
  | none => exact ⟨true, rfl⟩
  | some p => exact Predicate.evaluate_total h p

theorem holds_of_isActive {env : Environment} {e : Edge} {b : Bool} (h : e.isActive env = .ok b) :
    e.holds env = b := by
  simp [holds, h]

theorem active_cons {env : Environment} {e : Edge} {b : Bool} (h : e.isActive env = .ok b)
    (es : List Edge) :
    active env (e :: es) = (active env es).map fun rest => if b then e :: rest else rest := by
  cases b <;> cases hs : active env es <;>
    simp [active, h, hs, bind, Except.bind, pure, Except.pure, Except.map]

theorem eq_filter_of_active {env : Environment} {es as : List Edge} (h : active env es = .ok as) :
    as = es.filter (holds env) := by
  induction es generalizing as with
  | nil => simpa [active] using h.symm
  | cons e es ih =>
    cases he : e.isActive env with
    | error fault => simp [active, he, bind, Except.bind] at h
    | ok b =>
      rw [active_cons he] at h
      cases hs : active env es with
      | error fault => simp [hs, Except.map] at h
      | ok rest =>
        rw [hs] at h
        have hrest := ih hs
        cases h
        rw [List.filter_cons, holds_of_isActive he, ← hrest]

theorem active_eq_filter {env : Environment} (h : env.HasTextArchitecture) (es : List Edge) :
    active env es = .ok (es.filter (holds env)) := by
  induction es with
  | nil => rfl
  | cons e es ih =>
    obtain ⟨b, hb⟩ := isActive_total h e
    rw [active_cons hb, ih, List.filter_cons, holds_of_isActive hb]
    rfl

end Edge

/-! ## The effective edges of a module -/

namespace Module

/-- The edges of a module whose condition is met, in the order of their declaration. -/
def effective (env : Environment) (m : Module) : List Edge := m.edges.filter (Edge.holds env)

theorem eq_effective_of_activeEdges {env : Environment} {m : Module} {es : List Edge}
    (h : m.activeEdges env = .ok es) : es = m.effective env :=
  Edge.eq_filter_of_active h

theorem activeEdges_eq_effective {env : Environment} (h : env.HasTextArchitecture) (m : Module) :
    m.activeEdges env = .ok (m.effective env) :=
  Edge.active_eq_filter h m.edges

end Module

end GatedModules
