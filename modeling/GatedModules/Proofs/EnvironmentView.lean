import GatedModules.Proofs.SortedNames
import GatedModules.Proofs.WalkSimulation

/-!
# What is seen of an environment

Conditions and build flags see four things of an environment: its platform, its architecture up to
letter case, its configuration and which flags are set. How the platform is spelled, what the flags
are set to and which of them are there without being set makes no difference.
-/

namespace GatedModules

namespace Environment

/-- No flag is there twice. -/
def FlagsDistinct (env : Environment) : Prop := (env.features.map (·.1)).Nodup

instance (env : Environment) : Decidable env.FlagsDistinct :=
  inferInstanceAs (Decidable (env.features.map (·.1)).Nodup)

structure SameView (a b : Environment) : Prop where
  platform : a.platform = b.platform
  architecture : ∃ s t, a.architecture = .str s ∧ b.architecture = .str t ∧
    Text.lower s = Text.lower t
  configuration : a.configuration = b.configuration
  enabled : ∀ feature, a.isEnabled feature = b.isEnabled feature

theorem mem_enabledFeatures {env : Environment} (h : env.FlagsDistinct) {feature : Text} :
    feature ∈ env.enabledFeatures ↔ env.isEnabled feature = true := by
  rw [enabledFeatures, (sortNames_perm _).mem_iff, isEnabled]
  constructor
  · intro hmem
    obtain ⟨⟨_, value⟩, hentry, rfl⟩ := List.mem_map.1 hmem
    obtain ⟨hentry, hset⟩ := List.mem_filter.1 hentry
    rw [(lookup_eq_some_iff h).2 hentry]
    exact hset
  · intro hset
    cases hvalue : env.features.lookup feature with
    | none =>
      rw [hvalue] at hset
      cases hset
    | some value =>
      rw [hvalue] at hset
      have hentry := (lookup_eq_some_iff h).1 hvalue
      exact List.mem_map.2 ⟨(feature, value), List.mem_filter.2 ⟨hentry, hset⟩, rfl⟩

variable {a b : Environment}

theorem SameView.hasTextArchitecture (h : SameView a b) : a.HasTextArchitecture := by
  obtain ⟨s, -, ha, -⟩ := h.architecture
  exact ⟨s, ha⟩

theorem SameView.hasTextArchitecture' (h : SameView a b) : b.HasTextArchitecture := by
  obtain ⟨-, t, -, hb, -⟩ := h.architecture
  exact ⟨t, hb⟩

theorem SameView.mem_enabledFeatures_iff (h : SameView a b) (ha : a.FlagsDistinct)
    (hb : b.FlagsDistinct) (feature : Text) :
    feature ∈ a.enabledFeatures ↔ feature ∈ b.enabledFeatures := by
  rw [mem_enabledFeatures ha, mem_enabledFeatures hb, h.enabled]

end Environment

/-! ## Conditions -/

namespace Predicate

variable {a b : Environment}

theorem matchesPlatform_congr (h : a.platform = b.platform) :
    matchesPlatform a = matchesPlatform b := by
  funext name
  rw [matchesPlatform, matchesPlatform, h]

theorem matchesConfiguration_congr (h : a.configuration = b.configuration) :
    matchesConfiguration a = matchesConfiguration b := by
  funext name
  rw [matchesConfiguration, matchesConfiguration, h]

mutual

theorem evaluate_eq_of_sameView (h : a.SameView b) : ∀ p, evaluate a p = evaluate b p
  | .always => rfl
  | .platformIn names => by
    rw [evaluate, evaluate, h.platform, matchesPlatform_congr h.platform]
  | .architectureIn names => by
    obtain ⟨s, t, ha, hb, hlower⟩ := h.architecture
    simp only [evaluate, ha, hb, Text.sameLower, hlower]
  | .configurationIn names => by
    rw [evaluate, evaluate, matchesConfiguration_congr h.configuration]
  | .featureEnabled name => by rw [evaluate, evaluate, h.enabled]
  | .allOf ps => by rw [evaluate, evaluate, evaluateAll_eq_of_sameView h ps]
  | .anyOf ps => by rw [evaluate, evaluate, evaluateAny_eq_of_sameView h ps]
  | .negation p => by rw [evaluate, evaluate, evaluate_eq_of_sameView h p]

theorem evaluateAll_eq_of_sameView (h : a.SameView b) :
    ∀ ps, evaluateAll a ps = evaluateAll b ps
  | [] => rfl
  | p :: ps => by
    rw [evaluateAll, evaluateAll, evaluate_eq_of_sameView h p, evaluateAll_eq_of_sameView h ps]

theorem evaluateAny_eq_of_sameView (h : a.SameView b) :
    ∀ ps, evaluateAny a ps = evaluateAny b ps
  | [] => rfl
  | p :: ps => by
    rw [evaluateAny, evaluateAny, evaluate_eq_of_sameView h p, evaluateAny_eq_of_sameView h ps]

end

end Predicate

theorem Edge.holds_eq_of_sameView {a b : Environment} (h : a.SameView b) (e : Edge) :
    e.holds a = e.holds b := by
  have hactive : e.isActive a = e.isActive b := by
    rw [isActive, isActive]
    cases e.condition with
    | none => rfl
    | some p => exact Predicate.evaluate_eq_of_sameView h p
  rw [holds, holds, hactive]

theorem Module.effective_eq_of_sameView {a b : Environment} (h : a.SameView b) (m : Module) :
    m.effective a = m.effective b :=
  List.filter_congr fun e _ => Edge.holds_eq_of_sameView h e

/-! ## Flags and plans -/

theorem BuildFlags.select_eq_of_mem_iff (version : SettingsVersion) (configuration : Configuration)
    {features features' : List Text} (h : ∀ f, f ∈ features ↔ f ∈ features') :
    select version configuration features = select version configuration features' := by
  simp only [select, definitionsFor, sortNames_distinct_eq h]

namespace Resolver

variable {a b : Environment}

theorem thins_of_sameView (h : a.SameView b) (r : Resolver) (target : Target) :
    Course.Thins id target.roots (r.course target a) (r.course target b) where
  limit := rfl
  target := rfl
  text := h.hasTextArchitecture
  text' := h.hasTextArchitecture'
  thinned := thinned_self _
  modules := by
    refine Registry.corresponds_of_find? (f := id) (fun name _ => ?_) fun m => ?_
    · exact Option.map_id_apply.symm
    · exact (m.effective_eq_of_sameView h).symm

theorem plan_eq_of_sameView (h : a.SameView b) (ha : a.FlagsDistinct) (hb : b.FlagsDistinct)
    (r : Resolver) (target : Target) (map : EdgeMap) :
    r.plan target a map = r.plan target b map := by
  have hflags := BuildFlags.select_eq_of_mem_iff target.version b.configuration
    (h.mem_enabledFeatures_iff ha hb)
  simp only [plan, h.configuration, hflags]

/-- In environments that look the same, a target has the same outcome. -/
theorem resolve_eq_of_sameView (r : Resolver) (target : Target) (a b : Environment)
    (ha : a.FlagsDistinct) (hb : b.FlagsDistinct) (h : a.SameView b) :
    r.resolve target a = r.resolve target b := by
  rcases resolve_endAlike (thins_of_sameView h r target) with
    ⟨e, he, he'⟩ | ⟨p, p', hp, hp', hedges⟩
  · rw [he, he']
  · have hedges' : p'.edges = p.edges := by simpa using hedges
    have hplan : r.plan target a p.edges = r.plan target b p'.edges := by
      rw [hedges', plan_eq_of_sameView h ha hb]
    rw [hp, hp', ← plan_of_resolve hp, hplan, plan_of_resolve hp']

end Resolver

/-! ## Two consoles -/

namespace Consoles

def renderer : Module :=
  Module.ofEdges "Renderer" .useExplicit
    [⟨"Shaders", .exported, some (.architectureIn ["ARM64"])⟩,
      ⟨"Touch", .dynamic, some (.negation (.platformIn ["Win64", "PS5"]))⟩,
      ⟨"Profiler", .internal, some (.featureEnabled "PROFILE")⟩,
      ⟨"Online", .internal,
        some (.allOf [.featureEnabled "ONLINE", .configurationIn ["shipping"]])⟩]
    (by decide)

def part (name : Text) (h : name ≠ "") : Module := Module.ofEdges name .none [] h

def resolver : Resolver :=
  ⟨⟨[renderer, part "Online" (by decide), part "Touch" (by decide), part "Shaders" (by decide)],
    by decide⟩, FourModules.shallow.limit⟩

def target : Target := ⟨"Viewer", .executable, .latest, ["Renderer"], by decide⟩

/-- The flag `PROFILE` is there without being set. -/
def first : Environment :=
  ⟨Platform.ofName "PS5", "PS5", .str "Arm64", .shipping,
    [("PROFILE", .bool false), ("ONLINE", .int 1), ("HDR", .bool true)]⟩

/-- The flag `PROFILE` is not there, and the others are given the other way round. -/
def second : Environment :=
  ⟨Platform.ofName "Switch", "Switch", .str "arm64", .shipping,
    [("HDR", .str "yes"), ("ONLINE", .bool true)]⟩

theorem first_flagsDistinct : first.FlagsDistinct := by decide

theorem second_flagsDistinct : second.FlagsDistinct := by decide

theorem sameView : first.SameView second where
  platform := by decide
  architecture := ⟨_, _, rfl, rfl, by decide⟩
  configuration := rfl
  enabled feature := by
    have henabled : first.enabledFeatures = second.enabledFeatures :=
      sortNames_eq_of_perm (by decide)
    rw [Bool.eq_iff_iff, ← Environment.mem_enabledFeatures first_flagsDistinct,
      ← Environment.mem_enabledFeatures second_flagsDistinct, henabled]

end Consoles

namespace Resolver

theorem consoles_resolve_eq_of_sameView :
    Consoles.first.platformName ≠ Consoles.second.platformName ∧
    Consoles.resolver.resolve Consoles.target Consoles.first =
      Consoles.resolver.resolve Consoles.target Consoles.second ∧
    ∃ p, Consoles.resolver.resolve Consoles.target Consoles.first = .ok p ∧
      p.ordered = FourModules.path ["Online", "Touch", "Shaders", "Renderer"] ∧
      p.flags.definitions = FourModules.path ["BUILD_SHIPPING=1", "HDR=1", "ONLINE=1"] := by
  have hordered : (Consoles.resolver.resolve Consoles.target Consoles.first).toOption.map
      Plan.ordered = some (FourModules.path ["Online", "Touch", "Shaders", "Renderer"]) := by
    decide +kernel
  obtain ⟨p, hp, hordered⟩ := exists_plan_of_map hordered
  have henabled : Consoles.first.enabledFeatures = FourModules.path ["HDR", "ONLINE"] :=
    sortNames_eq_of_sorted (by decide) (by decide)
  have hsorted : sortNames (distinct (FourModules.path ["HDR", "ONLINE"])) =
      FourModules.path ["HDR", "ONLINE"] :=
    sortNames_eq_of_sorted (by decide) (by decide)
  have hdefinitions : p.flags.definitions =
      FourModules.path ["BUILD_SHIPPING=1", "HDR=1", "ONLINE=1"] := by
    rw [(planned_of_resolve hp).2.flags, henabled, BuildFlags.select, BuildFlags.definitionsFor,
      hsorted]
    decide +kernel
  refine ⟨by decide, ?_, p, hp, hordered, hdefinitions⟩
  exact resolve_eq_of_sameView Consoles.resolver Consoles.target Consoles.first Consoles.second
    Consoles.first_flagsDistinct Consoles.second_flagsDistinct Consoles.sameView

end Resolver

end GatedModules
