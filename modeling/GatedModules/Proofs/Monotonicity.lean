import GatedModules.Proofs.Likeness
import GatedModules.Proofs.Meaning

/-!
# More roots, more platforms, more flags

Where no condition is negated, an environment in which more is set keeps all edges that are there
in one with less, and an unknown platform has no edge that a known one would not have. So the graph
only grows, and a plan for the larger graph has room for one for the smaller.
-/

namespace GatedModules

/-! ## Conditions without negation -/

/-- The first environment sets no more than the second, and its platform is the same or unknown. -/
structure Environment.Below (a b : Environment) : Prop where
  platform : a.platform = b.platform ∨ a.platform = .other
  architecture : ∃ s, a.architecture = .str s ∧ b.architecture = .str s
  configuration : a.configuration = b.configuration
  enabled : ∀ feature, a.isEnabled feature = true → b.isEnabled feature = true

namespace Predicate

def NegationFree : Predicate → Prop
  | .allOf ps | .anyOf ps => ∀ p, p ∈ ps → p.NegationFree
  | .negation _ => False
  | _ => True

theorem evaluate_mono {a b : Environment} (h : a.Below b) {p : Predicate} (hp : p.NegationFree)
    (hpa : evaluate a p = .ok true) : evaluate b p = .ok true := by
  obtain ⟨s, ha, hb⟩ := h.architecture
  have henv : a.HasTextArchitecture := ⟨s, ha⟩
  have henv' : b.HasTextArchitecture := ⟨s, hb⟩
  induction p with
  | always => exact hpa
  | platformIn names =>
    -- On an unknown platform the test fails, so here the platforms are the same.
    have hknown : a.platform ≠ .other := by
      rw [evaluate, Except.ok.injEq, Bool.and_eq_true, bne_iff_ne] at hpa
      exact hpa.1
    have hplatform : a.platform = b.platform := h.platform.resolve_right hknown
    rwa [evaluate, ← hplatform, ← matchesPlatform_congr hplatform]
  | architectureIn names =>
    rw [evaluate, ha] at hpa
    rw [evaluate, hb]
    exact hpa
  | configurationIn names =>
    rwa [evaluate, ← matchesConfiguration_congr h.configuration]
  | featureEnabled name =>
    rw [evaluate, Except.ok.injEq] at hpa ⊢
    exact h.enabled name hpa
  | allOf ps ih =>
    rw [NegationFree] at hp
    rw [evaluate, evaluateAll_eq_true_iff] at hpa ⊢
    exact fun p hmem => ih p hmem (hp p hmem) (hpa p hmem)
  | anyOf ps ih =>
    rw [NegationFree] at hp
    rw [evaluate, evaluateAny_eq_true_iff henv] at hpa
    rw [evaluate, evaluateAny_eq_true_iff henv']
    obtain ⟨p, hmem, hpa⟩ := hpa
    exact ⟨p, hmem, ih p hmem (hp p hmem) hpa⟩
  | negation p _ => exact absurd hp (by simp [NegationFree])

end Predicate

theorem Edge.holds_eq_true_iff {env : Environment} {e : Edge} :
    e.holds env = true ↔ e.isActive env = .ok true := by
  rw [holds]
  cases e.isActive env <;> simp

/-! ## The graph grows -/

namespace Registry

def NegationFree (r : Registry) : Prop :=
  ∀ m ∈ r.modules, ∀ e ∈ m.edges, ∀ p, e.condition = some p → p.NegationFree

section

variable {r : Registry} (hr : r.NegationFree) {a b : Environment} (h : a.Below b)
include hr h

theorem mem_effective_mono {m : Module} (hm : m ∈ r.modules) {e : Edge}
    (he : e ∈ m.effective a) : e ∈ m.effective b := by
  obtain ⟨hmem, hholds⟩ := List.mem_filter.1 he
  refine List.mem_filter.2 ⟨hmem, ?_⟩
  rw [Edge.holds_eq_true_iff, Edge.isActive] at hholds ⊢
  cases hcondition : e.condition with
  | none => rfl
  | some p =>
    rw [hcondition] at hholds
    exact Predicate.evaluate_mono h (hr m hm e hmem p hcondition) hholds

theorem leads_mono {x y : Text} (hxy : r.Leads a x y) : r.Leads b x y := by
  obtain ⟨m, hm, hname, e, he, hey⟩ := hxy
  exact ⟨m, hm, hname, e, mem_effective_mono hr h hm he, hey⟩

theorem onCycle_mono {x : Text} (hx : r.OnCycle a x) : r.OnCycle b x :=
  Relation.TransGen.mono (fun _ _ => leads_mono hr h) x x hx

variable {roots roots' : List Text} (hroots : ∀ x ∈ roots, x ∈ roots')
include hroots

theorem reachable_mono {x : Text} (hx : r.Reachable a roots x) : r.Reachable b roots' x :=
  hx.of_closed (fun y hy => .root (hroots y hy)) fun _ _ hy hyz => hy.lead (leads_mono hr h hyz)

theorem reachedEdge_mono {e : Edge} (he : r.ReachedEdge a roots e) :
    r.ReachedEdge b roots' e := by
  obtain ⟨m, hm, hreach, he⟩ := he
  exact ⟨m, hm, reachable_mono hr h hroots hreach, mem_effective_mono hr h hm he⟩

end

end Registry

namespace Resolver

/-- Without negations, a target with fewer roots resolves in an environment with less in it, where
the limit leaves room for all modules. What is ordered or linked for it is so for the larger one as
well, and what is dynamic for the larger one is dynamic for it, if it is there at all. -/
theorem plan_monotone (registry : Registry) (limit limit' : DepthLimit) (target target' : Target)
    (env env' : Environment) (hregistry : registry.NegationFree)
    (hroots : ∀ a ∈ target.roots, a ∈ target'.roots) (henv : env.Below env')
    (hroom : registry.size ≤ limit.value) (p' : Plan)
    (hp' : (Resolver.mk registry limit').resolve target' env' = .ok p') :
    ∃ p, (Resolver.mk registry limit).resolve target env = .ok p ∧
      (∀ a ∈ p.ordered, a ∈ p'.ordered) ∧ (∀ a ∈ p.linked, a ∈ p'.linked) ∧
      ∀ a ∈ p.ordered, a ∈ p'.dynamic → a ∈ p.dynamic := by
  obtain ⟨s, hs, -⟩ := henv.architecture
  obtain ⟨hmap', hplanned'⟩ := planned_of_resolve hp'
  have hreach : ∀ a, registry.Reachable env target.roots a →
      registry.Reachable env' target'.roots a :=
    fun _ => Registry.reachable_mono hregistry henv hroots
  -- What is reached is declared and free of cycles, for it is so in the larger graph.
  have hplan : ∃ p, (Resolver.mk registry limit).resolve target env = .ok p := by
    refine (exists_plan_iff ⟨s, hs⟩ hroom).2 ⟨fun a ha => hmap'.declared (hreach a ha), ?_⟩
    intro a ha hcycle
    exact hmap'.acyclic a (hreach a ha) (Registry.onCycle_mono hregistry henv hcycle)
  obtain ⟨p, hp⟩ := hplan
  obtain ⟨hmap, hplanned⟩ := planned_of_resolve hp
  have hlinked : ∀ a ∈ p.linked, a ∈ p'.linked := by
    intro a ha
    rw [hplanned.mem_linked_iff hmap] at ha
    rw [hplanned'.mem_linked_iff hmap']
    rcases ha with hroot | ⟨e, he, hname, hkind⟩
    · exact .inl (hroots a hroot)
    · exact .inr ⟨e, Registry.reachedEdge_mono hregistry henv hroots he, hname, hkind⟩
  refine ⟨p, hp, fun a ha => ?_, hlinked, fun a ha hdynamic => ?_⟩
  · rw [hplanned.ordered.1.mem_iff] at ha
    rw [hplanned'.ordered.1.mem_iff]
    exact hreach a ha
  · rw [hplanned'.mem_dynamic_iff hmap'] at hdynamic
    rw [hplanned.mem_dynamic_iff hmap]
    exact ⟨ha, fun hin => hdynamic.2 (hlinked a hin)⟩

end Resolver

/-! ## A launcher and its widget -/

namespace Launcher

/-- The widget is loaded everywhere and linked on Linux only. -/
def launcher : Module :=
  Module.ofEdges "Launcher" .none
    [⟨"Plugin", .dynamic, none⟩, ⟨"Widget", .dynamic, none⟩,
      ⟨"Widget", .internal, some (.platformIn ["linux"])⟩,
      ⟨"Metrics", .exported, some (.anyOf [.allOf [.platformIn ["Mac"], .architectureIn ["x64"]],
        .featureEnabled "METRICS"])⟩] (by decide)

def registry : Registry :=
  ⟨[launcher, Consoles.part "Widget" (by decide), Consoles.part "Plugin" (by decide),
    Consoles.part "Metrics" (by decide), Consoles.part "Monitor" (by decide)], by decide⟩

def resolver : Resolver := ⟨registry, ⟨5, by decide⟩⟩

def small : Target := ⟨"Small", .executable, .latest, ["Launcher"], by decide⟩

def large : Target := ⟨"Large", .executable, .v2, ["Monitor", "Launcher"], by decide⟩

def unknown : Environment := ⟨.other, "Haiku", .str "x64", .test, [("METRICS", .bool false)]⟩

def linux : Environment := ⟨.linux, "Linux", .str "x64", .test, [("METRICS", .bool true)]⟩

theorem registry_negationFree : registry.NegationFree := by
  simp [Registry.NegationFree, registry, launcher, Consoles.part, Module.ofEdges, distinct,
    Predicate.NegationFree]

theorem unknown_below_linux : unknown.Below linux where
  platform := .inr rfl
  architecture := ⟨_, rfl, rfl⟩
  configuration := rfl
  enabled feature h := by
    have hnone : unknown.enabledFeatures = [] := by decide +kernel
    have hdistinct : unknown.FlagsDistinct := by decide
    have hmem := (Environment.mem_enabledFeatures hdistinct).2 h
    rw [hnone] at hmem
    cases hmem

end Launcher

namespace Resolver

/-- The plugin is dynamic in both plans; the widget is so in the smaller one and linked in the
larger one. -/
theorem launcher_plan_monotone :
    Launcher.registry.NegationFree ∧ Launcher.unknown.Below Launcher.linux ∧
    ∃ p p', Launcher.resolver.resolve Launcher.small Launcher.unknown = .ok p ∧
      Launcher.resolver.resolve Launcher.large Launcher.linux = .ok p' ∧
      p'.ordered = FourModules.path ["Widget", "Plugin", "Metrics", "Launcher", "Monitor"] ∧
      (∀ a ∈ p.ordered, a ∈ p'.ordered) ∧ (∀ a ∈ p.linked, a ∈ p'.linked) ∧
      p'.dynamic = [Text.ofString "Plugin"] ∧
      p.dynamic = FourModules.path ["Widget", "Plugin"] ∧
      ∀ a ∈ p.ordered, a ∈ p'.dynamic → a ∈ p.dynamic := by
  have hparts : (Launcher.resolver.resolve Launcher.large Launcher.linux).toOption.map
      (fun p => (p.ordered, p.dynamic)) =
      some (FourModules.path ["Widget", "Plugin", "Metrics", "Launcher", "Monitor"],
        [Text.ofString "Plugin"]) := by decide +kernel
  have hdynamic : (Launcher.resolver.resolve Launcher.small Launcher.unknown).toOption.map
      Plan.dynamic = some (FourModules.path ["Widget", "Plugin"]) := by decide +kernel
  obtain ⟨p', hp', hparts⟩ := exists_plan_of_map hparts
  obtain ⟨hordered', hdynamic'⟩ := Prod.mk.inj hparts
  obtain ⟨p, hp, hordered, hlinked, hback⟩ := plan_monotone Launcher.registry
    Launcher.resolver.limit Launcher.resolver.limit Launcher.small Launcher.large Launcher.unknown
    Launcher.linux Launcher.registry_negationFree (by decide) Launcher.unknown_below_linux
    (by decide) p' hp'
  have hresolver : Launcher.resolver = Resolver.mk Launcher.registry Launcher.resolver.limit := rfl
  rw [hresolver, hp] at hdynamic
  exact ⟨Launcher.registry_negationFree, Launcher.unknown_below_linux, p, p', hp, hp', hordered',
    hordered, hlinked, hdynamic', Option.some.inj hdynamic, hback⟩

end Resolver

end GatedModules
