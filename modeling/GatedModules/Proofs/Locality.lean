import GatedModules.Proofs.WalkSimulation

/-!
# Only what is reached counts

The walk, the order and the parts of a plan look at the modules that the roots reach and at no
other. Whatever else a registry declares, with cycles or with edges to nowhere, does not change the
outcome.
-/

namespace GatedModules

namespace Registry

/-- What one registry has under the names that the roots reach in it, the other has as well. -/
def AgreesOnReached (r r' : Registry) (env : Environment) (roots : List Text) : Prop :=
  ∀ a, r.Reachable env roots a → r.find? a = r'.find? a

variable {r r' : Registry} {env : Environment} {roots : List Text}

theorem AgreesOnReached.corresponds (h : AgreesOnReached r r' env roots)
    {related : Module → Module → Prop} (hrelated : ∀ m, related m m) :
    Corresponds related env roots r r' := by
  refine corresponds_of_find? (f := id) (fun a ha => ?_) hrelated
  rw [Option.map_id, id, h a ha]

theorem AgreesOnReached.alike (h : AgreesOnReached r r' env roots) :
    Corresponds (Module.Alike env) env roots r r' :=
  h.corresponds fun _ => ⟨rfl, fun _ _ => Iff.rfl⟩

end Registry

namespace Resolver

theorem thins_of_agreesOnReached {r r' : Resolver} {target : Target} {env : Environment}
    (hlimit : r'.limit = r.limit) (henv : env.HasTextArchitecture)
    (h : r.registry.AgreesOnReached r'.registry env target.roots) :
    Course.Thins id target.roots (r.course target env) (r'.course target env) where
  limit := hlimit
  target := rfl
  text := henv
  text' := henv
  thinned := thinned_self _
  modules := h.corresponds fun _ => rfl

/-- Registries that have the same modules under the names that the roots reach give the same error
or the same plan, but for the order of the modules, which is the same where these modules are
declared in the same order. -/
theorem plan_local_to_reachable (registry registry' : Registry) (limit : DepthLimit)
    (target : Target) (env : Environment) (henv : env.HasTextArchitecture)
    (hsame : registry.AgreesOnReached registry' env target.roots) :
    (∃ e, (Resolver.mk registry limit).resolve target env = .error (.rejected e) ∧
      (Resolver.mk registry' limit).resolve target env = .error (.rejected e)) ∨
    ∃ p p', (Resolver.mk registry limit).resolve target env = .ok p ∧
      (Resolver.mk registry' limit).resolve target env = .ok p' ∧
      p.edges = p'.edges ∧ (∀ a, a ∈ p.ordered ↔ a ∈ p'.ordered) ∧
      (∀ a, a ∈ p.linked ↔ a ∈ p'.linked) ∧ (∀ a, a ∈ p.dynamic ↔ a ∈ p'.dynamic) ∧
      (∀ a, p.pchModes.lookup a = p'.pchModes.lookup a) ∧ p.flags = p'.flags ∧
      ((∀ a b, registry.Reachable env target.roots a → registry.Reachable env target.roots b →
        registry.declares a = true → registry.declares b = true →
        (registry.position a < registry.position b ↔
          registry'.position a < registry'.position b)) → p = p') := by
  have halike := hsame.alike
  have hroots : ∀ a, a ∈ target.roots ↔ a ∈ target.roots := fun _ => Iff.rfl
  have hthins : Course.Thins id target.roots ((Resolver.mk registry limit).course target env)
      ((Resolver.mk registry' limit).course target env) :=
    thins_of_agreesOnReached rfl henv hsame
  refine (resolve_endAlike hthins).imp_right ?_
  rintro ⟨p, p', hp, hp', hedges⟩
  have hedges' : p.edges = p'.edges := by simpa using hedges.symm
  obtain ⟨hcollected, hplanned⟩ := planned_of_resolve hp
  obtain ⟨-, hplanned'⟩ := planned_of_resolve hp'
  have hflags : p.flags = p'.flags := by rw [hplanned.flags, hplanned'.flags]
  refine ⟨p, p', hp, hp', hedges', mem_ordered_iff_of_alike halike hp hp' hroots,
    mem_linked_iff_of_alike halike hp hp' hroots, mem_dynamic_iff_of_alike halike hp hp' hroots,
    lookup_pchModes_eq_of_alike halike hp hp' hroots, hflags, fun hposition => ?_⟩
  refine eq_of_alike halike hp hp' hroots rfl rfl ?_ hedges'
  refine ordered_eq_of_alike halike hp hp' hroots fun a b ha hb => ?_
  rw [hplanned.ordered.1.mem_iff] at ha hb
  have hba := hposition b a hb ha (hcollected.declared hb) (hcollected.declared ha)
  simpa using not_congr hba

end Resolver

/-! ## Four modules and four others -/

namespace FourModules

/-- It depends on itself. -/
def ring : Module := Module.ofEdges "Ring" .none [⟨"Ring", .internal, none⟩] (by decide)

def tail : Module :=
  Module.ofEdges "Tail" .useExplicit [⟨"Ring", .exported, none⟩, ⟨"Nowhere", .dynamic, none⟩]
    (by decide)

def cluttered : Registry := ⟨[ring, app, tool, tail, net, core], by decide⟩

def turnedRound : Registry := ⟨[core, net, tail, tool, app, ring], by decide⟩

theorem agreesOnReached {r : Registry}
    (h : ∀ m ∈ registry.modules, registry.find? m.name = r.find? m.name) :
    registry.AgreesOnReached r plain game.roots := by
  intro a ha
  obtain ⟨m, hm, rfl⟩ := Registry.declares_iff.1 (declared_of_reachable ha)
  exact h m hm

end FourModules

namespace Resolver

/-- The others do no harm, and only where the four are declared the other way round is another order
found. -/
theorem fourModules_plan_local_to_reachable :
    ∃ p p', FourModules.fitting.resolve FourModules.game FourModules.plain = .ok p ∧
      (Resolver.mk FourModules.cluttered FourModules.fitting.limit).resolve FourModules.game
        FourModules.plain = .ok p ∧
      (Resolver.mk FourModules.turnedRound FourModules.fitting.limit).resolve FourModules.game
        FourModules.plain = .ok p' ∧
      p.edges = p'.edges ∧ p.ordered = FourModules.path ["Core", "Tool", "Net", "App"] ∧
      p'.ordered = FourModules.path ["Core", "Net", "Tool", "App"] := by
  obtain ⟨p, hp, hordered⟩ := FourModules.exists_plan
  have hordered' : ((Resolver.mk FourModules.turnedRound FourModules.fitting.limit).resolve
      FourModules.game FourModules.plain).toOption.map Plan.ordered =
      some (FourModules.path ["Core", "Net", "Tool", "App"]) := by decide +kernel
  obtain ⟨p', hp', hordered'⟩ := exists_plan_of_map hordered'
  have hcluttered := plan_local_to_reachable FourModules.registry FourModules.cluttered
    FourModules.fitting.limit FourModules.game FourModules.plain
    FourModules.plain_hasTextArchitecture (FourModules.agreesOnReached (by decide))
  have hturned := plan_local_to_reachable FourModules.registry FourModules.turnedRound
    FourModules.fitting.limit FourModules.game FourModules.plain
    FourModules.plain_hasTextArchitecture (FourModules.agreesOnReached (by decide))
  have hresolver : FourModules.fitting =
      Resolver.mk FourModules.registry FourModules.fitting.limit := rfl
  rw [← hresolver, hp] at hcluttered hturned
  rcases hcluttered with ⟨_, ⟨⟩, -⟩ | ⟨_, p₁, ⟨⟩, hp₁, -, -, -, -, -, -, hsame⟩
  rcases hturned with ⟨_, ⟨⟩, -⟩ | ⟨_, p₂, ⟨⟩, hp₂, hedges, -⟩
  have hpositions : ∀ m ∈ FourModules.registry.modules, ∀ n ∈ FourModules.registry.modules,
      (FourModules.registry.position m.name < FourModules.registry.position n.name ↔
        FourModules.cluttered.position m.name < FourModules.cluttered.position n.name) := by decide
  have heq : p = p₁ := by
    refine hsame fun a b _ _ ha hb => ?_
    obtain ⟨m, hm, rfl⟩ := Registry.declares_iff.1 ha
    obtain ⟨n, hn, rfl⟩ := Registry.declares_iff.1 hb
    exact hpositions m hm n hn
  rw [hp'] at hp₂
  cases hp₂
  exact ⟨p, p', hp, heq ▸ hp₁, hp', hedges, hordered, hordered'⟩

end Resolver

end GatedModules
