import GatedModules.Proofs.Resolution

/-!
# The order of modules common to two plans

Whatever else two targets need, the modules that both of them need are built in the same order.
-/

namespace GatedModules

namespace Resolver

variable {r : Resolver} {target : Target} {env : Environment} {p : Plan}

theorem position_inj_of_resolve (h : r.resolve target env = .ok p) (a b : Text)
    (ha : r.registry.Reachable env target.roots a)
    (heq : r.registry.position a = r.registry.position b) : a = b := by
  obtain ⟨hcollected, -⟩ := planned_of_resolve h
  exact r.registry.position_inj (hcollected.declared ha) heq

/-- Two plans from one registry, whatever their targets and limits, have the modules that are common
to them in one order; a plan whose modules are all in another has its order from there. -/
theorem plan_orders_agree (registry : Registry) (limit limit' : DepthLimit)
    (target target' : Target) (env : Environment) (p p' : Plan)
    (h : (Resolver.mk registry limit).resolve target env = .ok p)
    (h' : (Resolver.mk registry limit').resolve target' env = .ok p') :
    p.ordered.filter (· ∈ p'.ordered) = p'.ordered.filter (· ∈ p.ordered) ∧
      ((∀ a ∈ p.ordered, a ∈ p'.ordered) → p.ordered.Sublist p'.ordered) := by
  obtain ⟨-, hplanned⟩ := planned_of_resolve h
  obtain ⟨-, hplanned'⟩ := planned_of_resolve h'
  have hcommon : p.ordered.filter (· ∈ p'.ordered) = p'.ordered.filter (· ∈ p.ordered) :=
    hplanned.ordered.filter_mem_comm hplanned'.ordered (position_inj_of_resolve h)
      (position_inj_of_resolve h')
  refine ⟨hcommon, fun hall => ?_⟩
  have hself : p.ordered.filter (· ∈ p'.ordered) = p.ordered :=
    List.filter_eq_self.2 fun a ha => by simpa using hall a ha
  rw [← hself, hcommon]
  exact List.filter_sublist

end Resolver

namespace FourModules

def client : Target := ⟨"Client", .executable, .latest, ["App", "Core"], by decide⟩

def server : Target := ⟨"Server", .executable, .latest, ["Net", "Tool"], by decide⟩

end FourModules

namespace Resolver

/-- `Tool` comes between the common modules in one plan, `App` after them in the other. -/
theorem fourModules_plan_orders_agree :
    ∃ p p', FourModules.fitting.resolve FourModules.client FourModules.plain = .ok p ∧
      FourModules.shallow.resolve FourModules.server FourModules.plain = .ok p' ∧
      p.ordered = FourModules.path ["Core", "Net", "App"] ∧
      p'.ordered = FourModules.path ["Core", "Tool", "Net"] ∧
      p.ordered.filter (· ∈ p'.ordered) = p'.ordered.filter (· ∈ p.ordered) := by
  have hclient : (FourModules.fitting.resolve FourModules.client
      FourModules.plain).toOption.map Plan.ordered =
      some (FourModules.path ["Core", "Net", "App"]) := by decide +kernel
  have hserver : (FourModules.shallow.resolve FourModules.server
      FourModules.plain).toOption.map Plan.ordered =
      some (FourModules.path ["Core", "Tool", "Net"]) := by decide +kernel
  obtain ⟨p, hp, hordered⟩ := exists_plan_of_map hclient
  obtain ⟨p', hp', hordered'⟩ := exists_plan_of_map hserver
  exact ⟨p, p', hp, hp', hordered, hordered', (plan_orders_agree FourModules.registry _ _
    FourModules.client FourModules.server FourModules.plain p p' hp hp').1⟩

end Resolver

end GatedModules
