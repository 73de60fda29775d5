import GatedModules.Proofs.Likeness

/-!
# Roots and edges in another order

The walk follows the order of the roots and of the edges, and a plan shows nothing of it but the
order in which the edges are listed: the build order goes by the declaration of the modules.
-/

namespace GatedModules

/-- The same target with its roots in another order. -/
structure Target.Reordered (t t' : Target) : Prop where
  name : t'.name = t.name
  kind : t'.kind = t.kind
  version : t'.version = t.version
  roots : t.roots.Perm t'.roots

namespace Module

/-- The same module with its edges in another order. -/
structure Reordered (m m' : Module) : Prop where
  name : m'.name = m.name
  pchMode : m'.pchMode = m.pchMode
  edges : m.edges.Perm m'.edges

variable {m m' : Module}

theorem Reordered.effective (h : Reordered m m') (env : Environment) :
    (m.effective env).Perm (m'.effective env) :=
  h.edges.filter _

theorem Reordered.alike (h : Reordered m m') (env : Environment) : Alike env m m' := by
  refine ⟨h.pchMode.symm, fun k b => ?_⟩
  simp only [Links, (h.effective env).mem_iff]

end Module

namespace Registry

/-- The same modules, declared in the same order, with their edges in another order. -/
def Reordered (r r' : Registry) : Prop := List.Forall₂ Module.Reordered r.modules r'.modules

variable {r r' : Registry}

theorem names_of_forall₂ {ms ms' : List Module} (h : List.Forall₂ Module.Reordered ms ms') :
    ms'.map Module.name = ms.map Module.name := by
  induction h with
  | nil => rfl
  | cons hm _ ih => rw [List.map_cons, List.map_cons, hm.name, ih]

theorem find?_of_forall₂ {ms ms' : List Module} (h : List.Forall₂ Module.Reordered ms ms')
    (a : Text) :
    Option.Rel Module.Reordered (ms.find? fun m => m.name == a)
      (ms'.find? fun m => m.name == a) := by
  induction h with
  | nil => exact .none
  | @cons m m' _ _ hm _ ih =>
    rw [List.find?_cons, List.find?_cons, hm.name]
    cases m.name == a
    · exact ih
    · exact .some hm

theorem Reordered.names_eq (h : Reordered r r') : r'.names = r.names := names_of_forall₂ h

theorem Reordered.corresponds (h : Reordered r r') (env : Environment) (roots : List Text) :
    Corresponds Module.Reordered env roots r r' :=
  fun a _ => find?_of_forall₂ h a

end Registry

namespace Resolver

/-- The order of the roots and of the edges of each module does not change a plan, but for the order
of its edges; nor does it change whether there is a plan, where the limit leaves room for all
modules. -/
theorem plan_invariant_under_reordering (registry registry' : Registry) (limit limit' : DepthLimit)
    (target target' : Target) (env : Environment) (henv : env.HasTextArchitecture)
    (hmodules : registry.Reordered registry') (htarget : target.Reordered target') :
    (∀ p p', (Resolver.mk registry limit).resolve target env = .ok p →
      (Resolver.mk registry' limit').resolve target' env = .ok p' →
        p.ordered = p'.ordered ∧ p.linked = p'.linked ∧ p.dynamic = p'.dynamic ∧
        p.pchModes = p'.pchModes ∧ p.flags = p'.flags ∧
        ∀ a, Option.Rel List.Perm (p.edges.lookup a) (p'.edges.lookup a)) ∧
    (registry.size ≤ limit.value → registry.size ≤ limit'.value →
      ((∃ p, (Resolver.mk registry limit).resolve target env = .ok p) ↔
        ∃ p, (Resolver.mk registry' limit').resolve target' env = .ok p)) := by
  have hcorresponds := hmodules.corresponds env target.roots
  have halike := hcorresponds.imp fun m m' hm => hm.alike env
  have hroots : ∀ a, a ∈ target.roots ↔ a ∈ target'.roots := fun a => htarget.roots.mem_iff
  have hsize : registry'.size = registry.size := by
    simpa [Registry.names, Registry.size] using congrArg List.length hmodules.names_eq
  refine ⟨fun p p' hp hp' => ?_, fun hroom hroom' => ⟨fun h => ?_, fun h => ?_⟩⟩
  · have hordered := ordered_eq_of_names halike hp hp' hroots hmodules.names_eq
    obtain ⟨hlinked, hdynamic, hmodes, hflags⟩ :=
      parts_eq_of_alike halike hp hp' hroots htarget.version hordered
    refine ⟨hordered, hlinked, hdynamic, hmodes, hflags, ?_⟩
    exact lookup_edges_rel halike hp hp' hroots hcorresponds fun m m' hm => hm.effective env
  · exact exists_plan_of_alike halike hroots henv (hsize ▸ hroom') h
  · exact exists_plan_of_alike (halike.symm hroots) (fun a => (hroots a).symm) henv hroom h

end Resolver

/-! ## Four modules, reordered -/

namespace FourModules

def appTurned : Module :=
  Module.ofEdges "App" .useExplicit
    [⟨"Core", .dynamic, none⟩, ⟨"Net", .dynamic, none⟩, ⟨"Net", .exported, none⟩] app.name_ne

def netTurned : Module :=
  Module.ofEdges "Net" .none
    [⟨"Core", .internal, none⟩, ⟨"App", .exported, some (.featureEnabled "LOOP")⟩] net.name_ne

def turned : Registry := ⟨[appTurned, tool, netTurned, core], by decide⟩

def gameTurned : Target := ⟨"Game", .executable, .latest, ["Tool", "App"], by decide⟩

def roomy : DepthLimit := ⟨4, by decide⟩

theorem reordered_turned : registry.Reordered turned :=
  .cons ⟨rfl, rfl, by decide⟩ (.cons ⟨rfl, rfl, by decide⟩
    (.cons ⟨rfl, rfl, by decide⟩ (.cons ⟨rfl, rfl, by decide⟩ .nil)))

theorem reordered_gameTurned : game.Reordered gameTurned := ⟨rfl, rfl, rfl, by decide⟩

end FourModules

namespace Resolver

/-- The two walks come to the modules in different orders. -/
theorem fourModules_plan_invariant_under_reordering :
    ∃ p p', (Resolver.mk FourModules.registry FourModules.roomy).resolve FourModules.game
        FourModules.plain = .ok p ∧
      (Resolver.mk FourModules.turned FourModules.roomy).resolve FourModules.gameTurned
        FourModules.plain = .ok p' ∧
      p.edges.map (·.1) = FourModules.path ["App", "Net", "Core", "Tool"] ∧
      p'.edges.map (·.1) = FourModules.path ["Tool", "Core", "App", "Net"] ∧
      p.ordered = p'.ordered ∧ p.linked = p'.linked ∧ p.dynamic = p'.dynamic ∧
      p.pchModes = p'.pchModes ∧ p.flags = p'.flags := by
  obtain ⟨hagree, hiff⟩ := plan_invariant_under_reordering FourModules.registry FourModules.turned
    FourModules.roomy FourModules.roomy FourModules.game FourModules.gameTurned FourModules.plain
    FourModules.plain_hasTextArchitecture FourModules.reordered_turned
    FourModules.reordered_gameTurned
  have hnames : ((Resolver.mk FourModules.registry FourModules.roomy).resolve FourModules.game
      FourModules.plain).toOption.map (fun p => p.edges.map (·.1)) =
      some (FourModules.path ["App", "Net", "Core", "Tool"]) := by decide +kernel
  have hnames' : ((Resolver.mk FourModules.turned FourModules.roomy).resolve FourModules.gameTurned
      FourModules.plain).toOption.map (fun p => p.edges.map (·.1)) =
      some (FourModules.path ["Tool", "Core", "App", "Net"]) := by decide +kernel
  obtain ⟨p, hp, hentered⟩ := exists_plan_of_map hnames
  obtain ⟨p', hp'⟩ := (hiff (by decide) (by decide)).1 ⟨p, hp⟩
  rw [hp'] at hnames'
  obtain ⟨hordered, hlinked, hdynamic, hmodes, hflags, -⟩ := hagree p p' hp hp'
  exact ⟨p, p', hp, hp', hentered, Option.some.inj hnames', hordered, hlinked, hdynamic, hmodes,
    hflags⟩

end Resolver

end GatedModules
