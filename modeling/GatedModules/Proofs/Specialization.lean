import GatedModules.Proofs.WalkSimulation

/-!
# Registries for one environment

A registry can be made to fit an environment: the edges that are not there are left out, and those
that are lose their conditions. Edges that differed in their conditions alone are then one edge, so
that a module may come to have fewer edges than are there in the environment. What is left out leads
where an edge before it leads, and resolving against such a registry gives what it gave before.
-/

namespace GatedModules

namespace Edge

def unconditional (e : Edge) : Edge := { e with condition := none }

theorem holds_of_unconditional {env : Environment} {e : Edge} (h : e.condition = none) :
    e.holds env = true :=
  holds_of_isActive (by rw [isActive, h, Predicate.evaluate?])

/-- What some edges come to without their conditions, each once. -/
def merged (es : List Edge) : List Edge := distinct (es.map unconditional)

theorem mem_merged {e : Edge} {es : List Edge} :
    e ∈ merged es ↔ ∃ d ∈ es, d.unconditional = e := by
  rw [merged, mem_distinct, List.mem_map]

end Edge

/-- An edge that `keep` turns down has a name that is done with, so that it may be left out. -/
theorem thinned_filter_merged {done : Text → Prop} {keep : Edge → Bool} (es : List Edge)
    (h : ∀ e, keep e = false → done e.name) :
    Thinned done es ((Edge.merged es).filter keep) := by
  induction es generalizing done keep with
  | nil => exact .nil
  | cons e es ih =>
    -- Behind the first edge, its copies are turned down as well.
    have hrest : Edge.merged (e :: es) = e.unconditional ::
        (Edge.merged es).filter (fun d => decide (d ≠ e.unconditional)) := rfl
    rw [hrest, List.filter_cons, List.filter_filter]
    split
    · refine .keep rfl (ih fun d hd => ?_)
      rcases Bool.and_eq_false_iff.1 hd with hd | hd
      · exact .inl (h d hd)
      · have hde : d = e.unconditional := by simpa using hd
        exact .inr (hde ▸ rfl)
    · next hkeep =>
      have hdone : done e.name := h e.unconditional (by simpa using hkeep)
      refine .skip hdone (ih fun d hd => ?_)
      rcases Bool.and_eq_false_iff.1 hd with hd | hd
      · exact h d hd
      · have hde : d = e.unconditional := by simpa using hd
        exact hde ▸ hdone

theorem thinned_merged (done : Text → Prop) (es : List Edge) :
    Thinned done es (Edge.merged es) := by
  have hkept : (Edge.merged es).filter (fun _ => true) = Edge.merged es := List.filter_true _
  rw [← hkept]
  exact thinned_filter_merged es fun _ h => nomatch h

namespace Module

/-- The module with the edges that are there in an environment, without their conditions. -/
def specialized (env : Environment) (m : Module) : Module :=
  ofEdges m.name m.pchMode ((m.effective env).map Edge.unconditional) m.name_ne

theorem effective_specialized (env : Environment) (m : Module) :
    (m.specialized env).effective env = Edge.merged (m.effective env) := by
  refine List.filter_eq_self.2 fun e he => ?_
  obtain ⟨d, -, rfl⟩ := Edge.mem_merged.1 he
  exact Edge.holds_of_unconditional rfl

theorem alike_specialized (env : Environment) (m : Module) : Alike env m (m.specialized env) := by
  refine ⟨rfl, fun k b => ?_⟩
  rw [Links, Links, effective_specialized]
  constructor
  · rintro ⟨e, he, hname, hkind⟩
    exact ⟨e.unconditional, Edge.mem_merged.2 ⟨e, he, rfl⟩, hname, hkind⟩
  · rintro ⟨e, he, hname, hkind⟩
    obtain ⟨d, hd, rfl⟩ := Edge.mem_merged.1 he
    exact ⟨d, hd, hname, hkind⟩

end Module

namespace Registry

theorem map_specialized_name (env : Environment) (ms : List Module) :
    (ms.map (Module.specialized env)).map Module.name = ms.map Module.name := by
  rw [List.map_map]
  rfl

def specialized (env : Environment) (r : Registry) : Registry where
  modules := r.modules.map (Module.specialized env)
  nodup := map_specialized_name env r.modules ▸ r.nodup

theorem find?_specialized (env : Environment) (r : Registry) (a : Text) :
    (r.specialized env).find? a = (r.find? a).map (Module.specialized env) :=
  List.find?_map ..

theorem corresponds_specialized (env : Environment) (roots : List Text) (r : Registry)
    {related : Module → Module → Prop} (hrelated : ∀ m, related m (m.specialized env)) :
    Corresponds related env roots r (r.specialized env) :=
  corresponds_of_find? (fun a _ => find?_specialized env r a) hrelated

end Registry

namespace Resolver

def specialized (env : Environment) (r : Resolver) : Resolver :=
  { r with registry := r.registry.specialized env }

theorem thins_specialized {env : Environment} (henv : env.HasTextArchitecture) (r : Resolver)
    (target : Target) :
    Course.Thins Edge.merged target.roots (r.course target env)
      ((r.specialized env).course target env) where
  limit := rfl
  target := rfl
  text := henv
  text' := henv
  thinned := thinned_merged _
  modules := Registry.corresponds_specialized env target.roots r.registry
    fun m => m.effective_specialized env

/-- In the environment that a registry is made to fit, a target is rejected for the error that it is
rejected for without, or it has a plan that differs at most in its edges. -/
theorem resolve_specialized (r : Resolver) (target : Target) (env : Environment)
    (henv : env.HasTextArchitecture) :
    (∃ e, r.resolve target env = .error (.rejected e) ∧
      (r.specialized env).resolve target env = .error (.rejected e)) ∨
    ∃ p p', r.resolve target env = .ok p ∧ (r.specialized env).resolve target env = .ok p' ∧
      p.ordered = p'.ordered ∧ p.linked = p'.linked ∧ p.dynamic = p'.dynamic ∧
      p.pchModes = p'.pchModes ∧ p.flags = p'.flags := by
  have halike : Registry.Corresponds (Module.Alike env) env target.roots r.registry
      (r.specialized env).registry :=
    Registry.corresponds_specialized env target.roots r.registry fun m => m.alike_specialized env
  have hroots : ∀ a, a ∈ target.roots ↔ a ∈ target.roots := fun _ => Iff.rfl
  refine (resolve_endAlike (thins_specialized henv r target)).imp_right ?_
  rintro ⟨p, p', hp, hp', -⟩
  have hnames : (r.specialized env).registry.names = r.registry.names :=
    Registry.map_specialized_name env r.registry.modules
  have hordered := ordered_eq_of_names halike hp hp' hroots hnames
  exact ⟨p, p', hp, hp', hordered, parts_eq_of_alike halike hp hp' hroots rfl hordered⟩

end Resolver

/-! ## A server and its sessions -/

namespace Doubled

/-- On Linux with the flag, the two conditional edges to `Session` are there and become one. The
edge to `Ghost` is not there. -/
def server : Module :=
  Module.ofEdges "Server" .useExplicit
    [⟨"Session", .exported, some (.featureEnabled "ONLINE")⟩, ⟨"Core", .internal, none⟩,
      ⟨"Session", .exported, some (.platformIn ["Linux"])⟩,
      ⟨"Ghost", .dynamic, some (.platformIn ["Mac"])⟩] (by decide)

/-- The edge back to `Server` is there where the flag is not set. -/
def session : Module :=
  Module.ofEdges "Session" .none
    [⟨"Server", .internal, some (.negation (.featureEnabled "ONLINE"))⟩, ⟨"Core", .internal, none⟩]
    (by decide)

def resolver : Resolver :=
  ⟨⟨[session, server, FourModules.core], by decide⟩, FourModules.fitting.limit⟩

def target : Target := ⟨"Lobby", .executable, .latest, ["Server"], by decide⟩

def online : Environment := ⟨.linux, "Linux", .str "x64", .development, [("ONLINE", .bool true)]⟩

theorem online_hasTextArchitecture : online.HasTextArchitecture := ⟨_, rfl⟩

end Doubled

namespace Resolver

theorem doubled_resolve_specialized :
    (Doubled.server.effective Doubled.online).length = 3 ∧
    (Doubled.server.specialized Doubled.online).edges =
      [⟨"Session", .exported, none⟩, ⟨"Core", .internal, none⟩] ∧
    (∃ p p', Doubled.resolver.resolve Doubled.target Doubled.online = .ok p ∧
      (Doubled.resolver.specialized Doubled.online).resolve Doubled.target Doubled.online = .ok p' ∧
      p.ordered = FourModules.path ["Core", "Session", "Server"] ∧ p.ordered = p'.ordered ∧
      p.linked = p'.linked) ∧
    (Doubled.resolver.specialized FourModules.plain).resolve Doubled.target FourModules.plain =
      .error (.rejected (.cyclicDependency (FourModules.path ["Server", "Session", "Server"]))) :=
    by
  have hordered : (Doubled.resolver.resolve Doubled.target Doubled.online).toOption.map
      Plan.ordered = some (FourModules.path ["Core", "Session", "Server"]) := by decide +kernel
  have hcycle : Doubled.resolver.resolve Doubled.target FourModules.plain = .error (.rejected
      (.cyclicDependency (FourModules.path ["Server", "Session", "Server"]))) := by
    decide +kernel
  obtain ⟨p, hp, hordered⟩ := exists_plan_of_map hordered
  have honline := resolve_specialized Doubled.resolver Doubled.target Doubled.online
    Doubled.online_hasTextArchitecture
  have hoffline := resolve_specialized Doubled.resolver Doubled.target FourModules.plain
    FourModules.plain_hasTextArchitecture
  rw [hp] at honline
  rw [hcycle] at hoffline
  rcases honline with ⟨_, ⟨⟩, -⟩ | ⟨_, p', ⟨⟩, hp', heq, hlinked, -⟩
  rcases hoffline with ⟨_, ⟨⟩, hcycle'⟩ | ⟨_, _, ⟨⟩, -⟩
  exact ⟨by decide, by decide, ⟨p, p', hp, hp', hordered, heq, hlinked⟩, hcycle'⟩

end Resolver

end GatedModules
