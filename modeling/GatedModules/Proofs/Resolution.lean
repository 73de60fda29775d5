import GatedModules.Proofs.PlanOutcome

/-!
# Resolving and the module graph

What a plan, or the lack of one, says of the graph of the modules that the roots of a target reach.
-/

namespace GatedModules

/-! ## Four modules

Of these, `App` is declared first and comes last. It refers to `Net` twice and, where the flag
`LOOP` is set, `Net` refers back to it.
-/

namespace FourModules

def app : Module :=
  Module.ofEdges "App" .useExplicit
    [⟨"Net", .exported, none⟩, ⟨"Net", .dynamic, none⟩, ⟨"Core", .dynamic, none⟩] (by decide)

def tool : Module := Module.ofEdges "Tool" .none [⟨"Core", .internal, none⟩] (by decide)

def net : Module :=
  Module.ofEdges "Net" .none
    [⟨"App", .exported, some (.featureEnabled "LOOP")⟩, ⟨"Core", .internal, none⟩] (by decide)

def core : Module := Module.ofEdges "Core" .none [] (by decide)

def registry : Registry := ⟨[app, tool, net, core], by decide⟩

def game : Target := ⟨"Game", .executable, .latest, ["App", "Tool"], by decide⟩

def stray : Target := ⟨"Stray", .executable, .latest, ["App", "Ghost"], by decide⟩

/-- The limit is as long as the longest chain without the flag, from `App` by `Net` to `Core`. -/
def fitting : Resolver := ⟨registry, ⟨3, by decide⟩⟩

def shallow : Resolver := ⟨registry, ⟨2, by decide⟩⟩

def plain : Environment := ⟨.linux, "Linux", .str "x64", .development, []⟩

def looped : Environment := ⟨.linux, "Linux", .str "x64", .development, [("LOOP", .bool true)]⟩

theorem plain_hasTextArchitecture : plain.HasTextArchitecture := ⟨_, rfl⟩

theorem looped_hasTextArchitecture : looped.HasTextArchitecture := ⟨_, rfl⟩

def path (names : List String) : List Text := names.map Text.ofString

theorem exists_plan :
    ∃ p, fitting.resolve game plain = .ok p ∧ p.ordered = path ["Core", "Tool", "Net", "App"] := by
  have hordered : (fitting.resolve game plain).toOption.map Plan.ordered =
      some (path ["Core", "Tool", "Net", "App"]) := by decide +kernel
  exact Resolver.exists_plan_of_map hordered

def rank (a : Text) : Nat := if a = "App" then 2 else if a = "Core" then 0 else 1

theorem rank_lt_of_leads {a b : Text} (h : registry.Leads plain a b) : rank b < rank a := by
  obtain ⟨m, hm, rfl, e, he, rfl⟩ := h
  have hall : ∀ m ∈ registry.modules, ∀ e ∈ m.effective plain, rank e.name < rank m.name := by
    decide
  exact hall m hm e he

theorem declared_of_reachable {a : Text} (h : registry.Reachable plain game.roots a) :
    registry.declares a = true := by
  have hroots : ∀ a ∈ game.roots, registry.declares a = true := by decide
  refine h.of_closed hroots ?_
  rintro - b - ⟨m, hm, -, e, he, rfl⟩
  have hall : ∀ m ∈ registry.modules, ∀ e ∈ m.effective plain, registry.declares e.name = true := by
    decide
  exact hall m hm e he

theorem app_onCycle : registry.OnCycle looped "App" := by
  have hnet : registry.Leads looped "App" "Net" := by decide
  have happ : registry.Leads looped "Net" "App" := by decide
  exact .head hnet (.single happ)

end FourModules

namespace Resolver

variable {r : Resolver} {target : Target} {env : Environment}

/-! ## Which targets have a plan -/

/-- Where all that is reached is declared and free of cycles and no chain from a root is longer than
the limit, no error would be genuine. -/
theorem not_genuine {e : ResolutionError}
    (hdeclared : ∀ a, r.registry.Reachable env target.roots a → r.registry.declares a = true)
    (hacyclic : ∀ a, r.registry.Reachable env target.roots a → ¬ r.registry.OnCycle env a)
    (hlimit : ∀ path, r.registry.ChainFrom env target.roots path → path.length ≤ r.limit.value) :
    ¬ e.Genuine (r.course target env) target.roots := by
  intro h
  match e, h with
  | .unknownModule name none _, ⟨_, hname, before, after, hroots, _⟩ =>
    have hreach : r.registry.Reachable env target.roots name := .root (by simp [hroots])
    simp [course, hdeclared name hreach] at hname
  | .unknownModule name (some parent) _, ⟨_, hname, _, hparent, hleads⟩ =>
    simp [course, hdeclared name (hparent.lead hleads)] at hname
  | .cyclicDependency path, ⟨⟨a, rest, hpath, _⟩, hchain, hmem⟩ =>
    subst hpath
    exact hacyclic a (hmem a List.mem_cons_self).2 (Registry.transGen_of_isChain hchain)
  | .depthExceeded limit path, ⟨_, hlength, _, _, hchain⟩ =>
    have hle : path.length ≤ r.limit.value := hlimit path hchain
    rw [hlength] at hle
    exact Nat.not_succ_le_self _ hle

/-- A target with a plan reaches declared modules and no cycle. A target that does so has a plan,
unless a chain from one of its roots is longer than the limit. -/
theorem plan_sound_and_complete (r : Resolver) (target : Target) (env : Environment)
    (henv : env.HasTextArchitecture) :
    ((∃ p, r.resolve target env = .ok p) →
      (∀ a, r.registry.Reachable env target.roots a → r.registry.declares a = true) ∧
        ∀ a, r.registry.Reachable env target.roots a → ¬ r.registry.OnCycle env a) ∧
    ((∀ a, r.registry.Reachable env target.roots a → r.registry.declares a = true) →
      (∀ a, r.registry.Reachable env target.roots a → ¬ r.registry.OnCycle env a) →
      (∀ path, r.registry.ChainFrom env target.roots path → path.length ≤ r.limit.value) →
      ∃ p, r.resolve target env = .ok p) := by
  constructor
  · rintro ⟨p, hp⟩
    obtain ⟨hcollected, -⟩ := planned_of_resolve hp
    exact ⟨fun _ => hcollected.declared, hcollected.acyclic⟩
  · intro hdeclared hacyclic hlimit
    cases h : r.resolve target env with
    | ok p => exact ⟨p, rfl⟩
    | error f =>
      obtain ⟨e, -, hgenuine⟩ := genuine_of_resolve henv h
      exact absurd hgenuine (not_genuine hdeclared hacyclic hlimit)

/-- Without the flag there is a plan, with it there is none. -/
theorem fourModules_plan_sound_and_complete :
    FourModules.plain.HasTextArchitecture ∧ FourModules.looped.HasTextArchitecture ∧
    (∃ p, FourModules.fitting.resolve FourModules.game FourModules.plain = .ok p) ∧
    ¬ ∃ p, FourModules.fitting.resolve FourModules.game FourModules.looped = .ok p := by
  refine ⟨FourModules.plain_hasTextArchitecture, FourModules.looped_hasTextArchitecture, ?_, ?_⟩
  · refine (plan_sound_and_complete FourModules.fitting FourModules.game FourModules.plain
      FourModules.plain_hasTextArchitecture).2 ?_ ?_ ?_
    · exact fun _ => FourModules.declared_of_reachable
    · exact fun a _ => Registry.not_onCycle_of_rank (fun _ _ => FourModules.rank_lt_of_leads) a
    · rintro path ⟨⟨a, ha, hhead⟩, hlinked⟩
      obtain ⟨rest, rfl⟩ := List.head?_eq_some_iff.1 hhead
      have hroots : ∀ a ∈ FourModules.game.roots, FourModules.rank a + 1 ≤ 3 := by decide
      have hlength := Registry.length_le_of_rank (fun _ _ => FourModules.rank_lt_of_leads) hlinked
      exact Nat.le_trans hlength (hroots a ha)
  · intro h
    have hacyclic :=
      ((plan_sound_and_complete _ _ _ FourModules.looped_hasTextArchitecture).1 h).2
    exact hacyclic "App" (.root (by decide)) FourModules.app_onCycle

/-! ## The order of a plan -/

/-- The order of a plan is the one dependency order of the modules that are reached that stands
before all others when these are compared by the places of their declaration. -/
theorem plan_order_least (r : Resolver) (target : Target) (env : Environment) (p : Plan)
    (h : r.resolve target env = .ok p) :
    LeastOrder (r.registry.Leads env) (r.registry.Reachable env target.roots)
        r.registry.position p.ordered ∧
      ∀ order, LeastOrder (r.registry.Leads env) (r.registry.Reachable env target.roots)
        r.registry.position order → order = p.ordered := by
  obtain ⟨-, hplanned⟩ := planned_of_resolve h
  exact ⟨hplanned.ordered, fun order horder => hplanned.ordered.unique horder⟩

/-- `App` is declared first and is placed last; `Tool` is placed before `Net` since it is declared
before it. -/
theorem fourModules_plan_order_least :
    ∃ p, FourModules.fitting.resolve FourModules.game FourModules.plain = .ok p ∧
      p.ordered = FourModules.path ["Core", "Tool", "Net", "App"] ∧
      LeastOrder (FourModules.registry.Leads FourModules.plain)
        (FourModules.registry.Reachable FourModules.plain FourModules.game.roots)
        FourModules.registry.position p.ordered := by
  obtain ⟨p, hp, hordered⟩ := FourModules.exists_plan
  exact ⟨p, hp, hordered, (plan_order_least _ _ _ p hp).1⟩

/-! ## The modules of a plan -/

/-- The build order, the edges and the precompiled header modes of a plan are of exactly the modules
that are reached, each once, with its effective edges and its own mode. -/
theorem plan_covers_reachable (r : Resolver) (target : Target) (env : Environment) (p : Plan)
    (h : r.resolve target env = .ok p) :
    p.ordered.Nodup ∧ (p.edges.map (·.1)).Nodup ∧ (p.pchModes.map (·.1)).Nodup ∧
    (∀ a, a ∈ p.ordered ↔ r.registry.Reachable env target.roots a) ∧
    (∀ a, a ∈ p.edges.map (·.1) ↔ r.registry.Reachable env target.roots a) ∧
    (∀ a, a ∈ p.pchModes.map (·.1) ↔ r.registry.Reachable env target.roots a) ∧
    (∀ a ∈ p.ordered, ∃ m ∈ r.registry.modules, m.name = a ∧
      p.edges.lookup a = some (m.effective env) ∧ p.pchModes.lookup a = some m.pchMode) ∧
    ∀ entry ∈ p.edges, ∀ e ∈ entry.2, e.name ∈ p.edges.map (·.1) := by
  obtain ⟨hcollected, hplanned⟩ := planned_of_resolve h
  have hordered := hplanned.ordered.1
  have hkeys := hplanned.modes_keys
  have hmodes : (p.pchModes.map (·.1)).Nodup := hkeys ▸ hordered.nodup
  refine ⟨hordered.nodup, hcollected.nodup, hmodes, hordered.mem_iff, hcollected.mem_iff,
    hkeys ▸ hordered.mem_iff, fun a ha => ?_, fun entry hentry e he => ?_⟩
  · have hreach := (hordered.mem_iff a).1 ha
    obtain ⟨m, hm, rfl⟩ := Registry.declares_iff.1 (hcollected.declared hreach)
    exact ⟨m, hm, rfl, hcollected.lookup_eq_effective hm hreach, hplanned.lookup_eq_pchMode hm ha⟩
  · exact hcollected.placeable.closed entry.1 e.name
      ⟨entry.2, hentry, EdgeMap.mem_dependencies.2 ⟨e, he, rfl⟩⟩

/-- The edge of `Net` that the flag would set is left out. -/
theorem fourModules_plan_covers_reachable :
    ∃ p, FourModules.fitting.resolve FourModules.game FourModules.plain = .ok p ∧
      p.edges.lookup FourModules.app.name = some FourModules.app.edges ∧
      p.pchModes.lookup FourModules.app.name = some .useExplicit ∧
      p.edges.lookup FourModules.net.name = some [⟨"Core", .internal, none⟩] := by
  obtain ⟨p, hp, hordered⟩ := FourModules.exists_plan
  obtain ⟨-, -, -, -, -, -, hentries, -⟩ := plan_covers_reachable _ _ _ p hp
  obtain ⟨m, hm, hname, hedges, hmode⟩ := hentries FourModules.app.name (by rw [hordered]; decide)
  obtain ⟨m', hm', hname', hedges', -⟩ := hentries FourModules.net.name (by rw [hordered]; decide)
  have happ : FourModules.app ∈ FourModules.registry.modules := by decide
  have hnet : FourModules.net ∈ FourModules.registry.modules := by decide
  obtain rfl := Registry.eq_of_name_eq hm happ hname
  obtain rfl := Registry.eq_of_name_eq hm' hnet hname'
  exact ⟨p, hp, hedges, hmode, hedges'⟩

/-! ## Targets without a plan -/

/-- Where the architecture is a text, a target without a plan has a genuine fault. An undeclared
root is told of before any module is entered. -/
theorem resolve_error_genuine (r : Resolver) (target : Target) (env : Environment)
    (henv : env.HasTextArchitecture) :
    (∀ f, r.resolve target env = .error f →
      ∃ e, f = .rejected e ∧ e.Genuine (r.course target env) target.roots) ∧
    ((∃ a ∈ target.roots, r.registry.declares a = false) →
      ∃ name, r.resolve target env = .error (.rejected (.unknownModule name none target.name)) ∧
        r.entered target env = []) := by
  refine ⟨fun f => genuine_of_resolve henv, fun ⟨a, ha, hundeclared⟩ => ?_⟩
  rcases r.registry.declared_or_first_undeclared target.roots with
    hdeclared | ⟨before, name, after, hroots, hbefore, hname⟩
  · rw [hdeclared a ha] at hundeclared
    cases hundeclared
  · have hwalk : r.walk target env =
        .error ⟨.rejected (.unknownModule name none target.name), Walk.start⟩ :=
      walk_of_undeclared_root hroots hbefore hname
    exact ⟨name, by rw [resolve, hwalk]; rfl, by rw [entered, hwalk]; rfl⟩

/-- With the flag the walk closes a cycle; where two modules are the limit, a chain of three is too
long. -/
theorem fourModules_resolve_error_genuine :
    FourModules.fitting.resolve FourModules.game FourModules.looped =
      .error (.rejected (.cyclicDependency (FourModules.path ["App", "Net", "App"]))) ∧
    (ResolutionError.cyclicDependency (FourModules.path ["App", "Net", "App"])).Genuine
      (FourModules.fitting.course FourModules.game FourModules.looped) FourModules.game.roots ∧
    FourModules.shallow.resolve FourModules.game FourModules.plain =
      .error (.rejected (.depthExceeded 2 (FourModules.path ["App", "Net", "Core"]))) ∧
    (ResolutionError.depthExceeded 2 (FourModules.path ["App", "Net", "Core"])).Genuine
      (FourModules.shallow.course FourModules.game FourModules.plain) FourModules.game.roots ∧
    ∃ name, FourModules.fitting.resolve FourModules.stray FourModules.plain =
        .error (.rejected (.unknownModule name none FourModules.stray.name)) ∧
      FourModules.fitting.entered FourModules.stray FourModules.plain = [] := by
  have hcycle : FourModules.fitting.resolve FourModules.game FourModules.looped =
      .error (.rejected (.cyclicDependency (FourModules.path ["App", "Net", "App"]))) := by
    decide +kernel
  have hdeep : FourModules.shallow.resolve FourModules.game FourModules.plain =
      .error (.rejected (.depthExceeded 2 (FourModules.path ["App", "Net", "Core"]))) := by
    decide +kernel
  obtain ⟨e, he, hgenuine⟩ :=
    (resolve_error_genuine _ _ _ FourModules.looped_hasTextArchitecture).1 _ hcycle
  obtain ⟨e', he', hgenuine'⟩ :=
    (resolve_error_genuine _ _ _ FourModules.plain_hasTextArchitecture).1 _ hdeep
  cases he
  cases he'
  have hstray := (resolve_error_genuine FourModules.fitting FourModules.stray FourModules.plain
    FourModules.plain_hasTextArchitecture).2 ⟨"Ghost", by decide, by decide⟩
  exact ⟨hcycle, hgenuine, hdeep, hgenuine', hstray⟩

/-- Where the architecture is a text, a target has a plan, or it is rejected for an unknown module,
a cycle or a chain that is too long. Nothing else stops the walk, and once it has ended no inner
check fails. -/
theorem resolve_plan_or_rejected (r : Resolver) (target : Target) (env : Environment)
    (henv : env.HasTextArchitecture) :
    ((∃ p, r.resolve target env = .ok p) ∨
      (∃ name parent,
        r.resolve target env = .error (.rejected (.unknownModule name parent target.name))) ∨
      (∃ a rest,
        r.resolve target env = .error (.rejected (.cyclicDependency (a :: (rest ++ [a]))))) ∨
      ∃ path, r.resolve target env = .error (.rejected (.depthExceeded r.limit.value path))) ∧
    (∀ halt, r.walk target env = .error halt → ∃ e, halt.error = .rejected e) ∧
    ∀ w, r.walk target env = .ok w → InnerChecks r target w.entered := by
  refine ⟨?_, fun halt hw => ?_, fun w hw => innerChecks_of_collected (collected_of_walk hw)⟩
  · cases h : r.resolve target env with
    | ok p => exact .inl ⟨p, rfl⟩
    | error f =>
      obtain ⟨e, rfl, hgenuine⟩ := genuine_of_resolve henv h
      match e, hgenuine with
      | .unknownModule name none _, ⟨rfl, _⟩ => exact .inr (.inl ⟨name, none, rfl⟩)
      | .unknownModule name (some parent) _, ⟨rfl, _⟩ => exact .inr (.inl ⟨name, some parent, rfl⟩)
      | .cyclicDependency _, ⟨⟨a, rest, rfl, _⟩, _⟩ => exact .inr (.inr (.inl ⟨a, rest, rfl⟩))
      | .depthExceeded _ path, ⟨rfl, _⟩ => exact .inr (.inr (.inr ⟨path, rfl⟩))
  · obtain ⟨e, he, -⟩ := genuine_of_walk henv hw
    exact ⟨e, he⟩

/-- Without the flag the four modules pass the inner checks. -/
theorem fourModules_resolve_plan_or_rejected :
    FourModules.plain.HasTextArchitecture ∧
    ∃ w, FourModules.fitting.walk FourModules.game FourModules.plain = .ok w ∧
      w.entered.map (·.1) = FourModules.path ["App", "Net", "Core", "Tool"] ∧
      InnerChecks FourModules.fitting FourModules.game w.entered := by
  have hnames : (FourModules.fitting.walk FourModules.game FourModules.plain).toOption.map
      (fun w => w.entered.map (·.1)) = some (FourModules.path ["App", "Net", "Core", "Tool"]) := by
    decide +kernel
  obtain ⟨-, -, hchecks⟩ := resolve_plan_or_rejected FourModules.fitting FourModules.game
    FourModules.plain FourModules.plain_hasTextArchitecture
  cases hw : FourModules.fitting.walk FourModules.game FourModules.plain with
  | error halt =>
    rw [hw] at hnames
    cases hnames
  | ok w =>
    rw [hw] at hnames
    exact ⟨FourModules.plain_hasTextArchitecture, w, rfl, Option.some.inj hnames, hchecks w hw⟩

end Resolver

end GatedModules
