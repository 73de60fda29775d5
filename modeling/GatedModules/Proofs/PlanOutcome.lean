import GatedModules.Proofs.PlacementOutcome
import GatedModules.Proofs.WalkOutcome

/-!
# The outcome of a resolution

Whatever a walk has collected can be put in order and makes a plan, so a target has a plan as soon
as its walk ends.
-/

namespace GatedModules

/-! ## What a walk has collected can be put in order -/

namespace Collected

variable {r : Registry} {env : Environment} {roots : List Text} {map : EdgeMap}

theorem has_iff (h : Collected r env roots map) (a : Text) :
    map.Has a ↔ r.Reachable env roots a := h.mem_iff a

theorem leads_of_leads (h : Collected r env roots map) {a b : Text} (hab : map.Leads a b) :
    r.Leads env a b := by
  obtain ⟨es, hmem, hb⟩ := hab
  obtain ⟨m, hm, rfl, rfl⟩ := h.edges _ hmem
  exact (Registry.leads_iff hm).2 (EdgeMap.mem_dependencies.1 hb)

theorem leads_iff (h : Collected r env roots map) {a b : Text} (ha : map.Has a) :
    map.Leads a b ↔ r.Leads env a b := by
  refine ⟨h.leads_of_leads, fun hab => ?_⟩
  obtain ⟨⟨_, es⟩, hmem, rfl⟩ := List.mem_map.1 ha
  obtain ⟨m, hm, rfl, rfl⟩ := h.edges _ hmem
  exact ⟨_, hmem, EdgeMap.mem_dependencies.2 ((Registry.leads_iff hm).1 hab)⟩

theorem declared (h : Collected r env roots map) {a : Text} (ha : r.Reachable env roots a) :
    r.declares a = true := by
  obtain ⟨entry, hmem, rfl⟩ := List.mem_map.1 ((h.mem_iff a).2 ha)
  obtain ⟨m, hm, hname, -⟩ := h.edges entry hmem
  exact Registry.declares_iff.2 ⟨m, hm, hname⟩

theorem placeable (h : Collected r env roots map) : EdgeMap.Placeable r map where
  nodup := h.nodup
  declared a ha := h.declared ((h.mem_iff a).1 ha)
  closed a b hab :=
    (h.mem_iff b).2 (((h.mem_iff a).1 hab.has).lead (h.leads_of_leads hab))

theorem acyclic_leads (h : Collected r env roots map) (a : Text) :
    ¬ Relation.TransGen map.Leads a a := by
  intro hcycle
  obtain ⟨b, hab, -⟩ := Relation.TransGen.head'_iff.1 hcycle
  exact h.acyclic a ((h.mem_iff a).1 hab.has) (hcycle.lift id fun _ _ => h.leads_of_leads)

theorem lookup_eq_effective (h : Collected r env roots map) {m : Module} (hm : m ∈ r.modules)
    (hreach : r.Reachable env roots m.name) : map.lookup m.name = some (m.effective env) := by
  obtain ⟨⟨_, es⟩, hmem, hname⟩ := List.mem_map.1 ((h.mem_iff m.name).2 hreach)
  obtain ⟨m', hm', hname', rfl⟩ := h.edges _ hmem
  obtain rfl := Registry.eq_of_name_eq hm' hm (hname'.trans hname)
  exact (lookup_eq_some_iff h.nodup).2 (hname ▸ hmem)

end Collected

/-! ## The plan -/

theorem pchModes_spec {r : Registry} {names : List Text}
    (h : ∀ a ∈ names, r.declares a = true) :
    ∃ modes, Resolver.pchModes r names = .ok modes ∧ modes.map (·.1) = names ∧
      ∀ entry ∈ modes, ∃ m ∈ r.modules, m.name = entry.1 ∧ entry.2 = m.pchMode := by
  induction names with
  | nil => exact ⟨[], rfl, rfl, by simp⟩
  | cons name names ih =>
    obtain ⟨m, hm, hname⟩ := Registry.declares_iff.1 (h name List.mem_cons_self)
    obtain ⟨modes, hmodes, hkeys, hall⟩ := ih fun a ha => h a (List.mem_cons_of_mem name ha)
    refine ⟨(name, m.pchMode) :: modes, ?_, by simp [hkeys], ?_⟩
    · simp [Resolver.pchModes, Registry.get_eq_ok_iff.2 ⟨hm, hname⟩, hmodes, bind, Except.bind,
        pure, Except.pure]
    · rintro entry hentry
      rcases List.mem_cons.1 hentry with rfl | hentry
      · exact ⟨m, hm, hname, rfl⟩
      · exact hall entry hentry

namespace Resolver

variable {r : Resolver} {target : Target} {env : Environment} {map : EdgeMap}

theorem classify_disjoint (roots ordered : List Text) (map : EdgeMap) :
    ∀ name ∈ (classify roots map ordered).1, name ∉ (classify roots map ordered).2 := by
  intro name hlinked hdynamic
  simp only [classify, List.mem_filter, Bool.and_eq_true, Bool.not_eq_true'] at hlinked hdynamic
  rw [hlinked.2] at hdynamic
  exact absurd hdynamic.2.2 (by simp)

/-- What the plan of a target says, given the entries that its walk has collected. -/
structure Planned (r : Resolver) (target : Target) (env : Environment) (map : EdgeMap)
    (p : Plan) : Prop where
  target_eq : p.target = target.name
  ordered : LeastOrder (r.registry.Leads env) (r.registry.Reachable env target.roots)
    r.registry.position p.ordered
  roles : (p.linked, p.dynamic) = classify target.roots map p.ordered
  modes_keys : p.pchModes.map (·.1) = p.ordered
  modes : ∀ entry ∈ p.pchModes,
    ∃ m ∈ r.registry.modules, m.name = entry.1 ∧ entry.2 = m.pchMode
  flags : p.flags = BuildFlags.select target.version env.configuration env.enabledFeatures
  edges : p.edges = map

theorem Planned.lookup_eq_pchMode {p : Plan} (h : Planned r target env map p) {m : Module}
    (hm : m ∈ r.registry.modules) (ha : m.name ∈ p.ordered) :
    p.pchModes.lookup m.name = some m.pchMode := by
  have hkeys := h.modes_keys
  obtain ⟨⟨_, mode⟩, hmem, hname⟩ := List.mem_map.1 (hkeys ▸ ha)
  obtain ⟨m', hm', hname', rfl⟩ := h.modes _ hmem
  obtain rfl := Registry.eq_of_name_eq hm' hm (hname'.trans hname)
  exact (lookup_eq_some_iff (hkeys ▸ h.ordered.1.nodup)).2 (hname ▸ hmem)

theorem plan_spec (h : Collected r.registry env target.roots map) :
    ∃ p, r.plan target env map = .ok p ∧ Planned r target env map p := by
  obtain ⟨order, horder, hleast⟩ := buildOrder_spec h.placeable h.acyclic_leads
  have hleast' := hleast.congr h.has_iff fun _ _ ha => h.leads_iff ha
  have hdeclared : ∀ a ∈ order, r.registry.declares a = true :=
    fun a ha => h.declared ((hleast'.1.mem_iff a).1 ha)
  obtain ⟨modes, hmodes, hkeys, hall⟩ := pchModes_spec hdeclared
  have hdisjoint := classify_disjoint target.roots order map
  refine ⟨⟨target.name, order, _, _, modes, _, map, hdisjoint⟩, ?_, rfl, hleast', rfl, hkeys, hall,
    rfl, rfl⟩
  simp only [plan, horder, hmodes, Except.mapError, bind, Except.bind]
  rw [Plan.make, dif_pos hdisjoint]
  rfl

/-! ## The inner checks -/

/-- What the stages after the walk look out for is not there: an edge that leads out of the entries,
a name that is not declared, a module that is not placed, and one both linked and dynamic. -/
structure InnerChecks (r : Resolver) (target : Target) (map : EdgeMap) : Prop where
  closed : map.missing? = none
  declared : ∀ a, map.Has a →
    ∃ m i, r.registry.get a = .ok m ∧ r.registry.indexOf a = .ok i
  placed : ∃ order, buildOrder r.registry map = .ok order ∧ order.Perm (map.map (·.1)) ∧
    ∃ modes, pchModes r.registry order = .ok modes
  disjoint : ∀ ordered, ∀ a ∈ (classify target.roots map ordered).1,
    a ∉ (classify target.roots map ordered).2

theorem innerChecks_of_collected (h : Collected r.registry env target.roots map) :
    InnerChecks r target map := by
  obtain ⟨order, horder, hleast, -⟩ := buildOrder_spec h.placeable h.acyclic_leads
  have hdeclared : ∀ a ∈ order, r.registry.declares a = true :=
    fun a ha => h.placeable.declared a ((hleast.mem_iff a).1 ha)
  obtain ⟨modes, hmodes, -⟩ := pchModes_spec hdeclared
  refine ⟨h.placeable.missing?_eq_none, fun a ha => ?_, ⟨order, horder, ?_, modes, hmodes⟩,
    fun ordered => classify_disjoint target.roots ordered map⟩
  · have hname := h.placeable.declared a ha
    obtain ⟨m, hm⟩ := Registry.declares_iff.1 hname
    exact ⟨m, _, Registry.get_eq_ok_iff.2 hm, Registry.indexOf_of_declares hname⟩
  · exact (List.perm_ext_iff_of_nodup hleast.nodup h.nodup).2 hleast.mem_iff

/-! ## Resolving -/

theorem resolve_of_walk {w : Walk} (h : r.walk target env = .ok w) :
    ∃ p, r.resolve target env = .ok p ∧ Planned r target env w.entered p := by
  rw [resolve, h]
  exact plan_spec (collected_of_walk h)

theorem walk_of_resolve {p : Plan} (h : r.resolve target env = .ok p) :
    ∃ w, r.walk target env = .ok w := by
  cases hw : r.walk target env with
  | ok w => exact ⟨w, rfl⟩
  | error halt =>
    rw [resolve, hw] at h
    cases h

/-- A plan comes from what a walk has collected. -/
theorem planned_walk_of_resolve {p : Plan} (h : r.resolve target env = .ok p) :
    ∃ w, r.walk target env = .ok w ∧ Planned r target env w.entered p := by
  obtain ⟨w, hw⟩ := walk_of_resolve h
  obtain ⟨p', hp', hplanned⟩ := resolve_of_walk hw
  rw [h] at hp'
  cases hp'
  exact ⟨w, hw, hplanned⟩

theorem planned_of_resolve {p : Plan} (h : r.resolve target env = .ok p) :
    Collected r.registry env target.roots p.edges ∧ Planned r target env p.edges p := by
  obtain ⟨w, hw, hplanned⟩ := planned_walk_of_resolve h
  rw [hplanned.edges]
  exact ⟨collected_of_walk hw, hplanned⟩

theorem plan_of_resolve {p : Plan} (h : r.resolve target env = .ok p) :
    r.plan target env p.edges = .ok p := by
  obtain ⟨w, hw, hplanned⟩ := planned_walk_of_resolve h
  rw [resolve, hw] at h
  rwa [hplanned.edges]

/-- Where a part of the plan is known, there is a plan. -/
theorem exists_plan_of_map {part : Plan → α} {a : α}
    (h : (r.resolve target env).toOption.map part = some a) :
    ∃ p, r.resolve target env = .ok p ∧ part p = a := by
  cases hp : r.resolve target env with
  | error f =>
    rw [hp] at h
    cases h
  | ok p =>
    rw [hp] at h
    exact ⟨p, rfl, Option.some.inj h⟩

/-- Where the architecture is a text, only a genuine fault keeps a target from having a plan. -/
theorem genuine_of_resolve {f : ResolveFailure} (henv : env.HasTextArchitecture)
    (h : r.resolve target env = .error f) :
    ∃ e, f = .rejected e ∧ e.Genuine (r.course target env) target.roots := by
  cases hw : r.walk target env with
  | error halt =>
    obtain ⟨e, he, hgenuine⟩ := genuine_of_walk henv hw
    rw [resolve, hw] at h
    simp only [he, WalkError.toFailure, Except.error.injEq] at h
    exact ⟨e, h.symm, hgenuine⟩
  | ok w =>
    obtain ⟨p, hp, -⟩ := resolve_of_walk hw
    rw [h] at hp
    cases hp

end Resolver

end GatedModules
