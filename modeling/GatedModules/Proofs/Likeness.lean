import GatedModules.Proofs.Resolution
import GatedModules.Proofs.Roles

/-!
# Registries that look alike

Two registries may declare different modules and still look the same from the roots of a target: as
far as the roots reach, the same names are declared, with one precompiled header mode and with
effective edges of the same kinds to the same names. Plans from such registries have the same
modules in the same parts, and in the same order where the declarations are in the same order.
-/

namespace GatedModules

open Relation

namespace Module

/-- An effective edge of a kind leads from a module to a name. -/
def Links (env : Environment) (m : Module) (k : DependencyKind) (b : Text) : Prop :=
  ∃ e ∈ m.effective env, e.name = b ∧ e.kind = k

structure Alike (env : Environment) (m m' : Module) : Prop where
  pchMode : m.pchMode = m'.pchMode
  links : ∀ k b, m.Links env k b ↔ m'.Links env k b

theorem Alike.symm {env : Environment} {m m' : Module} (h : Alike env m m') : Alike env m' m :=
  ⟨h.pchMode.symm, fun k b => (h.links k b).symm⟩

end Module

namespace Registry

/-- The precompiled header mode of a module that ought to be declared. -/
def modeOf (r : Registry) (a : Text) : PchMode := ((r.find? a).map Module.pchMode).getD .none

/-- Under every name that the roots reach in the first registry, both registries have a module, and
the two are related, or neither has one. -/
def Corresponds (related : Module → Module → Prop) (env : Environment) (roots : List Text)
    (r r' : Registry) : Prop :=
  ∀ a, r.Reachable env roots a → Option.Rel related (r.find? a) (r'.find? a)

variable {r r' : Registry} {env : Environment} {roots roots' : List Text}

theorem corresponds_of_find? {related : Module → Module → Prop} {f : Module → Module}
    (hfind : ∀ a, r.Reachable env roots a → r'.find? a = (r.find? a).map f)
    (hrelated : ∀ m, related m (f m)) : Corresponds related env roots r r' := by
  intro a ha
  rw [hfind a ha]
  cases r.find? a with
  | none => exact .none
  | some m => exact .some (hrelated m)

theorem Corresponds.cases {related : Module → Module → Prop} {a : Text}
    (h : Corresponds related env roots r r') (ha : r.Reachable env roots a) :
    (r.find? a = none ∧ r'.find? a = none) ∨
      ∃ m m', r.find? a = some m ∧ r'.find? a = some m' ∧ related m m' := by
  have hrel := h a ha
  cases hm : r.find? a <;> cases hm' : r'.find? a <;> rw [hm, hm'] at hrel <;> cases hrel
  · exact .inl ⟨rfl, rfl⟩
  · exact .inr ⟨_, _, rfl, rfl, ‹_›⟩

theorem Corresponds.imp {related related' : Module → Module → Prop}
    (h : Corresponds related env roots r r') (himp : ∀ m m', related m m' → related' m m') :
    Corresponds related' env roots r r' := by
  intro a ha
  rcases h.cases ha with ⟨hm, hm'⟩ | ⟨m, m', hm, hm', hrel⟩
  · rw [hm, hm']
    exact .none
  · rw [hm, hm']
    exact .some (himp m m' hrel)

theorem Corresponds.declares_eq {related : Module → Module → Prop} {a : Text}
    (h : Corresponds related env roots r r') (ha : r.Reachable env roots a) :
    r.declares a = r'.declares a := by
  rw [Bool.eq_iff_iff, declares_iff_find?, declares_iff_find?]
  rcases h.cases ha with ⟨hm, hm'⟩ | ⟨m, m', hm, hm', -⟩ <;> simp [hm, hm']

theorem leads_iff_links {a b : Text} :
    r.Leads env a b ↔ ∃ m k, r.find? a = some m ∧ m.Links env k b := by
  constructor
  · rintro ⟨m, hm, hname, e, he, heb⟩
    exact ⟨m, e.kind, find?_eq_some_iff.2 ⟨hm, hname⟩, e, he, heb, rfl⟩
  · rintro ⟨m, k, hm, e, he, heb, -⟩
    obtain ⟨hmem, hname⟩ := find?_eq_some_iff.1 hm
    exact ⟨m, hmem, hname, e, he, heb⟩

theorem exists_reachedEdge_iff {k : DependencyKind} {b : Text} :
    (∃ e, r.ReachedEdge env roots e ∧ e.name = b ∧ e.kind = k) ↔
      ∃ a m, r.Reachable env roots a ∧ r.find? a = some m ∧ m.Links env k b := by
  constructor
  · rintro ⟨e, ⟨m, hm, hreach, he⟩, hname, hkind⟩
    exact ⟨m.name, m, hreach, find?_eq_some_iff.2 ⟨hm, rfl⟩, e, he, hname, hkind⟩
  · rintro ⟨a, m, hreach, hm, e, he, hname, hkind⟩
    obtain ⟨hmem, rfl⟩ := find?_eq_some_iff.1 hm
    exact ⟨e, ⟨m, hmem, hreach, he⟩, hname, hkind⟩

/-! ## What the roots reach -/

section

variable (h : Corresponds (Module.Alike env) env roots r r')
include h

theorem Corresponds.leads_iff {a b : Text} (ha : r.Reachable env roots a) :
    r.Leads env a b ↔ r'.Leads env a b := by
  rw [leads_iff_links, leads_iff_links]
  rcases h.cases ha with ⟨hm, hm'⟩ | ⟨m, m', hm, hm', halike⟩
  · simp [hm, hm']
  · simp [hm, hm', halike.links]

theorem Corresponds.modeOf_eq {a : Text} (ha : r.Reachable env roots a) :
    r.modeOf a = r'.modeOf a := by
  rcases h.cases ha with ⟨hm, hm'⟩ | ⟨m, m', hm, hm', halike⟩
  · rw [modeOf, modeOf, hm, hm']
  · simp [modeOf, hm, hm', halike.pchMode]

theorem Corresponds.onCycle_of {a : Text} (ha : r.Reachable env roots a)
    (hcycle : r.OnCycle env a) : r'.OnCycle env a := by
  have hreach : ∀ b, TransGen (r.Leads env) a b → r.Reachable env roots b :=
    fun b => of_transGen (fun _ _ => .lead) ha
  have hlift : ∀ b, TransGen (r.Leads env) a b → TransGen (r'.Leads env) a b := by
    intro b hab
    induction hab with
    | single l => exact .single ((h.leads_iff ha).1 l)
    | tail hab l ih => exact ih.tail ((h.leads_iff (hreach _ hab)).1 l)
  exact hlift a hcycle

variable (hroots : ∀ a, a ∈ roots ↔ a ∈ roots')
include hroots

theorem Corresponds.reachable_iff (a : Text) :
    r.Reachable env roots a ↔ r'.Reachable env roots' a := by
  constructor
  · -- Whatever is reached in the first registry is reached in both.
    intro ha
    refine (ha.of_closed (p := fun a => r.Reachable env roots a ∧ r'.Reachable env roots' a)
      (fun b hb => ⟨.root hb, .root ((hroots b).1 hb)⟩) ?_).2
    rintro b c ⟨hb, hb'⟩ hbc
    exact ⟨hb.lead hbc, hb'.lead ((h.leads_iff hb).1 hbc)⟩
  · intro ha
    refine ha.of_closed (fun b hb => .root ((hroots b).2 hb)) fun b c hb hbc => ?_
    exact hb.lead ((h.leads_iff hb).2 hbc)

theorem Corresponds.symm : Corresponds (Module.Alike env) env roots' r' r := by
  intro a ha
  rcases h.cases ((h.reachable_iff hroots a).2 ha) with ⟨hm, hm'⟩ | ⟨m, m', hm, hm', halike⟩
  · rw [hm, hm']
    exact .none
  · rw [hm, hm']
    exact .some halike.symm

theorem Corresponds.reachedEdge_of {k : DependencyKind} {b : Text}
    (hedge : ∃ e, r.ReachedEdge env roots e ∧ e.name = b ∧ e.kind = k) :
    ∃ e, r'.ReachedEdge env roots' e ∧ e.name = b ∧ e.kind = k := by
  rw [exists_reachedEdge_iff] at hedge ⊢
  obtain ⟨a, m, ha, hfind, hlinks⟩ := hedge
  rcases h.cases ha with ⟨hm, -⟩ | ⟨m₁, m', hm, hm', halike⟩
  · rw [hfind] at hm
    cases hm
  · rw [hfind] at hm
    cases hm
    exact ⟨a, m', (h.reachable_iff hroots a).1 ha, hm', (halike.links k b).1 hlinks⟩

theorem Corresponds.reachedEdge_iff (k : DependencyKind) (b : Text) :
    (∃ e, r.ReachedEdge env roots e ∧ e.name = b ∧ e.kind = k) ↔
      ∃ e, r'.ReachedEdge env roots' e ∧ e.name = b ∧ e.kind = k :=
  ⟨h.reachedEdge_of hroots, (h.symm hroots).reachedEdge_of fun a => (hroots a).symm⟩

end

end Registry

/-! ## The parts of two plans -/

theorem Plan.eq_of_parts {p p' : Plan} (htarget : p.target = p'.target)
    (hordered : p.ordered = p'.ordered) (hlinked : p.linked = p'.linked)
    (hdynamic : p.dynamic = p'.dynamic) (hmodes : p.pchModes = p'.pchModes)
    (hflags : p.flags = p'.flags) (hedges : p.edges = p'.edges) : p = p' := by
  cases p
  cases p'
  rw [Plan.mk.injEq]
  exact ⟨htarget, hordered, hlinked, hdynamic, hmodes, hflags, hedges⟩

namespace Resolver

theorem Planned.pchModes_eq {r : Resolver} {target : Target} {env : Environment} {map : EdgeMap}
    {p : Plan} (h : Planned r target env map p) :
    p.pchModes = p.ordered.map fun a => (a, r.registry.modeOf a) := by
  have hmode : ∀ entry ∈ p.pchModes, entry = (entry.1, r.registry.modeOf entry.1) := by
    rintro ⟨a, mode⟩ hentry
    obtain ⟨m, hm, rfl, rfl⟩ := h.modes _ hentry
    simp [Registry.modeOf, Registry.find?_eq_some_iff.2 ⟨hm, rfl⟩]
  calc p.pchModes = p.pchModes.map fun entry => (entry.1, r.registry.modeOf entry.1) := by
        rw [← List.map_congr_left hmode, List.map_id']
    _ = p.ordered.map fun a => (a, r.registry.modeOf a) := by
        rw [← h.modes_keys, List.map_map]
        rfl

theorem filter_mem_filter (f : Text → Bool) (as : List Text) :
    as.filter (· ∈ as.filter f) = as.filter f :=
  List.filter_congr fun a ha => by simp [ha]

theorem Planned.linked_eq_filter {r : Resolver} {target : Target} {env : Environment}
    {map : EdgeMap} {p : Plan} (h : Planned r target env map p) :
    p.linked = p.ordered.filter (· ∈ p.linked) := by
  rw [h.linked_eq, filter_mem_filter]

theorem Planned.dynamic_eq_filter {r : Resolver} {target : Target} {env : Environment}
    {map : EdgeMap} {p : Plan} (h : Planned r target env map p) :
    p.dynamic = p.ordered.filter (· ∈ p.dynamic) := by
  rw [h.dynamic_eq, filter_mem_filter]

section

variable {r r' : Resolver} {target target' : Target} {env : Environment} {p p' : Plan}
  (h : Registry.Corresponds (Module.Alike env) env target.roots r.registry r'.registry)
  (hp : r.resolve target env = .ok p) (hp' : r'.resolve target' env = .ok p')
include h hp hp'

theorem pchModes_eq_of_alike (hordered : p.ordered = p'.ordered) : p.pchModes = p'.pchModes := by
  obtain ⟨-, hplanned⟩ := planned_of_resolve hp
  obtain ⟨-, hplanned'⟩ := planned_of_resolve hp'
  rw [hplanned.pchModes_eq, hplanned'.pchModes_eq, ← hordered]
  refine List.map_congr_left fun a ha => ?_
  rw [h.modeOf_eq ((hplanned.ordered.1.mem_iff a).1 ha)]

variable (hroots : ∀ a, a ∈ target.roots ↔ a ∈ target'.roots)
include hroots

theorem mem_ordered_iff_of_alike (a : Text) : a ∈ p.ordered ↔ a ∈ p'.ordered := by
  obtain ⟨-, hplanned⟩ := planned_of_resolve hp
  obtain ⟨-, hplanned'⟩ := planned_of_resolve hp'
  rw [hplanned.ordered.1.mem_iff, hplanned'.ordered.1.mem_iff, h.reachable_iff hroots]

theorem mem_linked_iff_of_alike (a : Text) : a ∈ p.linked ↔ a ∈ p'.linked := by
  obtain ⟨hmap, hplanned⟩ := planned_of_resolve hp
  obtain ⟨hmap', hplanned'⟩ := planned_of_resolve hp'
  rw [hplanned.mem_linked_iff hmap, hplanned'.mem_linked_iff hmap', hroots]
  simp only [and_or_left, exists_or, h.reachedEdge_iff hroots]

theorem mem_dynamic_iff_of_alike (a : Text) : a ∈ p.dynamic ↔ a ∈ p'.dynamic := by
  obtain ⟨hmap, hplanned⟩ := planned_of_resolve hp
  obtain ⟨hmap', hplanned'⟩ := planned_of_resolve hp'
  rw [hplanned.mem_dynamic_iff hmap, hplanned'.mem_dynamic_iff hmap',
    mem_ordered_iff_of_alike h hp hp' hroots, mem_linked_iff_of_alike h hp hp' hroots]

theorem lookup_pchModes_eq_of_alike (a : Text) : p.pchModes.lookup a = p'.pchModes.lookup a := by
  obtain ⟨-, hplanned⟩ := planned_of_resolve hp
  obtain ⟨-, hplanned'⟩ := planned_of_resolve hp'
  rw [hplanned.pchModes_eq, hplanned'.pchModes_eq, lookup_map_pair, lookup_map_pair]
  by_cases ha : a ∈ p.ordered
  · rw [if_pos ha, if_pos ((mem_ordered_iff_of_alike h hp hp' hroots a).1 ha),
      h.modeOf_eq ((hplanned.ordered.1.mem_iff a).1 ha)]
  · rw [if_neg ha, if_neg fun ha' => ha ((mem_ordered_iff_of_alike h hp hp' hroots a).2 ha')]

/-- Where the modules are declared in one order in both registries, they are placed in one order. -/
theorem ordered_eq_of_alike
    (hposition : ∀ a b, a ∈ p.ordered → b ∈ p.ordered →
      (r.registry.position a ≤ r.registry.position b ↔
        r'.registry.position a ≤ r'.registry.position b)) :
    p.ordered = p'.ordered := by
  obtain ⟨-, hplanned⟩ := planned_of_resolve hp
  obtain ⟨hmap', hplanned'⟩ := planned_of_resolve hp'
  have hmem := hplanned.ordered.1.mem_iff
  have hleast := hplanned.ordered.congr (h.reachable_iff hroots) fun a b => h.leads_iff
  refine hplanned'.ordered.unique (hleast.congr_position (fun a b ha hab => ?_) ?_)
  · exact r'.registry.position_inj (hmap'.declared ha) hab
  · intro a b ha hb
    rw [← h.reachable_iff hroots, ← hmem] at ha hb
    exact hposition a b ha hb

theorem ordered_eq_of_names (hnames : r'.registry.names = r.registry.names) :
    p.ordered = p'.ordered := by
  refine ordered_eq_of_alike h hp hp' hroots fun a b _ _ => ?_
  rw [Registry.position, Registry.position, Registry.position, Registry.position, hnames]

theorem linked_eq_of_alike (hordered : p.ordered = p'.ordered) : p.linked = p'.linked := by
  obtain ⟨-, hplanned⟩ := planned_of_resolve hp
  obtain ⟨-, hplanned'⟩ := planned_of_resolve hp'
  rw [hplanned.linked_eq_filter, hplanned'.linked_eq_filter, hordered]
  simp only [mem_linked_iff_of_alike h hp hp' hroots]

theorem dynamic_eq_of_alike (hordered : p.ordered = p'.ordered) : p.dynamic = p'.dynamic := by
  obtain ⟨-, hplanned⟩ := planned_of_resolve hp
  obtain ⟨-, hplanned'⟩ := planned_of_resolve hp'
  rw [hplanned.dynamic_eq_filter, hplanned'.dynamic_eq_filter, hordered]
  simp only [mem_dynamic_iff_of_alike h hp hp' hroots]

/-- What holds of the effective edges of related modules holds of the entries of the two plans. -/
theorem lookup_edges_rel {related : Module → Module → Prop} {same : List Edge → List Edge → Prop}
    (hrelated : Registry.Corresponds related env target.roots r.registry r'.registry)
    (hsame : ∀ m m', related m m' → same (m.effective env) (m'.effective env)) (a : Text) :
    Option.Rel same (p.edges.lookup a) (p'.edges.lookup a) := by
  obtain ⟨hmap, -⟩ := planned_of_resolve hp
  obtain ⟨hmap', -⟩ := planned_of_resolve hp'
  by_cases ha : r.registry.Reachable env target.roots a
  · have ha' := (h.reachable_iff hroots a).1 ha
    rcases hrelated.cases ha with ⟨hm, -⟩ | ⟨m, m', hm, hm', hrel⟩
    · have hdeclared := hmap.declared ha
      rw [Registry.find?_eq_none_iff.1 hm] at hdeclared
      cases hdeclared
    · obtain ⟨hmem, rfl⟩ := Registry.find?_eq_some_iff.1 hm
      obtain ⟨hmem', hname⟩ := Registry.find?_eq_some_iff.1 hm'
      rw [hmap.lookup_eq_effective hmem ha, ← hname,
        hmap'.lookup_eq_effective hmem' (hname ▸ ha')]
      exact .some (hsame m m' hrel)
  · have hnone : p.edges.lookup a = none := by rwa [lookup_eq_none_iff_not_mem, hmap.mem_iff]
    have hnone' : p'.edges.lookup a = none := by
      rwa [lookup_eq_none_iff_not_mem, hmap'.mem_iff, ← h.reachable_iff hroots]
    rw [hnone, hnone']
    exact .none

/-- Plans from registries that look alike and place the modules in one order are the same but for
their edges. -/
theorem parts_eq_of_alike (hversion : target'.version = target.version)
    (hordered : p.ordered = p'.ordered) :
    p.linked = p'.linked ∧ p.dynamic = p'.dynamic ∧ p.pchModes = p'.pchModes ∧
      p.flags = p'.flags := by
  obtain ⟨-, hplanned⟩ := planned_of_resolve hp
  obtain ⟨-, hplanned'⟩ := planned_of_resolve hp'
  refine ⟨linked_eq_of_alike h hp hp' hroots hordered, dynamic_eq_of_alike h hp hp' hroots hordered,
    pchModes_eq_of_alike h hp hp' hordered, ?_⟩
  rw [hplanned.flags, hplanned'.flags, hversion]

theorem eq_of_alike (hname : target'.name = target.name)
    (hversion : target'.version = target.version) (hordered : p.ordered = p'.ordered)
    (hedges : p.edges = p'.edges) : p = p' := by
  obtain ⟨-, hplanned⟩ := planned_of_resolve hp
  obtain ⟨-, hplanned'⟩ := planned_of_resolve hp'
  have htarget : p.target = p'.target := by rw [hplanned.target_eq, hplanned'.target_eq, hname]
  obtain ⟨hlinked, hdynamic, hmodes, hflags⟩ :=
    parts_eq_of_alike h hp hp' hroots hversion hordered
  exact Plan.eq_of_parts htarget hordered hlinked hdynamic hmodes hflags hedges

end

end Resolver

/-! ## Which targets have a plan

Where the limit leaves room for all modules of the registry, it keeps no target from having one. -/

theorem Registry.ChainFrom.length_le_size {r : Registry} {env : Environment}
    {roots path : List Text} (h : r.ChainFrom env roots path)
    (hdeclared : ∀ a, r.Reachable env roots a → r.declares a = true)
    (hacyclic : ∀ a, r.Reachable env roots a → ¬ r.OnCycle env a) : path.length ≤ r.size := by
  have hsub : path ⊆ r.names := by
    intro a ha
    obtain ⟨m, hm, rfl⟩ := Registry.declares_iff.1 (hdeclared a (h.reachable a ha))
    exact List.mem_map_of_mem hm
  have hlength := ((h.nodup hacyclic).subperm hsub).length_le
  simpa [Registry.names, Registry.size] using hlength

namespace Resolver

variable {r r' : Resolver} {target target' : Target} {env : Environment}

theorem exists_plan_iff (henv : env.HasTextArchitecture)
    (hroom : r.registry.size ≤ r.limit.value) :
    (∃ p, r.resolve target env = .ok p) ↔
      (∀ a, r.registry.Reachable env target.roots a → r.registry.declares a = true) ∧
        ∀ a, r.registry.Reachable env target.roots a → ¬ r.registry.OnCycle env a := by
  constructor
  · rintro ⟨p, hp⟩
    obtain ⟨hcollected, -⟩ := planned_of_resolve hp
    exact ⟨fun _ => hcollected.declared, hcollected.acyclic⟩
  · rintro ⟨hdeclared, hacyclic⟩
    cases h : r.resolve target env with
    | ok p => exact ⟨p, rfl⟩
    | error f =>
      obtain ⟨e, -, hgenuine⟩ := genuine_of_resolve henv h
      refine absurd hgenuine (not_genuine hdeclared hacyclic fun path hpath => ?_)
      exact Nat.le_trans (hpath.length_le_size hdeclared hacyclic) hroom

theorem exists_plan_of_alike
    (h : Registry.Corresponds (Module.Alike env) env target.roots r.registry r'.registry)
    (hroots : ∀ a, a ∈ target.roots ↔ a ∈ target'.roots) (henv : env.HasTextArchitecture)
    (hroom : r'.registry.size ≤ r'.limit.value) (hp : ∃ p, r.resolve target env = .ok p) :
    ∃ p, r'.resolve target' env = .ok p := by
  obtain ⟨p, hp⟩ := hp
  obtain ⟨hcollected, -⟩ := planned_of_resolve hp
  refine (exists_plan_iff henv hroom).2 ⟨fun a ha => ?_, fun a ha hcycle => ?_⟩
  · rw [← h.reachable_iff hroots] at ha
    rw [← h.declares_eq ha]
    exact hcollected.declared ha
  · have hback := (h.symm hroots).onCycle_of ha hcycle
    exact hcollected.acyclic a ((h.reachable_iff hroots a).2 ha) hback

end Resolver

end GatedModules
