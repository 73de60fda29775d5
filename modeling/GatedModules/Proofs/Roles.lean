import GatedModules.Command.Listings
import GatedModules.Proofs.PlanOutcome

/-!
# Linked and dynamic modules

A module comes into a plan as a root or by an edge, and what brings it there decides what part it
plays: a root or a link makes it linked, and only what is loaded in every case is dynamic.
-/

namespace GatedModules

namespace Registry

/-- An effective edge of a module that some roots reach. -/
def ReachedEdge (r : Registry) (env : Environment) (roots : List Text) (e : Edge) : Prop :=
  ∃ m ∈ r.modules, r.Reachable env roots m.name ∧ e ∈ m.effective env

variable {r : Registry} {env : Environment} {roots : List Text}

theorem Reachable.root_or_edge {a : Text} (h : r.Reachable env roots a) :
    a ∈ roots ∨ ∃ e, r.ReachedEdge env roots e ∧ e.name = a := by
  cases h with
  | root ha => exact .inl ha
  | lead hreach hleads =>
    obtain ⟨m, hm, rfl, e, he, rfl⟩ := hleads
    exact .inr ⟨e, ⟨m, hm, hreach, he⟩, rfl⟩

theorem ReachedEdge.reachable {e : Edge} (h : r.ReachedEdge env roots e) :
    r.Reachable env roots e.name := by
  obtain ⟨m, hm, hreach, he⟩ := h
  exact hreach.lead ((leads_iff hm).2 ⟨e, he, rfl⟩)

end Registry

theorem DependencyKind.isLinked_iff {k : DependencyKind} :
    k.isLinked = true ↔ k = .exported ∨ k = .internal := by
  cases k <;> simp [isLinked]

/-! ## What brings a module into a plan -/

theorem Collected.reachedEdge_iff {r : Registry} {env : Environment} {roots : List Text}
    {map : EdgeMap} (h : Collected r env roots map) {e : Edge} :
    r.ReachedEdge env roots e ↔ ∃ entry ∈ map, e ∈ entry.2 := by
  constructor
  · rintro ⟨m, hm, hreach, he⟩
    exact ⟨_, (lookup_eq_some_iff h.nodup).1 (h.lookup_eq_effective hm hreach), he⟩
  · rintro ⟨entry, hentry, he⟩
    obtain ⟨m, hm, hname, hedges⟩ := h.edges entry hentry
    refine ⟨m, hm, hname ▸ (h.mem_iff entry.1).1 (List.mem_map_of_mem hentry), hedges ▸ he⟩

namespace Resolver

variable {r : Resolver} {target : Target} {env : Environment} {roots : List Text} {map : EdgeMap}

theorem mem_linkedNames {a : Text} : a ∈ linkedNames roots map ↔
    a ∈ roots ∨ ∃ e, (∃ entry ∈ map, e ∈ entry.2) ∧ e.name = a ∧ e.kind.isLinked = true := by
  simp only [linkedNames, List.mem_append, List.mem_flatMap, List.mem_map, List.mem_filter]
  refine or_congr_right ⟨?_, ?_⟩
  · rintro ⟨entry, hentry, e, ⟨he, hlinked⟩, rfl⟩
    exact ⟨e, ⟨entry, hentry, he⟩, rfl, hlinked⟩
  · rintro ⟨e, ⟨entry, hentry, he⟩, rfl, hlinked⟩
    exact ⟨entry, hentry, e, ⟨he, hlinked⟩, rfl⟩

theorem mem_dynamicNames {a : Text} : a ∈ dynamicNames map ↔
    ∃ e, (∃ entry ∈ map, e ∈ entry.2) ∧ e.name = a ∧ e.kind.isLinked = false := by
  simp only [dynamicNames, List.mem_flatMap, List.mem_map, List.mem_filter, Bool.not_eq_true']
  constructor
  · rintro ⟨entry, hentry, e, ⟨he, hdynamic⟩, rfl⟩
    exact ⟨e, ⟨entry, hentry, he⟩, rfl, hdynamic⟩
  · rintro ⟨e, ⟨entry, hentry, he⟩, rfl, hdynamic⟩
    exact ⟨entry, hentry, e, ⟨he, hdynamic⟩, rfl⟩

/-! ## The parts of a plan -/

namespace Planned

variable {p : Plan}

theorem linked_eq (h : Planned r target env map p) :
    p.linked = p.ordered.filter (linkedNames target.roots map).contains :=
  (Prod.mk.inj h.roles).1

theorem dynamic_eq (h : Planned r target env map p) :
    p.dynamic = p.ordered.filter fun name =>
      (dynamicNames map).contains name && !(linkedNames target.roots map).contains name :=
  (Prod.mk.inj h.roles).2

theorem mem_linked_iff (hmap : Collected r.registry env target.roots map)
    (h : Planned r target env map p) {a : Text} :
    a ∈ p.linked ↔ a ∈ target.roots ∨
      ∃ e, r.registry.ReachedEdge env target.roots e ∧ e.name = a ∧
        (e.kind = .exported ∨ e.kind = .internal) := by
  have hnames : a ∈ linkedNames target.roots map ↔ a ∈ target.roots ∨
      ∃ e, r.registry.ReachedEdge env target.roots e ∧ e.name = a ∧
        (e.kind = .exported ∨ e.kind = .internal) := by
    simp only [mem_linkedNames, hmap.reachedEdge_iff, DependencyKind.isLinked_iff]
  rw [h.linked_eq, List.mem_filter, List.contains_iff_mem, hnames]
  -- Roots and the ends of reached edges are reached, so they stand in the order.
  refine and_iff_right_of_imp fun hlinked => (h.ordered.1.mem_iff a).2 ?_
  rcases hlinked with hroot | ⟨e, he, rfl, -⟩
  · exact .root hroot
  · exact he.reachable

theorem mem_dynamic_iff (hmap : Collected r.registry env target.roots map)
    (h : Planned r target env map p) {a : Text} :
    a ∈ p.dynamic ↔ a ∈ p.ordered ∧ a ∉ p.linked := by
  rw [h.dynamic_eq, h.linked_eq]
  simp only [List.mem_filter, List.contains_iff_mem, Bool.and_eq_true, Bool.not_eq_true',
    ← Bool.not_eq_true, not_and]
  refine and_congr_right fun ha => ?_
  constructor
  · exact fun hdynamic _ => hdynamic.2
  · -- What is not linked is there because of an edge, and only dynamic edges lead to it.
    intro hlinked
    have hnew := hlinked ha
    refine ⟨mem_dynamicNames.2 ?_, hnew⟩
    rcases ((h.ordered.1.mem_iff a).1 ha).root_or_edge with hroot | ⟨e, he, rfl⟩
    · exact absurd (mem_linkedNames.2 (.inl hroot)) hnew
    · refine ⟨e, hmap.reachedEdge_iff.1 he, rfl, Bool.eq_false_iff.2 fun hkind => hnew ?_⟩
      exact mem_linkedNames.2 (.inr ⟨e, hmap.reachedEdge_iff.1 he, rfl, hkind⟩)

theorem not_mem_linked_iff (hmap : Collected r.registry env target.roots map)
    (h : Planned r target env map p) {a : Text} :
    a ∉ p.linked ↔ a ∉ target.roots ∧
      ∀ e, r.registry.ReachedEdge env target.roots e → e.name = a → e.kind = .dynamic := by
  rw [h.mem_linked_iff hmap, not_or]
  refine and_congr_right fun _ => ?_
  constructor
  · intro hnone e he hname
    cases hkind : e.kind with
    | dynamic => rfl
    | exported => exact absurd ⟨e, he, hname, .inl hkind⟩ hnone
    | internal => exact absurd ⟨e, he, hname, .inr hkind⟩ hnone
  · rintro hall ⟨e, he, hname, hkind | hkind⟩ <;> simp [hall e he hname] at hkind

end Planned

end Resolver

/-! ## The rows of the listing -/

theorem Plan.rows_getElem? {p : Plan} {i : Nat} {row : List Text}
    (h : p.listing.rows[i]? = some row) :
    ∃ a, p.ordered[i]? = some a ∧ row = p.listingRow i a := by
  rw [listing, List.getElem?_mapIdx] at h
  obtain ⟨a, ha, hrow⟩ := Option.map_eq_some_iff.1 h
  exact ⟨a, ha, hrow.symm⟩

theorem Plan.role_eq (p : Plan) (a : Text) :
    p.role a = if a ∈ p.linked then "link" else "dynamic" := by
  simp [role, isLinked]

/-! ## An overlay

`Overlay` is loaded at run time, unless the flag `STATIC` is set: then `Game` links it as well. -/

namespace Overlay

def game : Module :=
  Module.ofEdges "Game" .none
    [⟨"Overlay", .dynamic, none⟩, ⟨"Render", .exported, none⟩,
      ⟨"Overlay", .internal, some (.featureEnabled "STATIC")⟩] (by decide)

def overlay : Module := Module.ofEdges "Overlay" .none [⟨"Render", .dynamic, none⟩] (by decide)

def render : Module := Module.ofEdges "Render" .none [] (by decide)

def resolver : Resolver := ⟨⟨[game, overlay, render], by decide⟩, .default⟩

def target : Target := ⟨"Game", .executable, .latest, ["Game"], by decide⟩

def plain : Environment := ⟨.linux, "Linux", .str "x64", .development, []⟩

def static : Environment := ⟨.linux, "Linux", .str "x64", .development, [("STATIC", .bool true)]⟩

end Overlay

namespace Resolver

/-- The linked and the dynamic modules share out the build order. A module is linked if it is a root
or an effective edge of a reached module links it, and dynamic if it is no root and all such edges
that lead to it are dynamic; the listing says so in every row. -/
theorem plan_roles_partition (r : Resolver) (target : Target) (env : Environment) (p : Plan)
    (h : r.resolve target env = .ok p) :
    (p.linked.Sublist p.ordered ∧ p.linked.Nodup) ∧
    (p.dynamic.Sublist p.ordered ∧ p.dynamic.Nodup) ∧
    (∀ a ∈ p.ordered, (a ∈ p.linked ∧ a ∉ p.dynamic) ∨ (a ∈ p.dynamic ∧ a ∉ p.linked)) ∧
    (∀ a, a ∈ p.linked ↔ a ∈ target.roots ∨
      ∃ e, r.registry.ReachedEdge env target.roots e ∧ e.name = a ∧
        (e.kind = .exported ∨ e.kind = .internal)) ∧
    (∀ a, a ∈ p.dynamic ↔ a ∈ p.ordered ∧ a ∉ target.roots ∧
      ∀ e, r.registry.ReachedEdge env target.roots e → e.name = a → e.kind = .dynamic) ∧
    p.listing.rows.length = p.ordered.length ∧
    ∀ (i : Nat) (row : List Text), p.listing.rows[i]? = some row →
      ∃ a, p.ordered[i]? = some a ∧ row[1]? = some a ∧
        ((row[2]? = some ("link" : Text) ∧ a ∈ p.linked ∧ a ∉ p.dynamic) ∨
          (row[2]? = some ("dynamic" : Text) ∧ a ∈ p.dynamic ∧ a ∉ p.linked)) := by
  obtain ⟨hmap, hplanned⟩ := planned_of_resolve h
  have hnodup := hplanned.ordered.1.nodup
  have hlinked : p.linked.Sublist p.ordered := by
    rw [hplanned.linked_eq]
    exact List.filter_sublist
  have hdynamic : p.dynamic.Sublist p.ordered := by
    rw [hplanned.dynamic_eq]
    exact List.filter_sublist
  have hrole : ∀ a ∈ p.ordered,
      (a ∈ p.linked ∧ a ∉ p.dynamic) ∨ (a ∈ p.dynamic ∧ a ∉ p.linked) := by
    intro a ha
    rw [hplanned.mem_dynamic_iff hmap]
    by_cases hin : a ∈ p.linked <;> simp [ha, hin]
  refine ⟨⟨hlinked, hnodup.sublist hlinked⟩, ⟨hdynamic, hnodup.sublist hdynamic⟩, hrole,
    fun _ => hplanned.mem_linked_iff hmap, fun a => ?_, by simp [Plan.listing],
    fun i row hrow => ?_⟩
  · rw [hplanned.mem_dynamic_iff hmap, hplanned.not_mem_linked_iff hmap]
  · obtain ⟨a, ha, rfl⟩ := Plan.rows_getElem? hrow
    refine ⟨a, ha, rfl, ?_⟩
    have hcell : (p.listingRow i a)[2]? = some (Text.ofString (p.role a)) := rfl
    rw [hcell, Plan.role_eq]
    rcases hrole a (List.mem_of_getElem? ha) with hin | hin
    · exact .inl ⟨by rw [if_pos hin.1], hin⟩
    · exact .inr ⟨by rw [if_neg hin.2], hin⟩

/-- Without the flag the overlay is only loaded; with it an edge links it, and that decides. -/
theorem overlay_plan_roles_partition :
    (∃ p, Overlay.resolver.resolve Overlay.target Overlay.plain = .ok p ∧
      p.ordered = [Overlay.render.name, Overlay.overlay.name, Overlay.game.name] ∧
      Overlay.overlay.name ∈ p.dynamic) ∧
    ∃ p, Overlay.resolver.resolve Overlay.target Overlay.static = .ok p ∧
      p.ordered = [Overlay.render.name, Overlay.overlay.name, Overlay.game.name] ∧
      Overlay.overlay.name ∈ p.linked := by
  have hplain : (Overlay.resolver.resolve Overlay.target Overlay.plain).toOption.map Plan.ordered =
      some [Overlay.render.name, Overlay.overlay.name, Overlay.game.name] := by decide +kernel
  have hstatic : (Overlay.resolver.resolve Overlay.target Overlay.static).toOption.map
      Plan.ordered = some [Overlay.render.name, Overlay.overlay.name, Overlay.game.name] := by
    decide +kernel
  obtain ⟨p, hp, hordered⟩ := exists_plan_of_map hplain
  obtain ⟨q, hq, hordered'⟩ := exists_plan_of_map hstatic
  obtain ⟨-, -, -, -, hdynamic, -⟩ := plan_roles_partition _ _ _ p hp
  obtain ⟨-, -, -, hlinked, -⟩ := plan_roles_partition _ _ _ q hq
  refine ⟨⟨p, hp, hordered, (hdynamic _).2 ⟨by simp [hordered], by decide, ?_⟩⟩,
    ⟨q, hq, hordered', (hlinked _).2 (.inr
      ⟨⟨"Overlay", .internal, some (.featureEnabled "STATIC")⟩,
        ⟨Overlay.game, by decide, .root (by decide), by decide⟩, rfl, .inr rfl⟩)⟩⟩
  rintro e ⟨m, hm, -, he⟩ hname
  have hall : ∀ m ∈ Overlay.resolver.registry.modules, ∀ e ∈ m.effective Overlay.plain,
      e.name = Overlay.overlay.name → e.kind = .dynamic := by decide
  exact hall m hm e he hname

end Resolver

end GatedModules
