import GatedModules.Proofs.Resolution

/-!
# Depth

The limit bounds the path of the walk, and so it bounds one chain to every module: the one by which
the walk came to it first. A module that is come to again is not walked again, so another chain to
it may be longer than the limit, and which one the walk takes depends on the order of the roots and
of the edges.
-/

namespace GatedModules

namespace Registry

/-- A chain from a root that has no more modules than the limit leads to a name. -/
def Within (r : Registry) (env : Environment) (roots : List Text) (limit : Nat) (a : Text) : Prop :=
  ∃ path, r.ChainFrom env roots path ∧ path.getLast? = some a ∧ path.length ≤ limit

/-- No name is come to in two ways: by edges from two modules, or by an edge and as a root. -/
structure SingleEntry (r : Registry) (env : Environment) (roots : List Text) : Prop where
  root : ∀ a b, r.Reachable env roots a → r.Leads env a b → b ∉ roots
  edge : ∀ a a' b, r.Reachable env roots a → r.Reachable env roots a' → r.Leads env a b →
    r.Leads env a' b → a = a'

variable {r : Registry} {env : Environment} {roots : List Text}

theorem SingleEntry.singleton_eq (h : r.SingleEntry env roots) {path : List Text} {a : Text}
    (ha : r.ChainFrom env roots [a]) (hpath : r.ChainFrom env roots (path ++ [a])) : path = [] := by
  rcases List.eq_nil_or_concat path with rfl | ⟨path, b, rfl⟩
  · rfl
  · -- The root would be led to.
    rw [List.concat_eq_append] at hpath
    obtain ⟨hbefore, hleads⟩ := hpath.of_concat
    obtain ⟨root, hroot, hhead⟩ := ha.root
    obtain rfl := Option.some.inj hhead
    exact absurd hroot (h.root b a (hbefore.reachable b (by simp)) hleads)

theorem SingleEntry.chain_unique (h : r.SingleEntry env roots) {path path' : List Text} {a : Text}
    (hpath : r.ChainFrom env roots (path ++ [a])) (hpath' : r.ChainFrom env roots (path' ++ [a])) :
    path = path' := by
  induction path using List.reverseRecOn generalizing path' a with
  | nil => exact (h.singleton_eq hpath hpath').symm
  | append_singleton path b ih =>
    rcases List.eq_nil_or_concat path' with rfl | ⟨path', b', rfl⟩
    · exact h.singleton_eq hpath' hpath
    · rw [List.concat_eq_append] at hpath' ⊢
      obtain ⟨hbefore, hleads⟩ := hpath.of_concat
      obtain ⟨hbefore', hleads'⟩ := hpath'.of_concat
      obtain rfl := h.edge b b' a (hbefore.reachable b (by simp)) (hbefore'.reachable b' (by simp))
        hleads hleads'
      rw [ih hbefore hbefore']

theorem SingleEntry.length_le (h : r.SingleEntry env roots) {limit : Nat}
    (hwithin : ∀ a, r.Reachable env roots a → r.Within env roots limit a) {path : List Text}
    (hpath : r.ChainFrom env roots path) : path.length ≤ limit := by
  rcases List.eq_nil_or_concat path with rfl | ⟨path, a, rfl⟩
  · exact Nat.zero_le limit
  · rw [List.concat_eq_append] at hpath ⊢
    obtain ⟨short, hshort, hlast, hlength⟩ := hwithin a (hpath.reachable a (by simp))
    obtain ⟨before, rfl⟩ := List.getLast?_eq_some_iff.1 hlast
    rw [h.chain_unique hpath hshort]
    exact hlength

end Registry

/-! ## The walk stays within the limit -/

namespace Walk

variable {c : Course} {roots : List Text} {w w' : Walk}

/-- Every module that was entered is within the limit. -/
def Shallow (c : Course) (roots : List Text) (w : Walk) : Prop :=
  ∀ a ∈ w.entered.map (·.1), c.registry.Within c.env roots c.limit.value a

theorem shallow_of_enter {m : Module} (h : Shallow c roots w)
    (hm : c.registry.Within c.env roots c.limit.value m.name) (he : Walk.enter c m w = .ok w') :
    Shallow c roots w' := by
  obtain ⟨edges, -, rfl⟩ := enter_eq_ok he
  intro a ha
  rw [List.map_append, List.mem_append] at ha
  rcases ha with ha | ha
  · exact h a ha
  · have hname : a = m.name := by simpa using ha
    exact hname ▸ hm

theorem Invariant.shallow_of_step (h : Invariant c roots none w) (hw : Shallow c roots w)
    (hs : Walk.step c w = .ok w') : Shallow c roots w' := by
  rcases step_cases hs with ⟨-, rfl⟩ | ⟨name, rest, -, rfl⟩ |
    ⟨name, e, pending, rest, -, -, rfl⟩ |
    ⟨name, e, pending, rest, m, hf, -, -, hname, hroom, he⟩
  · exact hw
  · exact hw
  · exact hw
  · -- The path with the new module at its end is a chain, and there was room on it.
    have hlength : (w.path ++ [m.name]).length = w.frames.length + 1 := by simp [path]
    refine shallow_of_enter (w := { w with frames := ⟨name, pending⟩ :: rest }) hw
      ⟨w.path ++ [m.name], hname ▸ h.chainFrom_path hf, by simp, ?_⟩ he
    rw [hlength]
    exact Nat.succ_le_of_lt hroom

theorem shallow_of_whole (h : whole c roots = .ok w) : Shallow c roots w := by
  have hstart : Shallow c roots start := by simp [Shallow, start]
  refine (invariant_start c roots none).fromRoots_keeps rfl (fun _ => id)
    (fun _ _ hu hP hs => hu.shallow_of_step hP hs) (fun m u u' hroot hP he => ?_) hstart h
  exact shallow_of_enter hP ⟨[m.name], Registry.chainFrom_singleton hroot, rfl, c.limit.positive⟩ he

end Walk

namespace Resolver

variable {r : Resolver} {target : Target} {env : Environment} {p : Plan}

theorem shallow_of_walk {w : Walk} (h : r.walk target env = .ok w) :
    w.Shallow (r.course target env) target.roots := by
  rcases r.registry.declared_or_first_undeclared target.roots with
    hdeclared | ⟨before, root, after, hroots, hbefore, hroot⟩
  · rw [walk_of_declared_roots hdeclared] at h
    exact Walk.shallow_of_whole h
  · rw [walk_of_undeclared_root hroots hbefore hroot] at h
    cases h

theorem within_of_resolve (h : r.resolve target env = .ok p) {a : Text}
    (ha : r.registry.Reachable env target.roots a) :
    r.registry.Within env target.roots r.limit.value a := by
  obtain ⟨w, hw⟩ := walk_of_resolve h
  exact shallow_of_walk hw a (((collected_of_walk hw).mem_iff a).2 ha)

/-- Every module of a plan is within the limit of a root. All chains are within it where no module
is come to in two ways; elsewhere only the number of modules bounds them. -/
theorem plan_within_limit (r : Resolver) (target : Target) (env : Environment) (p : Plan)
    (h : r.resolve target env = .ok p) :
    (∀ a ∈ p.ordered, r.registry.Within env target.roots r.limit.value a) ∧
    (r.registry.SingleEntry env target.roots →
      ∀ path, r.registry.ChainFrom env target.roots path → path.length ≤ r.limit.value) ∧
    ∀ path, r.registry.ChainFrom env target.roots path → path.length ≤ p.ordered.length := by
  obtain ⟨hcollected, hplanned⟩ := planned_of_resolve h
  have hmem := hplanned.ordered.1.mem_iff
  refine ⟨fun a ha => within_of_resolve h ((hmem a).1 ha), fun hsingle path => ?_,
    fun path hpath => ?_⟩
  · exact hsingle.length_le fun a => within_of_resolve h
  · have hnodup := hpath.nodup hcollected.acyclic
    exact (hnodup.subperm fun a ha => (hmem a).2 (hpath.reachable a ha)).length_le

end Resolver

/-! ## Three modules in a line

The chain from `App` by `Net` to `Core` has three modules, and the limit is two. -/

namespace ThreeInLine

def app : Module :=
  Module.ofEdges "App" .none [⟨"Net", .exported, none⟩] FourModules.app.name_ne

def net : Module :=
  Module.ofEdges "Net" .none [⟨"Core", .exported, none⟩] FourModules.net.name_ne

def core : Module := FourModules.core

def env : Environment := FourModules.plain

def resolver : Resolver := ⟨⟨[core, net, app], by decide⟩, FourModules.shallow.limit⟩

def netFirst : Target := ⟨"Game", .executable, .latest, ["Net", "App"], by decide⟩

def appFirst : Target := ⟨"Game", .executable, .latest, ["App", "Net"], by decide⟩

theorem exists_plan :
    ∃ p, resolver.resolve netFirst env = .ok p ∧ p.ordered = [core.name, net.name, app.name] := by
  have hordered : (resolver.resolve netFirst env).toOption.map Plan.ordered =
      some [core.name, net.name, app.name] := by decide +kernel
  exact Resolver.exists_plan_of_map hordered

end ThreeInLine

namespace Resolver

/-- Where `Net` is walked first, `Core` is within the limit by `Net`, and there is a plan. -/
theorem threeInLine_plan_within_limit :
    ∃ p, ThreeInLine.resolver.resolve ThreeInLine.netFirst ThreeInLine.env = .ok p ∧
      p.ordered = [ThreeInLine.core.name, ThreeInLine.net.name, ThreeInLine.app.name] ∧
      ThreeInLine.resolver.registry.Within ThreeInLine.env ThreeInLine.netFirst.roots 2 "Core" ∧
      ∀ path,
        ThreeInLine.resolver.registry.ChainFrom ThreeInLine.env ThreeInLine.netFirst.roots path →
        path.length ≤ 3 := by
  obtain ⟨p, hp, hordered⟩ := ThreeInLine.exists_plan
  obtain ⟨hwithin, -, hlength⟩ := plan_within_limit _ _ _ p hp
  rw [hordered] at hwithin hlength
  exact ⟨p, hp, hordered, hwithin "Core" (by decide), hlength⟩

/-- The chain from `App` is longer than the limit of that plan. With the same roots the other way
round the walk takes that chain, and there is no plan. -/
theorem threeInLine_chain_beyond_limit :
    (∃ p, ThreeInLine.resolver.resolve ThreeInLine.netFirst ThreeInLine.env = .ok p ∧
      ∃ path,
        ThreeInLine.resolver.registry.ChainFrom ThreeInLine.env ThreeInLine.netFirst.roots path ∧
        ¬ path.length ≤ ThreeInLine.resolver.limit.value) ∧
    ThreeInLine.resolver.resolve ThreeInLine.appFirst ThreeInLine.env =
      .error (.rejected (.depthExceeded 2 ["App", "Net", "Core"])) := by
  obtain ⟨p, hp, -⟩ := ThreeInLine.exists_plan
  have happ : ThreeInLine.resolver.registry.Leads ThreeInLine.env "App" "Net" := by decide
  have hnet : ThreeInLine.resolver.registry.Leads ThreeInLine.env "Net" "Core" := by decide
  refine ⟨⟨p, hp, ["App", "Net", "Core"], ⟨⟨"App", by decide, rfl⟩, ?_⟩, by decide⟩,
    by decide +kernel⟩
  exact .cons_cons happ (.cons_cons hnet (.singleton _))

end Resolver

end GatedModules
