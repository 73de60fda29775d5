import GatedModules.Proofs.WalkInvariant
import GatedModules.Resolution.Resolve
import Mathlib.Data.List.Chain

/-!
# The outcome of the walk

A walk that ends has the effective edges of exactly the modules that the roots reach, and no cycle
is among them. A walk that stops tells of a fault that is there in the graph.
-/

namespace GatedModules

/-! ## A walk that ends -/

/-- The entries are those of exactly the names that some roots reach, each once and with its
effective edges, and no cycle is reached. -/
structure Collected (r : Registry) (env : Environment) (roots : List Text)
    (map : List (Text × List Edge)) : Prop where
  nodup : (map.map (·.1)).Nodup
  mem_iff : ∀ a, a ∈ map.map (·.1) ↔ r.Reachable env roots a
  edges : ∀ entry ∈ map, ∃ m ∈ r.modules, m.name = entry.1 ∧ entry.2 = m.effective env
  acyclic : ∀ a, r.Reachable env roots a → ¬ r.OnCycle env a

namespace Walk

variable {c : Course} {roots : List Text} {w w' : Walk}

theorem Invariant.finished_iff_of_idle {above : Option Text} (h : Invariant c roots above w)
    (hidle : w.frames = []) (a : Text) : w.Finished a ↔ w.mark? a ≠ none := by
  have hopen := h.opened a
  rw [hidle] at hopen
  cases hmark : w.mark? a with
  | none => simp [Finished, hmark]
  | some k => cases k <;> simp_all [Finished]

theorem collected_of_whole (h : whole c roots = .ok w) :
    Collected c.registry c.env roots w.entered := by
  obtain ⟨hinv, hidle, -, hroots⟩ :=
    (invariant_start c roots none).fromRoots rfl (fun _ => id) h
  have hfinished := hinv.finished_iff_of_idle hidle
  have hall : ∀ a, c.registry.Reachable c.env roots a → w.Finished a := by
    intro a ha
    refine ha.of_closed (fun b hb => ?_) hinv.closed
    exact (hfinished b).2 (hroots b hb)
  refine ⟨hinv.entered_nodup, fun a => ⟨hinv.reached a, fun ha => ?_⟩, hinv.edges, fun a ha => ?_⟩
  · exact (hinv.entered_iff a).2 ((hfinished a).1 (hall a ha))
  · exact hinv.acyclic a (hall a ha)

end Walk

/-! ## A walk that stops -/

/-- What an error says is so: an undeclared name that a root, the first such, or a module that is
reached refers to; a cycle that is reached; or a chain from a root with one module too many. -/
def ResolutionError.Genuine (c : Course) (roots : List Text) : ResolutionError → Prop
  | .unknownModule name none target =>
    target = c.target ∧ c.registry.declares name = false ∧
      ∃ before after, roots = before ++ name :: after ∧ ∀ a ∈ before, c.registry.declares a = true
  | .unknownModule name (some parent) target =>
    target = c.target ∧ c.registry.declares name = false ∧ c.registry.declares parent = true ∧
      c.registry.Reachable c.env roots parent ∧ c.registry.Leads c.env parent name
  | .cyclicDependency path =>
    (∃ a rest, path = a :: (rest ++ [a]) ∧ (a :: rest).Nodup) ∧
      path.IsChain (c.registry.Leads c.env) ∧
      ∀ a ∈ path, c.registry.declares a = true ∧ c.registry.Reachable c.env roots a
  | .depthExceeded limit path =>
    limit = c.limit.value ∧ path.length = c.limit.value + 1 ∧ path.Nodup ∧
      (∀ a ∈ path, c.registry.declares a = true) ∧ c.registry.ChainFrom c.env roots path

namespace Walk

variable {c : Course} {roots : List Text} {w w' : Walk}

theorem mem_path {a : Text} : a ∈ w.path ↔ a ∈ w.frames.map Frame.name := by
  simp [path]

theorem pathFrom_of_mem {name : Text} {path : List Text} (h : name ∈ path) :
    ∃ before rest, path = before ++ name :: rest ∧ pathFrom name path = name :: rest := by
  induction path with
  | nil => cases h
  | cons a path ih =>
    by_cases ha : a = name
    · subst ha
      exact ⟨[], path, rfl, by simp [pathFrom]⟩
    · have hmem : name ∈ path := (List.mem_cons.1 h).resolve_left (Ne.symm ha)
      obtain ⟨before, rest, hpath, hfrom⟩ := ih hmem
      refine ⟨a :: before, rest, by rw [hpath]; rfl, ?_⟩
      rw [pathFrom, List.dropWhile_cons_of_pos (by simpa using ha)]
      exact hfrom

theorem Invariant.isChain_path {name : Text} {e : Edge} {pending : List Edge} {rest : List Frame}
    (h : Invariant c roots none w) (hf : w.frames = ⟨name, e :: pending⟩ :: rest) :
    (w.path ++ [e.name]).IsChain (c.registry.Leads c.env) := by
  have hchain := (h.take hf).stacked.isChain
  rw [← List.isChain_reverse] at hchain
  simpa [path, hf] using hchain

theorem Invariant.head_path {above : Option Text} (h : Invariant c roots above w)
    (hopen : w.frames ≠ []) : ∃ a ∈ roots, w.path.head? = some a := by
  have hne : w.frames.map Frame.name ≠ [] := by simpa using hopen
  refine ⟨(w.frames.map Frame.name).getLast hne, h.bottom _ (List.getLast?_eq_some_getLast hne), ?_⟩
  rw [path, List.head?_reverse, List.getLast?_eq_some_getLast hne]

/-- The edge that is taken next leads on from the path, which starts at a root. -/
theorem Invariant.chainFrom_path {name : Text} {e : Edge} {pending : List Edge} {rest : List Frame}
    (h : Invariant c roots none w) (hf : w.frames = ⟨name, e :: pending⟩ :: rest) :
    c.registry.ChainFrom c.env roots (w.path ++ [e.name]) := by
  obtain ⟨a, ha, hhead⟩ := h.head_path (by simp [hf])
  exact ⟨⟨a, ha, by rw [List.head?_append, hhead]; rfl⟩, h.isChain_path hf⟩

theorem Invariant.of_mem_path {above : Option Text} (h : Invariant c roots above w) {a : Text}
    (ha : a ∈ w.path) :
    c.registry.declares a = true ∧ c.registry.Reachable c.env roots a := by
  have hentered := h.mem_entered_of_open (mem_path.1 ha)
  exact ⟨h.declared hentered, h.reached a hentered⟩

theorem Invariant.genuine_cycle {name : Text} {e : Edge} {pending : List Edge} {rest : List Frame}
    (h : Invariant c roots none w) (hf : w.frames = ⟨name, e :: pending⟩ :: rest)
    (hmark : w.mark? e.name = some .opened) :
    (ResolutionError.cyclicDependency (pathFrom e.name w.path ++ [e.name])).Genuine c roots := by
  have hmem : e.name ∈ w.path := mem_path.2 ((h.opened e.name).1 hmark)
  obtain ⟨before, after, hpath, hfrom⟩ := pathFrom_of_mem hmem
  have hnodup : w.path.Nodup := List.nodup_reverse.2 h.nodup
  rw [hpath] at hnodup
  rw [hfrom]
  refine ⟨⟨e.name, after, rfl, hnodup.of_append_right⟩, ?_, ?_⟩
  · -- The cycle is the end of the path, closed by the edge.
    have hchain := h.isChain_path hf
    rw [hpath, List.append_assoc] at hchain
    exact hchain.right_of_append
  · intro a ha
    apply h.of_mem_path
    rcases List.mem_append.1 ha with ha | ha
    · exact hpath ▸ List.mem_append_right before ha
    · exact List.mem_singleton.1 ha ▸ hmem

theorem Invariant.genuine_unknown {name : Text} {e : Edge} {pending : List Edge}
    {rest : List Frame} (h : Invariant c roots none w)
    (hf : w.frames = ⟨name, e :: pending⟩ :: rest) (hname : c.registry.declares e.name = false) :
    (ResolutionError.unknownModule e.name (some name) c.target).Genuine c roots := by
  obtain ⟨hdeclared, hreach⟩ := h.of_mem_path (a := name) (mem_path.2 (by simp [hf]))
  exact ⟨rfl, hname, hdeclared, hreach, (h.take hf).stacked.2.1 e.name rfl⟩

theorem Invariant.genuine_depth {name : Text} {e : Edge} {pending : List Edge} {rest : List Frame}
    (h : Invariant c roots none w) (hf : w.frames = ⟨name, e :: pending⟩ :: rest)
    (hmark : w.mark? e.name = none) (hdeclared : c.registry.declares e.name = true)
    (hdeep : c.limit.value ≤ w.frames.length) :
    (ResolutionError.depthExceeded c.limit.value (w.path ++ [e.name])).Genuine c roots := by
  have hlength : w.path.length = c.limit.value := by
    rw [path, List.length_reverse, List.length_map]
    exact Nat.le_antisymm h.room hdeep
  have hnew : e.name ∉ w.path := by simp [mem_path, ← h.opened, hmark]
  refine ⟨rfl, by simp [hlength], ?_, ?_, h.chainFrom_path hf⟩
  · rw [← List.concat_eq_append]
    exact (List.nodup_reverse.2 h.nodup).concat hnew
  · intro a ha
    rcases List.mem_append.1 ha with ha | ha
    · exact (h.of_mem_path ha).1
    · exact List.mem_singleton.1 ha ▸ hdeclared

theorem enter_total (henv : c.env.HasTextArchitecture) (m : Module) (w : Walk) :
    ∃ w', enter c m w = .ok w' := by
  unfold enter
  rw [Module.activeEdges_eq_effective henv]
  exact ⟨_, rfl⟩

theorem Invariant.genuine_of_step {halt : Halt} (h : Invariant c roots none w)
    (henv : c.env.HasTextArchitecture) (hs : Walk.step c w = .error halt) :
    ∃ e, halt.error = .rejected e ∧ e.Genuine c roots := by
  obtain ⟨name, e, pending, rest, hf, hcases⟩ := step_error_cases hs
  rcases hcases with ⟨hmark, rfl⟩ | ⟨hname, rfl⟩ | ⟨hmark, hdeclared, hdeep, rfl⟩ | ⟨m, he⟩
  · exact ⟨_, rfl, h.genuine_cycle hf hmark⟩
  · exact ⟨_, rfl, h.genuine_unknown hf hname⟩
  · exact ⟨_, rfl, h.genuine_depth hf hmark hdeclared hdeep⟩
  · obtain ⟨w', hw'⟩ := enter_total henv m { w with frames := ⟨name, pending⟩ :: rest }
    rw [hw'] at he
    cases he

/-- From declared roots, a walk stops only at a step. -/
theorem Invariant.fromRoots_error {rest : List Text} {halt : Halt}
    (h : Invariant c roots none w) (henv : c.env.HasTextArchitecture) (hidle : w.frames = [])
    (hrest : ∀ a ∈ rest, a ∈ roots) (hdeclared : ∀ a ∈ rest, c.registry.declares a = true)
    (hr : Walk.fromRoots c w rest = .error halt) :
    ∃ u, Invariant c roots none u ∧ Walk.step c u = .error halt := by
  induction rest generalizing w with
  | nil => cases hr
  | cons root rest ih =>
    have hrest' := fun a ha => hrest a (List.mem_cons_of_mem root ha)
    have hdeclared' := fun a ha => hdeclared a (List.mem_cons_of_mem root ha)
    by_cases hmark : w.mark? root = none
    · obtain ⟨m, hm, rfl⟩ := Registry.declares_iff.1 (hdeclared root List.mem_cons_self)
      obtain ⟨opened, he⟩ := enter_total henv m w
      rw [fromRoots_of_new hm hmark, he] at hr
      have hopened := h.open_root hidle hm (hrest m.name List.mem_cons_self) hmark he
      cases hrun : Walk.run c opened with
      | error halt' =>
        simp only [hrun, Except.bind, Except.error.injEq] at hr
        exact hr ▸ hopened.run_error hrun
      | ok next =>
        simp only [hrun, Except.bind] at hr
        obtain ⟨hnext, hidle', -⟩ := hopened.run hrun
        exact ih hnext hidle' hrest' hdeclared' hr
    · rw [fromRoots_of_mark hmark] at hr
      exact ih h hidle hrest' hdeclared' hr

theorem genuine_of_whole {halt : Halt} (henv : c.env.HasTextArchitecture)
    (hdeclared : ∀ a ∈ roots, c.registry.declares a = true) (h : whole c roots = .error halt) :
    ∃ e, halt.error = .rejected e ∧ e.Genuine c roots := by
  obtain ⟨u, hinv, hs⟩ :=
    (invariant_start c roots none).fromRoots_error henv rfl (fun _ => id) hdeclared h
  exact hinv.genuine_of_step henv hs

end Walk

namespace Resolver

variable {r : Resolver} {target : Target} {env : Environment}

/-- An undeclared root is told of before any module is entered. -/
theorem walk_of_undeclared_root {before after : List Text} {root : Text}
    (hroots : target.roots = before ++ root :: after)
    (hbefore : ∀ a ∈ before, r.registry.declares a = true)
    (hroot : r.registry.declares root = false) :
    r.walk target env = .error ⟨.rejected (.unknownModule root none target.name), Walk.start⟩ := by
  have hfind : target.roots.find? (fun root => !r.registry.declares root) = some root := by
    rw [List.find?_eq_some_iff_append]
    exact ⟨by simp [hroot], before, after, hroots, fun a ha => by simp [hbefore a ha]⟩
  rw [walk, hfind]

theorem walk_of_declared_roots (h : ∀ a ∈ target.roots, r.registry.declares a = true) :
    r.walk target env = Walk.whole (r.course target env) target.roots := by
  have hfind : target.roots.find? (fun root => !r.registry.declares root) = none := by
    rw [List.find?_eq_none]
    exact fun a ha => by simp [h a ha]
  rw [walk, hfind]

theorem collected_of_walk {w : Walk} (h : r.walk target env = .ok w) :
    Collected r.registry env target.roots w.entered := by
  rcases r.registry.declared_or_first_undeclared target.roots with
    hdeclared | ⟨before, root, after, hroots, hbefore, hroot⟩
  · rw [walk_of_declared_roots hdeclared] at h
    exact Walk.collected_of_whole h
  · rw [walk_of_undeclared_root hroots hbefore hroot] at h
    cases h

theorem genuine_of_walk {halt : Halt} (henv : env.HasTextArchitecture)
    (h : r.walk target env = .error halt) :
    ∃ e, halt.error = .rejected e ∧ e.Genuine (r.course target env) target.roots := by
  rcases r.registry.declared_or_first_undeclared target.roots with
    hdeclared | ⟨before, root, after, hroots, hbefore, hroot⟩
  · rw [walk_of_declared_roots hdeclared] at h
    exact Walk.genuine_of_whole henv hdeclared h
  · rw [walk_of_undeclared_root hroots hbefore hroot] at h
    cases h
    exact ⟨_, rfl, rfl, hroot, before, after, hroots, hbefore⟩

end Resolver

end GatedModules
