import GatedModules.Proofs.DependencyOrder
import GatedModules.Proofs.Lookup
import GatedModules.Resolution.Order
import Mathlib.Data.List.Nodup
import Mathlib.Logic.Relation

/-!
# The invariant of the placing

Every module waits for as many dependencies as are not placed yet, and the queue holds, by
declaration, the modules that may come next. What is placed was always the first of these. So it is
before any module is placed.
-/

namespace GatedModules

namespace EdgeMap

/-- An edge of an entry leads from the entry's name to another. -/
def Leads (map : EdgeMap) (a b : Text) : Prop := ∃ es, (a, es) ∈ map ∧ b ∈ dependencies es

def Has (map : EdgeMap) (a : Text) : Prop := a ∈ map.map (·.1)

/-- An edge map that can be put in order: its names are distinct and declared, and no edge leads out
of it. -/
structure Placeable (r : Registry) (map : EdgeMap) : Prop where
  nodup : (map.map (·.1)).Nodup
  declared : ∀ a, map.Has a → r.declares a = true
  closed : ∀ a b, map.Leads a b → map.Has b

variable {r : Registry} {map : EdgeMap}

theorem mem_dependencies {es : List Edge} {b : Text} :
    b ∈ dependencies es ↔ ∃ e ∈ es, e.name = b := by
  simp [dependencies]

theorem nodup_dependencies (es : List Edge) : (dependencies es).Nodup := nodup_distinct _

theorem mem_dependents {a b : Text} : a ∈ map.dependents b ↔ map.Leads a b := by
  simp [dependents, Leads]

theorem nodup_dependents (h : (map.map (·.1)).Nodup) (b : Text) : (map.dependents b).Nodup :=
  h.sublist (List.filter_sublist.map _)

theorem Leads.has {a b : Text} (h : map.Leads a b) : map.Has a := by
  obtain ⟨es, hmem, -⟩ := h
  exact List.mem_map.2 ⟨_, hmem, rfl⟩

/-- A module is on a cycle or depends on one that is. -/
def LeadsIntoCycle (map : EdgeMap) (a : Text) : Prop :=
  ∃ b, Relation.ReflTransGen map.Leads a b ∧ Relation.TransGen map.Leads b b

theorem LeadsIntoCycle.head {a b : Text} (h : map.LeadsIntoCycle b) (hab : map.Leads a b) :
    map.LeadsIntoCycle a := by
  obtain ⟨c, hbc, hc⟩ := h
  exact ⟨c, .head hab hbc, hc⟩

theorem Placeable.leads_iff (h : Placeable r map) {a b : Text} {es : List Edge}
    (hmem : (a, es) ∈ map) : map.Leads a b ↔ b ∈ dependencies es := by
  constructor
  · rintro ⟨es', hmem', hb⟩
    have heq := List.inj_on_of_nodup_map h.nodup hmem hmem' rfl
    rwa [(Prod.mk.inj heq).2]
  · exact fun hb => ⟨es, hmem, hb⟩

theorem Placeable.missing?_eq_none (h : Placeable r map) : map.missing? = none := by
  rw [missing?, List.find?_eq_none]
  intro b hb
  obtain ⟨⟨a, es⟩, hmem, hb⟩ := List.mem_flatMap.1 hb
  have hhas := h.closed a b ⟨es, hmem, hb⟩
  rw [Option.isNone_iff_eq_none, lookup_eq_none_iff_not_mem]
  exact not_not_intro hhas

end EdgeMap

namespace Placement

variable {r : Registry} {map : EdgeMap} {s t : Placement}

/-! ## The queue -/

/-- A queue that holds exactly the modules with a property, in the order of their declaration. -/
structure Queued (r : Registry) (p : Text → Prop) (q : List (Nat × Text)) : Prop where
  sorted : q.Pairwise fun e f => e.1 < f.1
  mem_iff : ∀ i a, (i, a) ∈ q ↔ p a ∧ i = r.position a

theorem Queued.congr {p p' : Text → Prop} {q : List (Nat × Text)} (h : Queued r p q)
    (hp : ∀ a, p a ↔ p' a) : Queued r p' q :=
  ⟨h.sorted, fun i a => by rw [h.mem_iff, hp]⟩

theorem mem_insertReady {i : Nat} {a : Text} {q : List (Nat × Text)} {e : Nat × Text} :
    e ∈ insertReady i a q ↔ e = (i, a) ∨ e ∈ q := by
  induction q with
  | nil => simp [insertReady]
  | cons f q ih =>
    rw [insertReady]
    split
    · simp
    · simp only [List.mem_cons, ih]
      tauto

theorem sorted_insertReady {i : Nat} {a : Text} {q : List (Nat × Text)}
    (h : q.Pairwise fun e f => e.1 < f.1) (hnew : ∀ e ∈ q, e.1 ≠ i) :
    (insertReady i a q).Pairwise fun e f => e.1 < f.1 := by
  induction q with
  | nil => simp [insertReady]
  | cons f q ih =>
    obtain ⟨hf, hq⟩ := List.pairwise_cons.1 h
    have hfi := hnew f List.mem_cons_self
    rw [insertReady]
    split
    · rename_i hi
      refine List.pairwise_cons.2 ⟨fun e he => ?_, h⟩
      rcases List.mem_cons.1 he with rfl | he
      · exact hi
      · exact Nat.lt_trans hi (hf e he)
    · rename_i hi
      have hnew' := fun e he => hnew e (List.mem_cons_of_mem f he)
      refine List.pairwise_cons.2 ⟨fun e he => ?_, ih hq hnew'⟩
      rcases mem_insertReady.1 he with rfl | he
      · exact Nat.lt_of_le_of_ne (Nat.le_of_not_lt hi) hfi
      · exact hf e he

theorem Queued.insert {p : Text → Prop} {q : List (Nat × Text)} (h : Queued r p q) {a : Text}
    (ha : r.declares a = true) (hnew : ¬ p a) :
    Queued r (fun b => p b ∨ b = a) (insertReady (r.position a) a q) := by
  constructor
  · -- Nothing in the queue has the position of `a`: it would be `a`.
    refine sorted_insertReady h.sorted ?_
    rintro ⟨i, b⟩ hb hi
    obtain ⟨hp, rfl⟩ := (h.mem_iff i b).1 hb
    exact hnew (r.position_inj ha hi.symm ▸ hp)
  · intro i b
    rw [mem_insertReady, h.mem_iff, Prod.mk.injEq]
    constructor
    · rintro (⟨rfl, rfl⟩ | ⟨hp, rfl⟩)
      · exact ⟨.inr rfl, rfl⟩
      · exact ⟨.inl hp, rfl⟩
    · rintro ⟨hp | rfl, rfl⟩
      · exact .inr ⟨hp, rfl⟩
      · exact .inl ⟨rfl, rfl⟩

theorem Queued.pop {p : Text → Prop} {i : Nat} {a : Text} {q : List (Nat × Text)}
    (h : Queued r p ((i, a) :: q)) :
    p a ∧ (∀ b, p b → r.position a ≤ r.position b) ∧ Queued r (fun b => p b ∧ b ≠ a) q := by
  obtain ⟨hfirst, hsorted⟩ := List.pairwise_cons.1 h.sorted
  obtain ⟨ha, rfl⟩ := (h.mem_iff i a).1 List.mem_cons_self
  refine ⟨ha, fun b hb => ?_, hsorted, fun j b => ?_⟩
  · rcases List.mem_cons.1 ((h.mem_iff _ b).2 ⟨hb, rfl⟩) with heq | hmem
    · exact Nat.le_of_eq (Prod.mk.inj heq).1.symm
    · exact Nat.le_of_lt (hfirst _ hmem)
  · constructor
    · intro hmem
      obtain ⟨hb, rfl⟩ := (h.mem_iff j b).1 (List.mem_cons_of_mem _ hmem)
      refine ⟨⟨hb, ?_⟩, rfl⟩
      rintro rfl
      exact Nat.lt_irrefl _ (hfirst _ hmem)
    · rintro ⟨⟨hb, hne⟩, rfl⟩
      refine (List.mem_cons.1 ((h.mem_iff _ b).2 ⟨hb, rfl⟩)).resolve_left fun heq => ?_
      exact hne (Prod.mk.inj heq).2

theorem Queued.mem_names {p : Text → Prop} {q : List (Nat × Text)} (h : Queued r p q) {a : Text} :
    a ∈ q.map (·.2) ↔ p a := by
  constructor
  · intro ha
    obtain ⟨⟨i, _⟩, hmem, rfl⟩ := List.mem_map.1 ha
    exact ((h.mem_iff i _).1 hmem).1
  · intro ha
    exact List.mem_map.2 ⟨_, (h.mem_iff (r.position a) a).2 ⟨ha, rfl⟩, rfl⟩

theorem Queued.nodup_names {p : Text → Prop} {q : List (Nat × Text)} (h : Queued r p q) :
    (q.map (·.2)).Nodup := by
  refine List.pairwise_map.2 (h.sorted.imp_of_mem fun {e f} he hf hlt heq => ?_)
  -- One name has one position.
  obtain ⟨-, he⟩ := (h.mem_iff e.1 e.2).1 he
  obtain ⟨-, hf⟩ := (h.mem_iff f.1 f.2).1 hf
  rw [he, hf, heq] at hlt
  exact Nat.lt_irrefl _ hlt

theorem Queued.nodup_append {p : Text → Prop} {q : List (Nat × Text)} (h : Queued r p q)
    {placed : List Text} (hplaced : placed.Nodup) (hnew : ∀ a, p a → a ∉ placed) :
    (placed ++ q.map (·.2)).Nodup := by
  refine List.nodup_append.2 ⟨hplaced, h.nodup_names, ?_⟩
  rintro a ha b hb rfl
  exact hnew a (h.mem_names.1 hb) ha

theorem makeReady_of_declares {a : Text} (ha : r.declares a = true) :
    makeReady r s a = .ok { s with ready := insertReady (r.position a) a s.ready } := by
  rw [makeReady, Registry.indexOf_of_declares ha]

/-! ## The counts -/

theorem keys_countDown (name : Text) (counts : List (Text × Nat)) :
    (countDown name counts).map (·.1) = counts.map (·.1) := by
  induction counts with
  | nil => rfl
  | cons c counts ih =>
    rw [countDown]
    split
    · simp
    · simp [ih]

theorem lookup_countDown (name a : Text) (counts : List (Text × Nat)) :
    (countDown name counts).lookup a =
      if a = name then (counts.lookup a).map (· - 1) else counts.lookup a := by
  induction counts with
  | nil => simp [countDown]
  | cons c counts ih =>
    obtain ⟨n, k⟩ := c
    rw [countDown]
    by_cases hn : n = name
    · subst hn
      by_cases ha : a = n
      · simp [ha]
      · have hb : (a == n) = false := by simpa using ha
        simp [List.lookup_cons, hb, ha]
    · by_cases ha : a = n
      · simp [ha, hn]
      · have hb : (a == n) = false := by simpa using ha
        simp [hn, List.lookup_cons, hb, ih]

/-! ## Taking a dependency off a module -/

theorem release_spec {p : Text → Prop} {a : Text} (hq : Queued r p s.ready)
    (ha : r.declares a = true) (hnew : ¬ p a) :
    ∃ t, release r s a = .ok t ∧ t.placed = s.placed ∧ t.waiting = countDown a s.waiting ∧
      Queued r (fun b => p b ∨ (b = a ∧ s.waiting.lookup a = some 1)) t.ready := by
  by_cases hlast : s.waiting.lookup a = some 1
  · refine ⟨⟨countDown a s.waiting, insertReady (r.position a) a s.ready, s.placed⟩,
      ?_, rfl, rfl, ?_⟩
    · simp [release, hlast, makeReady_of_declares ha]
    · exact (hq.insert ha hnew).congr fun b => by simp [hlast]
  · refine ⟨{ s with waiting := countDown a s.waiting }, ?_, rfl, rfl, ?_⟩
    · simp [release, hlast]
    · exact hq.congr fun b => by simp [hlast]

/-! ## The invariant -/

/-- How many of the names that some edges lead to are not placed. -/
def pending (placed : List Text) (es : List Edge) : Nat :=
  ((EdgeMap.dependencies es).filter fun b => b ∉ placed).length

theorem pending_eq_zero_iff {placed : List Text} {es : List Edge} :
    pending placed es = 0 ↔ ∀ b ∈ EdgeMap.dependencies es, b ∈ placed := by
  simp [pending, List.filter_eq_nil_iff]

/-- The dependencies are distinct, so what is placed is one less for each module that waits for
it. -/
theorem pending_concat {placed : List Text} {es : List Edge} {a : Text} (ha : a ∉ placed) :
    pending (placed ++ [a]) es + (if a ∈ EdgeMap.dependencies es then 1 else 0) =
      pending placed es := by
  have hnodup := (EdgeMap.nodup_dependencies es).filter fun b => b ∉ placed
  have hfilter : (EdgeMap.dependencies es).filter (fun b => b ∉ placed ++ [a]) =
      ((EdgeMap.dependencies es).filter fun b => b ∉ placed).erase a := by
    rw [hnodup.erase_eq_filter, List.filter_filter]
    apply List.filter_congr
    intro b _
    by_cases hb : b ∈ placed <;> by_cases hba : b = a <;> simp [hb, hba]
  rw [pending, hfilter, pending]
  by_cases hdep : a ∈ EdgeMap.dependencies es
  · rw [if_pos hdep, List.length_erase_add_one (List.mem_filter.2 ⟨hdep, by simpa using ha⟩)]
  · rw [if_neg hdep, List.erase_of_not_mem fun hmem => hdep (List.mem_filter.1 hmem).1]
    rfl

/-- What holds whenever the placing goes on. -/
structure Invariant (r : Registry) (map : EdgeMap) (s : Placement) : Prop where
  keys : s.waiting.map (·.1) = map.map (·.1)
  waiting : ∀ a es, (a, es) ∈ map → s.waiting.lookup a = some (pending s.placed es)
  queued : Queued r (Available map.Leads map.Has s.placed) s.ready
  greedy : Greedy map.Leads map.Has r.position s.placed

theorem makeAllReady_spec {p : Text → Prop} {entries : List (Text × Nat)}
    (hnodup : (entries.map (·.1)).Nodup) (hq : Queued r p s.ready)
    (hdeclared : ∀ a ∈ entries.map (·.1), r.declares a = true)
    (hnew : ∀ a ∈ entries.map (·.1), ¬ p a) :
    ∃ t, makeAllReady r s entries = .ok t ∧ t.placed = s.placed ∧ t.waiting = s.waiting ∧
      Queued r (fun a => p a ∨ (a, 0) ∈ entries) t.ready := by
  induction entries generalizing s p with
  | nil => exact ⟨s, rfl, rfl, rfl, hq.congr fun a => by simp⟩
  | cons entry entries ih =>
    obtain ⟨name, k⟩ := entry
    obtain ⟨hname, hnodup⟩ := List.nodup_cons.1 hnodup
    have hdeclared' := fun a ha => hdeclared a (List.mem_cons_of_mem name ha)
    have hnew' := fun a ha => hnew a (List.mem_cons_of_mem name ha)
    by_cases hk : k = 0
    · have hready := hq.insert (hdeclared name List.mem_cons_self) (hnew name List.mem_cons_self)
      obtain ⟨t, ht, hplaced, hwaiting, hready'⟩ :=
        ih (s := { s with ready := insertReady (r.position name) name s.ready }) hnodup hready
          hdeclared' (by
            rintro a ha (hp | rfl)
            · exact hnew' a ha hp
            · exact hname ha)
      refine ⟨t, ?_, hplaced, hwaiting, hready'.congr fun a => ?_⟩
      · rw [makeAllReady, if_pos hk, makeReady_of_declares (hdeclared name List.mem_cons_self)]
        exact ht
      · simp [hk, or_assoc]
    · obtain ⟨t, ht, hplaced, hwaiting, hready'⟩ := ih hnodup hq hdeclared' hnew'
      refine ⟨t, ?_, hplaced, hwaiting, hready'.congr fun a => ?_⟩
      · rw [makeAllReady, if_neg hk]
        exact ht
      · simp [Ne.symm hk]

theorem start_spec (h : EdgeMap.Placeable r map) :
    ∃ t, start r map = .ok t ∧ t.placed = [] ∧ Invariant r map t := by
  have hkeys : (map.map fun entry => (entry.1, (EdgeMap.dependencies entry.2).length)).map (·.1) =
      map.map (·.1) := by simp
  have hempty : Queued r (fun _ => False) [] := ⟨.nil, by simp⟩
  obtain ⟨t, ht, hplaced, hwaiting, hready⟩ := makeAllReady_spec
    (s := ⟨map.map fun entry => (entry.1, (EdgeMap.dependencies entry.2).length), [], []⟩)
    (hkeys ▸ h.nodup) hempty (hkeys ▸ h.declared) (by simp)
  dsimp only at hplaced hwaiting
  refine ⟨t, ht, hplaced, by rw [hwaiting, hkeys], fun a es hmem => ?_,
    hready.congr fun a => ?_, ?_⟩
  · rw [hwaiting, lookup_eq_some_iff (hkeys ▸ h.nodup), hplaced]
    exact List.mem_map.2 ⟨(a, es), hmem, by simp [pending]⟩
  · rw [hplaced]
    simp only [false_or, List.mem_map, Prod.mk.injEq, List.length_eq_zero_iff]
    constructor
    · rintro ⟨⟨_, es⟩, hmem, rfl, hnone⟩
      refine ⟨List.mem_map.2 ⟨_, hmem, rfl⟩, by simp, fun b hb => ?_⟩
      rw [h.leads_iff hmem, hnone] at hb
      cases hb
    · rintro ⟨hhas, -, hnone⟩
      obtain ⟨⟨_, es⟩, hmem, rfl⟩ := List.mem_map.1 hhas
      refine ⟨_, hmem, rfl, List.eq_nil_iff_forall_not_mem.2 fun b hb => ?_⟩
      simpa using hnone b ⟨es, hmem, hb⟩
  · rw [hplaced]
    exact greedy_nil

theorem run_eq_bind (h : s.ready ≠ []) :
    run r map s = (step r map s).bind (run r map) := by
  rw [run, dif_neg h]
  split <;> simp_all [Except.bind]

end Placement

end GatedModules
