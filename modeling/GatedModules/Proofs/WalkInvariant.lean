import GatedModules.Proofs.Graph
import GatedModules.Resolution.Walk

/-!
# The invariant of the walk

The open modules are a chain from a root, and an edge that was taken leads to a finished module or
to the next open one. Nothing leads out of the finished modules, and none of them is on a cycle.
-/

namespace GatedModules

open Relation

namespace Walk

/-! ## What a step can do -/

theorem step_cases {c : Course} {w w' : Walk} (h : step c w = .ok w') :
    (w.frames = [] ∧ w' = w) ∨
    (∃ name rest, w.frames = ⟨name, []⟩ :: rest ∧
      w' = ⟨rest, (name, .finished) :: w.marks, w.entered⟩) ∨
    (∃ name e pending rest, w.frames = ⟨name, e :: pending⟩ :: rest ∧
      w.mark? e.name = some .finished ∧ w' = { w with frames := ⟨name, pending⟩ :: rest }) ∨
    (∃ name e pending rest m, w.frames = ⟨name, e :: pending⟩ :: rest ∧
      w.mark? e.name = none ∧ m ∈ c.registry.modules ∧ m.name = e.name ∧
      w.frames.length < c.limit.value ∧
      enter c m { w with frames := ⟨name, pending⟩ :: rest } = .ok w') := by
  unfold step at h
  split at h
  · rename_i hf
    exact .inl ⟨hf, (Except.ok.inj h).symm⟩
  · rename_i name rest hf
    exact .inr (.inl ⟨name, rest, hf, (Except.ok.inj h).symm⟩)
  · rename_i name e pending rest hf
    dsimp only at h
    split at h
    · rename_i hmark
      exact .inr (.inr (.inl ⟨name, e, pending, rest, hf, hmark, (Except.ok.inj h).symm⟩))
    · cases h
    · rename_i hmark
      split at h
      · cases h
      · rename_i m hm
        obtain ⟨hmem, hname⟩ := Registry.find?_eq_some_iff.1 hm
        split at h
        · cases h
        · rename_i hroom
          exact .inr (.inr (.inr ⟨name, e, pending, rest, m, hf, hmark, hmem, hname,
            Nat.lt_of_not_le hroom, h⟩))

theorem step_error_cases {c : Course} {w : Walk} {halt : Halt} (h : step c w = .error halt) :
    ∃ name e pending rest, w.frames = ⟨name, e :: pending⟩ :: rest ∧
      ((w.mark? e.name = some .opened ∧
        halt = ⟨.rejected (.cyclicDependency (pathFrom e.name w.path ++ [e.name])), w⟩) ∨
      (c.registry.declares e.name = false ∧
        halt = ⟨.rejected (.unknownModule e.name (some name) c.target), w⟩) ∨
      (w.mark? e.name = none ∧ c.registry.declares e.name = true ∧
        c.limit.value ≤ w.frames.length ∧
        halt = ⟨.rejected (.depthExceeded c.limit.value (w.path ++ [e.name])), w⟩) ∨
      (∃ m, enter c m { w with frames := ⟨name, pending⟩ :: rest } = .error halt)) := by
  unfold step at h
  split at h
  · cases h
  · cases h
  · rename_i name e pending rest hf
    refine ⟨name, e, pending, rest, hf, ?_⟩
    dsimp only at h
    split at h
    · cases h
    · rename_i hmark
      exact .inl ⟨hmark, (Except.error.inj h).symm⟩
    · rename_i hmark
      split at h
      · rename_i hfind
        exact .inr (.inl ⟨Registry.find?_eq_none_iff.1 hfind, (Except.error.inj h).symm⟩)
      · rename_i m hfind
        split at h
        · rename_i hdeep
          exact .inr (.inr (.inl ⟨hmark, Registry.declares_iff_find?.2 ⟨m, hfind⟩, hdeep,
            (Except.error.inj h).symm⟩))
        · exact .inr (.inr (.inr ⟨m, h⟩))

/-! ## The open modules -/

/-- The walk is done with a module. -/
def Finished (w : Walk) (a : Text) : Prop := w.mark? a = some .finished

/-- A module that is opened was not marked, so nothing that was finished is opened again. -/
theorem finished_cons_opened_iff {w : Walk} {frames : List Frame}
    {entered : List (Text × List Edge)} {name : Text} (hnew : w.mark? name = none) (a : Text) :
    (Walk.mk frames ((name, .opened) :: w.marks) entered).Finished a ↔ w.Finished a := by
  rw [Finished, mark?_cons]
  by_cases ha : a = name
  · simp [Finished, ha, hnew]
  · simp [Finished, ha, mark?]

theorem finished_cons_finished_iff {w : Walk} {frames : List Frame}
    {entered : List (Text × List Edge)} {name : Text} (a : Text) :
    (Walk.mk frames ((name, .finished) :: w.marks) entered).Finished a ↔
      a = name ∨ w.Finished a := by
  rw [Finished, mark?_cons]
  by_cases ha : a = name <;> simp [Finished, ha, mark?]

/-- What holds of some open modules, the last one first, below the one that is opened next, if any:
the edges taken from each lead to finished modules or to the one above it, and it leads to that. -/
def Stacked (c : Course) (w : Walk) : Option Text → List Frame → Prop
  | _, [] => True
  | above, f :: rest =>
    (∃ taken, (f.name, taken ++ f.pending) ∈ w.entered ∧
      ∀ e ∈ taken, w.Finished e.name ∨ above = some e.name) ∧
    (∀ a, above = some a → c.registry.Leads c.env f.name a) ∧ Stacked c w (some f.name) rest

variable {c : Course} {roots : List Text} {w w' : Walk}

theorem Stacked.mono {above : Option Text} {frames : List Frame} (h : Stacked c w above frames)
    (hentered : ∀ entry ∈ w.entered, entry ∈ w'.entered)
    (hfinished : ∀ a, w.Finished a → w'.Finished a) : Stacked c w' above frames := by
  induction frames generalizing above with
  | nil => trivial
  | cons f rest ih =>
    obtain ⟨⟨taken, hmem, htaken⟩, hleads, hrest⟩ := h
    refine ⟨⟨taken, hentered _ hmem, ?_⟩, hleads, ih hrest⟩
    intro e he
    exact (htaken e he).imp_left (hfinished e.name)

/-- Once the next module is finished, nothing is about to be opened. -/
theorem Stacked.settle {a : Text} {frames : List Frame} (h : Stacked c w (some a) frames)
    (ha : w.Finished a) : Stacked c w none frames := by
  cases frames with
  | nil => trivial
  | cons f rest =>
    obtain ⟨⟨taken, hmem, htaken⟩, -, hrest⟩ := h
    refine ⟨⟨taken, hmem, ?_⟩, by simp, hrest⟩
    intro e he
    rcases htaken e he with hfin | hnext
    · exact .inl hfin
    · rw [Option.some.inj hnext] at ha
      exact .inl ha

theorem Stacked.isChain {above : Option Text} {frames : List Frame}
    (h : Stacked c w above frames) :
    (above.toList ++ frames.map Frame.name).IsChain fun a b => c.registry.Leads c.env b a := by
  induction frames generalizing above with
  | nil => cases above <;> simp
  | cons f rest ih =>
    obtain ⟨-, hleads, hrest⟩ := h
    have hchain := ih hrest
    cases above with
    | none => exact hchain
    | some a => exact List.isChain_cons_cons.2 ⟨hleads a rfl, hchain⟩

/-! ## The invariant -/

/-- What holds at every step of a walk from some roots, when `above` is the module that is opened
next, if any. -/
structure Invariant (c : Course) (roots : List Text) (above : Option Text) (w : Walk) : Prop where
  opened : ∀ a, w.mark? a = some .opened ↔ a ∈ w.frames.map Frame.name
  nodup : (w.frames.map Frame.name).Nodup
  stacked : Stacked c w above w.frames
  bottom : ∀ a, (w.frames.map Frame.name).getLast? = some a → a ∈ roots
  room : w.frames.length ≤ c.limit.value
  entered_iff : ∀ a, a ∈ w.entered.map (·.1) ↔ w.mark? a ≠ none
  entered_nodup : (w.entered.map (·.1)).Nodup
  edges : ∀ entry ∈ w.entered,
    ∃ m ∈ c.registry.modules, m.name = entry.1 ∧ entry.2 = m.effective c.env
  reached : ∀ a ∈ w.entered.map (·.1), c.registry.Reachable c.env roots a
  closed : ∀ a b, w.Finished a → c.registry.Leads c.env a b → w.Finished b
  acyclic : ∀ a, w.Finished a → ¬ c.registry.OnCycle c.env a

theorem invariant_start (c : Course) (roots : List Text) (above : Option Text) :
    Invariant c roots above start := by
  constructor <;> simp [start, mark?, Stacked, Finished]

theorem Invariant.mem_entered_of_open {above : Option Text} (h : Invariant c roots above w)
    {a : Text} (ha : a ∈ w.frames.map Frame.name) : a ∈ w.entered.map (·.1) := by
  rw [h.entered_iff, (h.opened a).2 ha]
  simp

theorem Invariant.declared {above : Option Text} (h : Invariant c roots above w) {a : Text}
    (ha : a ∈ w.entered.map (·.1)) : c.registry.declares a = true := by
  obtain ⟨entry, hentry, rfl⟩ := List.mem_map.1 ha
  obtain ⟨m, hm, hname, -⟩ := h.edges entry hentry
  exact Registry.declares_iff.2 ⟨m, hm, hname⟩

theorem Invariant.leads_iff {above : Option Text} (h : Invariant c roots above w) {a : Text}
    {es : List Edge} (ha : (a, es) ∈ w.entered) {b : Text} :
    c.registry.Leads c.env a b ↔ ∃ e ∈ es, e.name = b := by
  obtain ⟨m, hm, rfl, rfl⟩ := h.edges _ ha
  exact Registry.leads_iff hm

/-- Whatever the module on top leads to is finished, once all its edges are taken. -/
theorem Invariant.finished_of_leads {name b : Text} {rest : List Frame}
    (h : Invariant c roots none w) (hf : w.frames = ⟨name, []⟩ :: rest)
    (hb : c.registry.Leads c.env name b) : w.Finished b := by
  have hs := h.stacked
  rw [hf] at hs
  obtain ⟨⟨taken, hmem, htaken⟩, -⟩ := hs
  obtain ⟨e, he, rfl⟩ := (h.leads_iff hmem).1 hb
  rw [List.append_nil] at he
  exact (htaken e he).resolve_right (by simp)

theorem Invariant.finished_of_transGen {above : Option Text} (h : Invariant c roots above w)
    {a b : Text} (ha : w.Finished a) (hab : TransGen (c.registry.Leads c.env) a b) :
    w.Finished b :=
  Registry.of_transGen h.closed ha hab

/-! ## Steps keep the invariant -/

theorem Invariant.take {name : Text} {e : Edge} {pending : List Edge} {rest : List Frame}
    (h : Invariant c roots none w) (hf : w.frames = ⟨name, e :: pending⟩ :: rest) :
    Invariant c roots (some e.name) { w with frames := ⟨name, pending⟩ :: rest } := by
  have hs := h.stacked
  rw [hf] at hs
  obtain ⟨⟨taken, hmem, htaken⟩, -, hrest⟩ := hs
  have hnames :
      w.frames.map Frame.name = (⟨name, pending⟩ :: rest : List Frame).map Frame.name := by
    rw [hf]
    rfl
  have hlength : w.frames.length = (⟨name, pending⟩ :: rest : List Frame).length := by
    rw [hf]
    rfl
  refine { h with
    opened := hnames ▸ h.opened
    nodup := hnames ▸ h.nodup
    stacked := ⟨⟨taken ++ [e], by simpa using hmem, ?_⟩, ?_,
      hrest.mono (fun _ => id) fun _ => id⟩
    bottom := hnames ▸ h.bottom
    room := hlength ▸ h.room }
  · -- An edge taken before leads to a finished module; `e` leads to the next one.
    intro d hd
    rcases List.mem_append.1 hd with hd | hd
    · exact .inl ((htaken d hd).resolve_right (by simp))
    · rw [List.mem_singleton.1 hd]
      exact .inr rfl
  · intro a ha
    rw [← Option.some.inj ha]
    exact (h.leads_iff hmem).2 ⟨e, by simp, rfl⟩

theorem Invariant.settle {a : Text} (h : Invariant c roots (some a) w) (ha : w.Finished a) :
    Invariant c roots none w :=
  { h with stacked := h.stacked.settle ha }

theorem Invariant.enter {m : Module} (h : Invariant c roots (some m.name) w)
    (hm : m ∈ c.registry.modules) (hnew : w.mark? m.name = none)
    (hroom : w.frames.length < c.limit.value)
    (hreach : c.registry.Reachable c.env roots m.name) (hroot : w.frames = [] → m.name ∈ roots)
    (he : Walk.enter c m w = .ok w') : Invariant c roots none w' := by
  obtain ⟨edges, hedges, rfl⟩ := enter_eq_ok he
  have hfinished : ∀ a, (Walk.mk (⟨m.name, edges⟩ :: w.frames) ((m.name, .opened) :: w.marks)
      (w.entered ++ [(m.name, edges)])).Finished a ↔ w.Finished a := finished_cons_opened_iff hnew
  have hkey : m.name ∉ w.entered.map (·.1) := by simp [h.entered_iff, hnew]
  constructor
  case opened =>
    intro a
    rw [mark?_cons]
    by_cases ha : a = m.name
    · simp [ha]
    · simpa [ha, mark?] using h.opened a
  case nodup =>
    refine List.nodup_cons.2 ⟨fun hmem => ?_, h.nodup⟩
    exact hkey (h.mem_entered_of_open hmem)
  case stacked =>
    refine ⟨⟨[], by simp, by simp⟩, by simp, h.stacked.mono ?_ fun a => (hfinished a).2⟩
    exact fun entry hentry => List.mem_append_left _ hentry
  case bottom =>
    intro a ha
    cases hf : w.frames with
    | nil =>
      rw [hf] at ha
      have hname : m.name = a := by simpa using ha
      exact hname ▸ hroot hf
    | cons f rest =>
      rw [hf] at ha
      exact h.bottom a (by simpa [hf, List.getLast?_cons_cons] using ha)
  case room => exact Nat.succ_le_of_lt hroom
  case entered_iff =>
    intro a
    rw [mark?_cons]
    by_cases ha : a = m.name
    · simp [ha]
    · simpa [ha, mark?] using h.entered_iff a
  case entered_nodup =>
    rw [List.map_append, List.nodup_append]
    refine ⟨h.entered_nodup, by simp, ?_⟩
    intro a ha b hb hab
    have hname : b = m.name := by simpa using hb
    exact hkey (hname ▸ hab ▸ ha)
  case edges =>
    intro entry hentry
    rcases List.mem_append.1 hentry with hentry | hentry
    · exact h.edges entry hentry
    · rw [List.mem_singleton.1 hentry]
      exact ⟨m, hm, rfl, Module.eq_effective_of_activeEdges hedges⟩
  case reached =>
    intro a ha
    rw [List.map_append, List.mem_append] at ha
    rcases ha with ha | ha
    · exact h.reached a ha
    · have hname : a = m.name := by simpa using ha
      exact hname ▸ hreach
  case closed =>
    intro a b ha hab
    rw [hfinished] at ha ⊢
    exact h.closed a b ha hab
  case acyclic =>
    intro a ha
    exact h.acyclic a ((hfinished a).1 ha)

theorem Invariant.finish {name : Text} {rest : List Frame} (h : Invariant c roots none w)
    (hf : w.frames = ⟨name, []⟩ :: rest) :
    Invariant c roots none ⟨rest, (name, .finished) :: w.marks, w.entered⟩ := by
  have hopened : w.mark? name = some .opened := (h.opened name).2 (by simp [hf])
  have hnodup := h.nodup
  rw [hf, List.map_cons, List.nodup_cons] at hnodup
  have hfinished : ∀ a, (Walk.mk rest ((name, .finished) :: w.marks) w.entered).Finished a ↔
      a = name ∨ w.Finished a := finished_cons_finished_iff
  have hunfinished : ¬ w.Finished name := by simp [Finished, hopened]
  constructor
  case opened =>
    intro a
    rw [mark?_cons]
    by_cases ha : a = name
    · simpa [ha] using hnodup.1
    · simpa [ha, mark?, hf] using h.opened a
  case nodup => exact hnodup.2
  case stacked =>
    have hs := h.stacked
    rw [hf] at hs
    have hrest : Stacked c ⟨rest, (name, .finished) :: w.marks, w.entered⟩ (some name) rest :=
      hs.2.2.mono (fun _ => id) fun a ha => (hfinished a).2 (.inr ha)
    exact hrest.settle ((hfinished name).2 (.inl rfl))
  case bottom =>
    intro a ha
    apply h.bottom
    cases rest with
    | nil => simp at ha
    | cons f rest => simpa [hf, List.getLast?_cons_cons] using ha
  case room =>
    have hroom := h.room
    rw [hf] at hroom
    exact Nat.le_of_succ_le hroom
  case entered_iff =>
    intro a
    rw [mark?_cons]
    by_cases ha : a = name
    · simp [ha, h.entered_iff, hopened]
    · simpa [ha, mark?] using h.entered_iff a
  case entered_nodup => exact h.entered_nodup
  case edges => exact h.edges
  case reached => exact h.reached
  case closed =>
    -- All edges of the module on top are taken, so they lead to finished modules.
    intro a b ha hab
    refine (hfinished b).2 (.inr ?_)
    rcases (hfinished a).1 ha with rfl | ha
    · exact h.finished_of_leads hf hab
    · exact h.closed a b ha hab
  case acyclic =>
    intro a ha hcycle
    rcases (hfinished a).1 ha with rfl | ha
    · -- A cycle would lead from a finished module back to one that was open.
      obtain ⟨b, hab, hba⟩ := TransGen.head'_iff.1 hcycle
      have hb := h.finished_of_leads hf hab
      rcases reflTransGen_iff_eq_or_transGen.1 hba with rfl | hba
      · exact hunfinished hb
      · exact hunfinished (h.finished_of_transGen hb hba)
    · exact h.acyclic a ha hcycle

theorem Invariant.reachable_next {name : Text} {e : Edge} {pending : List Edge} {rest : List Frame}
    (h : Invariant c roots none w) (hf : w.frames = ⟨name, e :: pending⟩ :: rest) :
    c.registry.Reachable c.env roots e.name := by
  have hopen : name ∈ w.frames.map Frame.name := by simp [hf]
  exact (h.reached name (h.mem_entered_of_open hopen)).lead ((h.take hf).stacked.2.1 e.name rfl)

theorem Invariant.step (h : Invariant c roots none w) (hs : Walk.step c w = .ok w') :
    Invariant c roots none w' := by
  rcases step_cases hs with ⟨-, rfl⟩ | ⟨name, rest, hf, rfl⟩ |
    ⟨name, e, pending, rest, hf, hmark, rfl⟩ |
    ⟨name, e, pending, rest, m, hf, hmark, hm, hname, hroom, he⟩
  · exact h
  · exact h.finish hf
  · exact (h.take hf).settle hmark
  · -- The edge leads to a module that is new, so it is reached and opened next.
    have htaken := h.take hf
    rw [← hname] at htaken hmark
    refine htaken.enter hm hmark ?_ ?_ (by simp) he
    · simpa [hf] using hroom
    · exact hname ▸ h.reachable_next hf

theorem mark?_of_enter {m : Module} (he : Walk.enter c m w = .ok w') :
    w'.mark? m.name = some .opened ∧ ∀ a, w.mark? a ≠ none → w'.mark? a ≠ none := by
  obtain ⟨edges, -, rfl⟩ := enter_eq_ok he
  refine ⟨by simp [mark?_cons], fun a ha => ?_⟩
  rw [mark?_cons]
  split
  · simp
  · exact ha

theorem mark?_ne_none_of_step {a : Text} (hs : Walk.step c w = .ok w') (ha : w.mark? a ≠ none) :
    w'.mark? a ≠ none := by
  rcases step_cases hs with ⟨-, rfl⟩ | ⟨name, rest, -, rfl⟩ | ⟨_, _, _, _, -, -, rfl⟩ |
    ⟨_, _, _, _, m, -, -, -, -, -, he⟩
  · exact ha
  · rw [mark?_cons]
    split
    · simp
    · exact ha
  · exact ha
  · exact (mark?_of_enter he).2 a ha

/-! ## Runs keep the invariant -/

theorem run_of_idle (h : w.frames = []) : Walk.run c w = .ok w := by
  rw [Walk.run, dif_pos h]

theorem run_eq_bind (h : w.frames ≠ []) : Walk.run c w = (Walk.step c w).bind (Walk.run c) := by
  rw [Walk.run, dif_neg h]
  split <;> simp_all [Except.bind]

theorem Invariant.run (h : Invariant c roots none w) (hr : Walk.run c w = .ok w') :
    Invariant c roots none w' ∧ w'.frames = [] ∧ ∀ a, w.mark? a ≠ none → w'.mark? a ≠ none := by
  induction w using Walk.run.induct (c := c) with
  | case1 w hidle =>
    rw [run_of_idle hidle] at hr
    cases hr
    exact ⟨h, hidle, fun _ => id⟩
  | case2 w hopen halt hs =>
    rw [run_eq_bind hopen, hs] at hr
    cases hr
  | case3 w hopen next hs ih =>
    rw [run_eq_bind hopen, hs] at hr
    obtain ⟨hinv, hidle, hmarks⟩ := ih (h.step hs) hr
    exact ⟨hinv, hidle, fun a ha => hmarks a (mark?_ne_none_of_step hs ha)⟩

/-- A run that stops does so at a step from a state with the invariant. -/
theorem Invariant.run_error {halt : Halt} (h : Invariant c roots none w)
    (hr : Walk.run c w = .error halt) :
    ∃ u, Invariant c roots none u ∧ Walk.step c u = .error halt := by
  induction w using Walk.run.induct (c := c) with
  | case1 w hidle =>
    rw [run_of_idle hidle] at hr
    cases hr
  | case2 w hopen halt' hs =>
    rw [run_eq_bind hopen, hs] at hr
    cases hr
    exact ⟨w, h, hs⟩
  | case3 w hopen next hs ih =>
    rw [run_eq_bind hopen, hs] at hr
    exact ih (h.step hs) hr

/-! ## The roots -/

theorem fromRoots_of_mark {root : Text} (h : w.mark? root ≠ none) (rest : List Text) :
    fromRoots c w (root :: rest) = fromRoots c w rest := by
  obtain ⟨k, hk⟩ := Option.ne_none_iff_exists'.1 h
  rw [fromRoots, hk]

theorem fromRoots_of_new {m : Module} (hm : m ∈ c.registry.modules) (h : w.mark? m.name = none)
    (rest : List Text) :
    fromRoots c w (m.name :: rest) = (Walk.enter c m w).bind fun opened =>
      (Walk.run c opened).bind fun next => fromRoots c next rest := by
  rw [fromRoots, h, Registry.get_eq_ok_iff.2 ⟨hm, rfl⟩]
  rfl

/-- A walk that goes on past a root has come to it before, or opens it and runs until it is done. -/
theorem fromRoots_cons_cases {root : Text} {rest : List Text}
    (h : fromRoots c w (root :: rest) = .ok w') :
    (w.mark? root ≠ none ∧ fromRoots c w rest = .ok w') ∨
    ∃ m opened next, m ∈ c.registry.modules ∧ m.name = root ∧ w.mark? root = none ∧
      Walk.enter c m w = .ok opened ∧ Walk.run c opened = .ok next ∧
      fromRoots c next rest = .ok w' := by
  by_cases hmark : w.mark? root = none
  · cases hget : c.registry.get root with
    | error e => simp [Walk.fromRoots, hmark, hget] at h
    | ok m =>
      obtain ⟨hm, rfl⟩ := Registry.get_eq_ok_iff.1 hget
      rw [fromRoots_of_new hm hmark] at h
      cases he : Walk.enter c m w with
      | error halt => rw [he] at h; cases h
      | ok opened =>
        cases hrun : Walk.run c opened with
        | error halt => simp [he, hrun, Except.bind] at h
        | ok next =>
          simp only [he, hrun, Except.bind] at h
          exact .inr ⟨m, opened, next, hm, rfl, hmark, he, hrun, h⟩
  · rw [fromRoots_of_mark hmark] at h
    exact .inl ⟨hmark, h⟩

/-- Where no module is open, any may be opened next. -/
theorem Invariant.of_idle {above above' : Option Text} (h : Invariant c roots above w)
    (hidle : w.frames = []) : Invariant c roots above' w :=
  { h with stacked := by rw [hidle]; trivial }

theorem Invariant.open_root {m : Module} (h : Invariant c roots none w) (hidle : w.frames = [])
    (hm : m ∈ c.registry.modules) (hroot : m.name ∈ roots) (hnew : w.mark? m.name = none)
    (he : Walk.enter c m w = .ok w') : Invariant c roots none w' := by
  refine (h.of_idle hidle).enter hm hnew ?_ (.root hroot) (fun _ => hroot) he
  rw [hidle]
  exact c.limit.positive

theorem Invariant.fromRoots {rest : List Text} (h : Invariant c roots none w)
    (hidle : w.frames = []) (hrest : ∀ a ∈ rest, a ∈ roots)
    (hr : Walk.fromRoots c w rest = .ok w') :
    Invariant c roots none w' ∧ w'.frames = [] ∧ (∀ a, w.mark? a ≠ none → w'.mark? a ≠ none) ∧
      ∀ a ∈ rest, w'.mark? a ≠ none := by
  induction rest generalizing w with
  | nil =>
    cases hr
    exact ⟨h, hidle, fun _ => id, by simp⟩
  | cons root rest ih =>
    have hrest' := fun a ha => hrest a (List.mem_cons_of_mem root ha)
    rcases fromRoots_cons_cases hr with ⟨hmark, hr⟩ |
      ⟨m, opened, next, hm, rfl, hmark, he, hrun, hr⟩
    · obtain ⟨hinv, hend, hmarks, hroots⟩ := ih h hidle hrest' hr
      refine ⟨hinv, hend, hmarks, ?_⟩
      intro a ha
      rcases List.mem_cons.1 ha with rfl | ha
      · exact hmarks a hmark
      · exact hroots a ha
    · have hopened := h.open_root hidle hm (hrest m.name List.mem_cons_self) hmark he
      obtain ⟨hroot, hold⟩ := mark?_of_enter he
      obtain ⟨hnext, hidle', hmarks⟩ := hopened.run hrun
      obtain ⟨hinv, hend, hmarks', hroots⟩ := ih hnext hidle' hrest' hr
      refine ⟨hinv, hend, fun a ha => hmarks' a (hmarks a (hold a ha)), ?_⟩
      intro a ha
      rcases List.mem_cons.1 ha with rfl | ha
      · exact hmarks' _ (hmarks _ (by simp [hroot]))
      · exact hroots a ha

/-! ## What steps keep

A property that every step keeps, and every opening of a root, holds of a walk to its end. -/

theorem Invariant.run_keeps {P : Walk → Prop} (h : Invariant c roots none w)
    (hstep : ∀ u u', Invariant c roots none u → P u → Walk.step c u = .ok u' → P u') (hP : P w)
    (hr : Walk.run c w = .ok w') : P w' := by
  induction w using Walk.run.induct (c := c) with
  | case1 w hidle =>
    rw [run_of_idle hidle] at hr
    cases hr
    exact hP
  | case2 w hopen halt hs =>
    rw [run_eq_bind hopen, hs] at hr
    cases hr
  | case3 w hopen next hs ih =>
    rw [run_eq_bind hopen, hs] at hr
    exact ih (h.step hs) (hstep w next h hP hs) hr

theorem Invariant.fromRoots_keeps {P : Walk → Prop} {rest : List Text}
    (h : Invariant c roots none w) (hidle : w.frames = []) (hrest : ∀ a ∈ rest, a ∈ roots)
    (hstep : ∀ u u', Invariant c roots none u → P u → Walk.step c u = .ok u' → P u')
    (hopen : ∀ m u u', m.name ∈ roots → P u → Walk.enter c m u = .ok u' → P u') (hP : P w)
    (hr : Walk.fromRoots c w rest = .ok w') : P w' := by
  induction rest generalizing w with
  | nil =>
    cases hr
    exact hP
  | cons root rest ih =>
    have hrest' := fun a ha => hrest a (List.mem_cons_of_mem root ha)
    rcases fromRoots_cons_cases hr with ⟨-, hr⟩ | ⟨m, opened, next, hm, rfl, hmark, he, hrun, hr⟩
    · exact ih h hidle hrest' hP hr
    · have hroot := hrest m.name List.mem_cons_self
      have hopened := h.open_root hidle hm hroot hmark he
      obtain ⟨hnext, hidle', -⟩ := hopened.run hrun
      have hPopened : P opened := hopen m w opened hroot hP he
      exact ih hnext hidle' hrest' (hopened.run_keeps hstep hPopened hrun) hr

end Walk

end GatedModules
