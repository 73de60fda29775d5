import GatedModules.Proofs.Likeness

/-!
# Two walks side by side

Two walks from the same roots go by courses that differ in the registry or in the environment. Where
the second has, for every module that is reached, the effective edges of the first in order, but for
some that lead where an edge before them leads, the two enter the same modules in the same order and
stop at the same error. The first walk takes the additional edges on its own: they lead to
modules that are finished by then.
-/

namespace GatedModules

/-- Edges of which some are left out, when the names in `done` are done with. An edge may be left
out if its name is done with or an edge before it leads there; those that are left lead to the same
names, in order. -/
inductive Thinned : (Text → Prop) → List Edge → List Edge → Prop
  | nil {done : Text → Prop} : Thinned done [] []
  | keep {done : Text → Prop} {e e' : Edge} {es es' : List Edge} (h : e'.name = e.name)
      (hes : Thinned (fun a => done a ∨ a = e.name) es es') : Thinned done (e :: es) (e' :: es')
  | skip {done : Text → Prop} {e : Edge} {es es' : List Edge} (h : done e.name)
      (hes : Thinned done es es') : Thinned done (e :: es) es'

theorem Thinned.mono {done done' : Text → Prop} {es es' : List Edge} (h : Thinned done es es')
    (himp : ∀ a, done a → done' a) : Thinned done' es es' := by
  induction h generalizing done' with
  | nil => exact .nil
  | keep hname _ ih => exact .keep hname (ih fun a ha => ha.imp_left (himp a))
  | skip hdone _ ih => exact .skip (himp _ hdone) (ih himp)

theorem thinned_self (done : Text → Prop) (es : List Edge) : Thinned done es es := by
  induction es generalizing done with
  | nil => exact .nil
  | cons e es ih => exact .keep rfl (ih _)

namespace Walk

/-! ## Steps by the edge that is taken next -/

variable {c c' : Course} {roots : List Text} {w w' u : Walk}

theorem step_of_done {name : Text} {rest : List Frame} (hf : w.frames = ⟨name, []⟩ :: rest) :
    Walk.step c w = .ok ⟨rest, (name, .finished) :: w.marks, w.entered⟩ := by
  rw [Walk.step, hf]

section

variable {name : Text} {e : Edge} {pending : List Edge} {rest : List Frame}
  (hf : w.frames = ⟨name, e :: pending⟩ :: rest)
include hf

theorem step_of_finished (h : w.mark? e.name = some .finished) :
    Walk.step c w = .ok { w with frames := ⟨name, pending⟩ :: rest } := by
  simp only [Walk.step, hf, h]

theorem step_of_opened (h : w.mark? e.name = some .opened) :
    Walk.step c w =
      .error ⟨.rejected (.cyclicDependency (pathFrom e.name w.path ++ [e.name])), w⟩ := by
  simp only [Walk.step, hf, h]

theorem step_of_undeclared (h : w.mark? e.name = none) (hm : c.registry.find? e.name = none) :
    Walk.step c w = .error ⟨.rejected (.unknownModule e.name (some name) c.target), w⟩ := by
  simp only [Walk.step, hf, h, hm]

theorem step_of_deep {m : Module} (h : w.mark? e.name = none)
    (hm : c.registry.find? e.name = some m) (hdeep : c.limit.value ≤ w.frames.length) :
    Walk.step c w = .error ⟨.rejected (.depthExceeded c.limit.value (w.path ++ [e.name])), w⟩ := by
  rw [hf] at hdeep
  simp only [Walk.step, hf, h, hm, if_pos hdeep]

theorem step_of_new {m : Module} (h : w.mark? e.name = none)
    (hm : c.registry.find? e.name = some m) (hroom : ¬ c.limit.value ≤ w.frames.length) :
    Walk.step c w = Walk.enter c m { w with frames := ⟨name, pending⟩ :: rest } := by
  rw [hf] at hroom
  simp only [Walk.step, hf, h, hm, if_neg hroom]

end

theorem enter_of_text (henv : c.env.HasTextArchitecture) (m : Module) (w : Walk) :
    Walk.enter c m w = .ok ⟨⟨m.name, m.effective c.env⟩ :: w.frames,
      (m.name, .opened) :: w.marks, w.entered ++ [(m.name, m.effective c.env)]⟩ := by
  rw [Walk.enter, Module.activeEdges_eq_effective henv]

/-! ## States side by side -/

/-- Open modules of two walks, the last one first, below the one that is opened next, if any: they
have the same names, and the pending edges of the second are those of the first but for some. -/
inductive FramesAbreast (finished : Text → Prop) :
    Option Text → List Frame → List Frame → Prop
  | nil {above : Option Text} : FramesAbreast finished above [] []
  | cons {above : Option Text} {name : Text} {es es' : List Edge} {rest rest' : List Frame}
      (pending : Thinned (fun a => finished a ∨ above = some a) es es')
      (below : FramesAbreast finished (some name) rest rest') :
      FramesAbreast finished above (⟨name, es⟩ :: rest) (⟨name, es'⟩ :: rest')

structure Abreast (thin : List Edge → List Edge) (w w' : Walk) : Prop where
  frames : FramesAbreast w.Finished none w.frames w'.frames
  marks : w'.marks = w.marks
  entered : w'.entered = w.entered.map fun entry => (entry.1, thin entry.2)

variable {finished finished' : Text → Prop} {above : Option Text} {frames frames' : List Frame}
  {thin : List Edge → List Edge}

theorem FramesAbreast.mono (h : FramesAbreast finished above frames frames')
    (himp : ∀ a, finished a → finished' a) : FramesAbreast finished' above frames frames' := by
  induction h with
  | nil => exact .nil
  | cons hpending _ ih => exact .cons (hpending.mono fun a ha => ha.imp_left (himp a)) ih

/-- Once the next module is finished, nothing is about to be opened. -/
theorem FramesAbreast.settle {a : Text} (h : FramesAbreast finished (some a) frames frames')
    (ha : finished a) : FramesAbreast finished none frames frames' := by
  cases h with
  | nil => exact .nil
  | cons hpending hbelow =>
    refine .cons (hpending.mono fun b hb => .inl ?_) hbelow
    rcases hb with hb | hb
    · exact hb
    · exact Option.some.inj hb ▸ ha

theorem FramesAbreast.names_eq (h : FramesAbreast finished above frames frames') :
    frames'.map Frame.name = frames.map Frame.name := by
  induction h with
  | nil => rfl
  | cons _ _ ih => rw [List.map_cons, List.map_cons, ih]

theorem Abreast.mark?_eq (h : Abreast thin w w') (a : Text) : w'.mark? a = w.mark? a := by
  rw [mark?, mark?, h.marks]

theorem Abreast.path_eq (h : Abreast thin w w') : w'.path = w.path := by
  rw [path, path, h.frames.names_eq]

theorem Abreast.length_eq (h : Abreast thin w w') : w'.frames.length = w.frames.length := by
  simpa using congrArg List.length h.frames.names_eq

theorem Abreast.opened (h : Abreast thin w w') (hopen : w.frames ≠ []) : w'.frames ≠ [] := by
  simpa [← List.length_pos_iff, h.length_eq] using hopen

theorem Abreast.idle (h : Abreast thin w w') (hidle : w.frames = []) : w'.frames = [] := by
  simpa [hidle] using h.frames.names_eq

/-- The second walk lacks the edge that the first takes next, and that edge leads to a finished
module; or the second takes an edge to the same name. -/
theorem Abreast.next_cases {name : Text} {e : Edge} {pending : List Edge} {rest : List Frame}
    (h : Abreast thin w w') (hf : w.frames = ⟨name, e :: pending⟩ :: rest) :
    (w.Finished e.name ∧ Abreast thin { w with frames := ⟨name, pending⟩ :: rest } w') ∨
    ∃ e' pending' rest', w'.frames = ⟨name, e' :: pending'⟩ :: rest' ∧ e'.name = e.name ∧
      FramesAbreast w.Finished (some e.name) (⟨name, pending⟩ :: rest)
        (⟨name, pending'⟩ :: rest') := by
  have hframes := h.frames
  rw [hf] at hframes
  generalize hf' : w'.frames = frames' at hframes
  cases hframes with
  | cons hpending hbelow =>
    cases hpending with
    | keep hname hes =>
      refine .inr ⟨_, _, _, rfl, hname, .cons (hes.mono fun a ha => ?_) hbelow⟩
      rcases ha with (ha | ha) | rfl
      · exact .inl ha
      · cases ha
      · exact .inr rfl
    | skip hdone hes =>
      refine .inl ⟨hdone.resolve_right (by simp), ⟨?_, h.marks, h.entered⟩⟩
      rw [hf']
      exact .cons hes hbelow

/-! ## Steps and runs stay side by side -/

/-- Two walks end alike, in states that are related or at one error. -/
def EndAlike (related : Walk → Walk → Prop) : Except Halt Walk → Except Halt Walk → Prop
  | .ok w, .ok w' => related w w'
  | .error halt, .error halt' => halt.error = halt'.error
  | _, _ => False

theorem EndAlike.mono {related related' : Walk → Walk → Prop} {x x' : Except Halt Walk}
    (h : EndAlike related x x') (himp : ∀ w w', related w w' → related' w w') :
    EndAlike related' x x' := by
  cases x <;> cases x'
  · exact h
  · exact h.elim
  · exact h.elim
  · exact himp _ _ h

theorem EndAlike.bind {related related' : Walk → Walk → Prop} {x x' : Except Halt Walk}
    {next next' : Walk → Except Halt Walk} (h : EndAlike related x x')
    (hnext : ∀ u u', x = .ok u → related u u' → EndAlike related' (next u) (next' u')) :
    EndAlike related' (x.bind next) (x'.bind next') := by
  cases x <;> cases x'
  · exact h
  · exact h.elim
  · exact h.elim
  · exact hnext _ _ rfl h

end Walk

/-- The modules that are reached by one course have the same edges by another, but for some that
lead where an edge before them leads. -/
structure Course.Thins (thin : List Edge → List Edge) (roots : List Text) (c c' : Course) :
    Prop where
  limit : c'.limit = c.limit
  target : c'.target = c.target
  text : c.env.HasTextArchitecture
  text' : c'.env.HasTextArchitecture
  thinned : ∀ es, Thinned (fun _ => False) es (thin es)
  modules : Registry.Corresponds (fun m m' => m'.effective c'.env = thin (m.effective c.env)) c.env
    roots c.registry c'.registry

namespace Walk

variable {c c' : Course} {roots : List Text} {w w' u : Walk} {thin : List Edge → List Edge}

theorem Abreast.finish {name : Text} {rest : List Frame} (h : Abreast thin w w')
    (hf : w.frames = ⟨name, []⟩ :: rest) :
    EndAlike (Abreast thin) (Walk.step c w) (Walk.step c' w') := by
  have hframes := h.frames
  rw [hf] at hframes
  generalize hf' : w'.frames = frames' at hframes
  cases hframes with
  | cons hpending hbelow =>
    cases hpending
    rw [step_of_done hf, step_of_done hf']
    refine ⟨?_, by rw [h.marks], h.entered⟩
    have hbelow' : FramesAbreast (Walk.mk rest ((name, .finished) :: w.marks) w.entered).Finished
        (some name) rest _ :=
      hbelow.mono fun a ha => (finished_cons_finished_iff a).2 (.inr ha)
    exact hbelow'.settle ((finished_cons_finished_iff name).2 (.inl rfl))

theorem Abreast.enter {m m' : Module} (hc : Course.Thins thin roots c c')
    (hframes : FramesAbreast w.Finished (some m.name) w.frames w'.frames)
    (hmarks : w'.marks = w.marks)
    (hentered : w'.entered = w.entered.map fun entry => (entry.1, thin entry.2))
    (hnew : w.mark? m.name = none) (hname : m'.name = m.name)
    (hedges : m'.effective c'.env = thin (m.effective c.env)) :
    EndAlike (Abreast thin) (Walk.enter c m w) (Walk.enter c' m' w') := by
  rw [enter_of_text hc.text, enter_of_text hc.text', hname, hedges]
  refine ⟨.cons ((hc.thinned _).mono fun _ => False.elim) (hframes.mono fun a ha => ?_), ?_, ?_⟩
  · exact (finished_cons_opened_iff hnew a).2 ha
  · rw [hmarks]
  · rw [hentered, List.map_append, List.map_cons, List.map_nil]

/-- The first walk takes an edge that the second lacks, or both step alike. -/
theorem Abreast.step (h : Abreast thin w w') (hc : Course.Thins thin roots c c')
    (hinv : Invariant c roots none w) (hopen : w.frames ≠ []) :
    (∃ u, Walk.step c w = .ok u ∧ Abreast thin u w') ∨
      EndAlike (Abreast thin) (Walk.step c w) (Walk.step c' w') := by
  obtain ⟨⟨name, pending⟩, rest, hf⟩ := List.exists_cons_of_ne_nil hopen
  cases pending with
  | nil => exact .inr (h.finish hf)
  | cons e pending =>
    rcases h.next_cases hf with ⟨hfin, hnext⟩ | ⟨e', pending', rest', hf', hname, hframes⟩
    · exact .inl ⟨_, step_of_finished hf hfin, hnext⟩
    · right
      have hmark' : w'.mark? e'.name = w.mark? e.name := by rw [h.mark?_eq, hname]
      cases hmark : w.mark? e.name with
      | some k =>
        rw [hmark] at hmark'
        cases k with
        | opened =>
          rw [step_of_opened hf hmark, step_of_opened hf' hmark', EndAlike, hname, h.path_eq]
        | finished =>
          rw [step_of_finished hf hmark, step_of_finished hf' hmark']
          exact ⟨hframes.settle hmark, h.marks, h.entered⟩
      | none =>
        rw [hmark] at hmark'
        rcases hc.modules.cases (hinv.reachable_next hf) with
          ⟨hm, hm'⟩ | ⟨m, m', hm, hm', hedges⟩
        · rw [step_of_undeclared hf hmark hm, step_of_undeclared hf' hmark' (by rw [hname, hm']),
            EndAlike, hname, hc.target]
        · rw [← hname] at hm'
          by_cases hdeep : c.limit.value ≤ w.frames.length
          · have hdeep' : c'.limit.value ≤ w'.frames.length := by rwa [hc.limit, h.length_eq]
            rw [step_of_deep hf hmark hm hdeep, step_of_deep hf' hmark' hm' hdeep', EndAlike,
              hc.limit, hname, h.path_eq]
          · have hdeep' : ¬ c'.limit.value ≤ w'.frames.length := by rwa [hc.limit, h.length_eq]
            rw [step_of_new hf hmark hm hdeep, step_of_new hf' hmark' hm' hdeep']
            obtain ⟨-, hme⟩ := Registry.find?_eq_some_iff.1 hm
            obtain ⟨-, hme'⟩ := Registry.find?_eq_some_iff.1 hm'
            refine Abreast.enter hc (hme ▸ hframes) h.marks h.entered (hme ▸ hmark) ?_ hedges
            rw [hme', hname, hme]

theorem Abreast.run (h : Abreast thin w w') (hc : Course.Thins thin roots c c')
    (hinv : Invariant c roots none w) :
    EndAlike (Abreast thin) (Walk.run c w) (Walk.run c' w') := by
  induction w using Walk.run.induct (c := c) generalizing w' with
  | case1 w hidle =>
    rw [run_of_idle hidle, run_of_idle (h.idle hidle)]
    exact h
  | case2 w hopen halt hs =>
    rcases h.step hc hinv hopen with ⟨u, hu, -⟩ | halike
    · rw [hs] at hu
      cases hu
    · rw [run_eq_bind hopen, run_eq_bind (h.opened hopen)]
      refine halike.bind fun u u' hu _ => ?_
      rw [hs] at hu
      cases hu
  | case3 w hopen next hs ih =>
    rcases h.step hc hinv hopen with ⟨u, hu, hnext⟩ | halike
    · -- The second walk waits while the first takes an additional edge.
      rw [hs] at hu
      cases hu
      rw [run_eq_bind hopen, hs]
      exact ih hnext (hinv.step hs)
    · rw [run_eq_bind hopen, run_eq_bind (h.opened hopen)]
      refine halike.bind fun u u' hu hnext => ?_
      rw [hs] at hu
      cases hu
      exact ih hnext (hinv.step hs)

theorem Abreast.fromRoots {rest : List Text} (h : Abreast thin w w')
    (hc : Course.Thins thin roots c c') (hinv : Invariant c roots none w) (hidle : w.frames = [])
    (hrest : ∀ a ∈ rest, a ∈ roots) :
    EndAlike (Abreast thin) (Walk.fromRoots c w rest) (Walk.fromRoots c' w' rest) := by
  induction rest generalizing w w' with
  | nil => exact h
  | cons root rest ih =>
    have hrest' := fun a ha => hrest a (List.mem_cons_of_mem root ha)
    have hroot := hrest root List.mem_cons_self
    by_cases hmark : w.mark? root = none
    · have hmark' : w'.mark? root = none := by rw [h.mark?_eq, hmark]
      rcases hc.modules.cases (.root hroot) with ⟨hm, hm'⟩ | ⟨m, m', hm, hm', hedges⟩
      · rw [Walk.fromRoots, Walk.fromRoots, hmark, hmark']
        simp only [Registry.get, hm, hm', EndAlike]
      · obtain ⟨hmem, rfl⟩ := Registry.find?_eq_some_iff.1 hm
        obtain ⟨hmem', hname⟩ := Registry.find?_eq_some_iff.1 hm'
        have hroots' := fromRoots_of_new (c := c') hmem' (hname ▸ hmark') rest
        rw [hname] at hroots'
        rw [fromRoots_of_new hmem hmark, hroots']
        have hentered : EndAlike (Abreast thin) (Walk.enter c m w) (Walk.enter c' m' w') := by
          refine Abreast.enter hc ?_ h.marks h.entered hmark hname hedges
          rw [hidle, h.idle hidle]
          exact .nil
        refine hentered.bind fun opened opened' he hopened => ?_
        have hinv' := hinv.open_root hidle hmem hroot hmark he
        refine (hopened.run hc hinv').bind fun next next' hr hnext => ?_
        obtain ⟨hnextInv, hidle', -⟩ := hinv'.run hr
        exact ih hnext hnextInv hidle' hrest'
    · rw [fromRoots_of_mark hmark, fromRoots_of_mark (by rwa [h.mark?_eq])]
      exact ih h hinv hidle hrest'

end Walk

namespace Resolver

variable {r r' : Resolver} {target : Target} {env env' : Environment}
  {thin : List Edge → List Edge}

/-- Two walks for a target, from declared roots or not. -/
theorem walk_endAlike
    (hc : Course.Thins thin target.roots (r.course target env) (r'.course target env')) :
    Walk.EndAlike (fun w w' => w'.entered = w.entered.map fun entry => (entry.1, thin entry.2))
      (r.walk target env) (r'.walk target env') := by
  have hdeclares : ∀ a ∈ target.roots, r.registry.declares a = r'.registry.declares a :=
    fun a ha => hc.modules.declares_eq (.root ha)
  rcases r.registry.declared_or_first_undeclared target.roots with
    hdeclared | ⟨before, root, after, hroots, hbefore, hroot⟩
  · rw [walk_of_declared_roots hdeclared,
      walk_of_declared_roots fun a ha => hdeclares a ha ▸ hdeclared a ha]
    have hstart : Walk.Abreast thin Walk.start Walk.start := ⟨.nil, rfl, rfl⟩
    refine (hstart.fromRoots hc (Walk.invariant_start _ _ _) rfl fun _ => id).mono ?_
    exact fun w w' h => h.entered
  · have hmem : ∀ a ∈ before ++ [root], a ∈ target.roots := by
      intro a ha
      rw [hroots, List.append_cons]
      exact List.mem_append_left after ha
    rw [walk_of_undeclared_root hroots hbefore hroot, walk_of_undeclared_root hroots
      (fun a ha => hdeclares a (hmem a (by simp [ha])) ▸ hbefore a ha)
      (hdeclares root (hmem root (by simp)) ▸ hroot)]
    rfl

/-- Side by side, a target is rejected for one error, or it has two plans whose edges are the same
but for those that are left out. -/
theorem resolve_endAlike
    (hc : Course.Thins thin target.roots (r.course target env) (r'.course target env')) :
    (∃ e, r.resolve target env = .error (.rejected e) ∧
      r'.resolve target env' = .error (.rejected e)) ∨
    ∃ p p', r.resolve target env = .ok p ∧ r'.resolve target env' = .ok p' ∧
      p'.edges = p.edges.map fun entry => (entry.1, thin entry.2) := by
  have hend := walk_endAlike hc
  cases hw : r.walk target env with
  | error halt =>
    obtain ⟨e, he, -⟩ := genuine_of_walk hc.text hw
    rw [hw] at hend
    cases hw' : r'.walk target env' with
    | ok w' =>
      rw [hw'] at hend
      exact hend.elim
    | error halt' =>
      rw [hw'] at hend
      have he' : halt'.error = .rejected e := hend.symm.trans he
      refine .inl ⟨e, ?_, ?_⟩
      · rw [resolve, hw]
        simp only [he, WalkError.toFailure]
      · rw [resolve, hw']
        simp only [he', WalkError.toFailure]
  | ok w =>
    rw [hw] at hend
    cases hw' : r'.walk target env' with
    | error halt' =>
      rw [hw'] at hend
      exact hend.elim
    | ok w' =>
      rw [hw'] at hend
      obtain ⟨p, hp, hplanned⟩ := resolve_of_walk hw
      obtain ⟨p', hp', hplanned'⟩ := resolve_of_walk hw'
      refine .inr ⟨p, p', hp, hp', ?_⟩
      rw [hplanned.edges, hplanned'.edges]
      exact hend

end Resolver

end GatedModules
