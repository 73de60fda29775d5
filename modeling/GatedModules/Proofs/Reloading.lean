import GatedModules.Proofs.ModuleForm
import GatedModules.Proofs.RegistryGrammar
import GatedModules.Proofs.Reordering

/-!
# Registries written down and read again

A registry that is written down and read again has its modules in the same order, with their edges
rearranged. So it is written down in the same way once more, and targets resolve as before.
-/

namespace GatedModules

/-! ## Values that are the same but for the order of members -/

namespace Json

/-- Two values are the same where the order of the members of an object does not count. -/
inductive SameValue : Json → Json → Prop
  | refl (a : Json) : SameValue a a
  | arr {as bs : List Json} (h : List.Forall₂ SameValue as bs) : SameValue (.arr as) (.arr bs)
  | obj {as bs : List (Text × Json)}
    (h : ∀ key, Option.Rel SameValue (as.lookup key) (bs.lookup key)) :
    SameValue (.obj as) (.obj bs)

theorem SameValue.obj_of_lookup {as bs : List (Text × Json)}
    (h : ∀ key, as.lookup key = bs.lookup key) : SameValue (.obj as) (.obj bs) := by
  refine .obj fun key => ?_
  rw [h key]
  cases bs.lookup key with
  | none => exact .none
  | some b => exact .some (.refl b)

theorem SameValue.obj_of_members {as bs : List (Text × Json)}
    (h : List.Forall₂ (fun a b => a.1 = b.1 ∧ SameValue a.2 b.2) as bs) :
    SameValue (.obj as) (.obj bs) := by
  refine .obj fun key => ?_
  induction h with
  | nil => exact .none
  | @cons a b as bs hab _ ih =>
    rw [List.lookup_cons, List.lookup_cons, hab.1]
    cases key == b.1
    · exact ih
    · exact .some hab.2

end Json

open Json (SameValue)

/-! ## A module written down twice -/

namespace Module

variable {m : Module}

theorem namesUnder_arranged (m : Module) (c : Option Predicate) (k : DependencyKind) :
    m.arranged.namesUnder c k = m.namesUnder c k :=
  congrArg (List.map Edge.name) (Edge.filter_arranged m.edges c k)

theorem kindsUnder_arranged_perm (m : Module) (c : Option Predicate) :
    (m.arranged.kindsUnder c).Perm (m.kindsUnder c) := by
  refine (List.perm_ext_iff_of_nodup (nodup_distinct _) (nodup_distinct _)).2 fun k => ?_
  have hedges : ∀ e, e ∈ m.arranged.edges ↔ e ∈ m.edges :=
    fun e => (Edge.arranged_perm m.edges).mem_iff
  have hkinds := mem_kindsUnder (m := m.arranged) (c := c) (k := k)
  simp only [hedges] at hkinds
  exact hkinds.trans mem_kindsUnder.symm

theorem sameValue_blockJson (p : Predicate) {parts parts' : List (DependencyKind × List Text)}
    (hparts : parts.Perm parts') (hkinds : (parts.map Prod.fst).Nodup) :
    SameValue (blockJson p parts) (blockJson p parts') := by
  refine .obj_of_lookup fun key => ?_
  rw [List.lookup_cons, List.lookup_cons]
  cases key == ("when" : Text)
  · refine lookup_eq_of_perm (hparts.map _) ?_ key
    have hnames := hkinds.map kindName_injective
    rwa [List.map_map] at hnames ⊢
  · rfl

theorem sameValue_blocks (m : Module) :
    List.Forall₂ SameValue (m.arranged.conditionalBlocks.map fun b => blockJson b.1 b.2)
      (m.conditionalBlocks.map fun b => blockJson b.1 b.2) := by
  have hconditions : Edge.conditions m.arranged.edges = Edge.conditions m.edges :=
    Edge.conditions_arranged m.edges
  rw [conditionalBlocks_eq, conditionalBlocks_eq, hconditions, List.map_map, List.map_map]
  refine forall₂_map_map fun p _ => ?_
  simp only [Function.comp_apply, namesUnder_arranged]
  refine sameValue_blockJson p ((kindsUnder_arranged_perm m (some p)).map _) ?_
  rw [List.map_map]
  exact (List.map_id _).symm ▸ nodup_distinct _

theorem sameValue_toJson_arranged (m : Module) : SameValue m.arranged.toJson m.toJson := by
  have hnames : m.arranged.unconditionalJson = m.unconditionalJson := by
    simp only [unconditionalJson, unconditional_eq, namesUnder_arranged]
  refine .obj_of_members (.cons ⟨rfl, .refl _⟩ (.cons ⟨rfl, .refl _⟩ ?_))
  rw [hnames]
  refine List.rel_append (List.forall₂_same.2 fun _ _ => ⟨rfl, .refl _⟩) ?_
  have hblocks := sameValue_blocks m
  unfold conditionalJson
  generalize m.arranged.conditionalBlocks.map _ = blocks at hblocks ⊢
  generalize m.conditionalBlocks.map _ = blocks' at hblocks ⊢
  cases hblocks with
  | nil => exact .nil
  | cons hblock hblocks => exact .cons ⟨rfl, .arr (.cons hblock hblocks)⟩ .nil

end Module

/-! ## A registry written down and read again -/

namespace Registry

variable {r : Registry}

/-- The same registry with the edges of every module in the arrangement in which they are written
down. -/
def arranged (r : Registry) : Registry where
  modules := r.modules.map Module.arranged
  nodup := by
    rw [List.map_map]
    exact r.nodup

theorem reordered_arranged (r : Registry) : r.Reordered r.arranged := by
  refine List.forall₂_map_right_iff.2 (List.forall₂_same.2 fun m _ => ?_)
  exact ⟨rfl, rfl, (Edge.arranged_perm m.edges).symm⟩

theorem ofJsons_map_toJson (h : ∀ m ∈ r.modules, m.Named) :
    ofJsons (r.modules.map Module.toJson) = .ok r.arranged := by
  rw [ofJsons_eq_ok_iff]
  exact forall₂_map_map fun m hm => Module.ofJson_toJson (h m hm)

theorem sameValue_toJson_arranged (r : Registry) : SameValue r.arranged.toJson r.toJson := by
  refine .obj_of_members (.cons ⟨rfl, .arr ?_⟩ .nil)
  rw [arranged, List.map_map]
  exact forall₂_map_map fun m _ => m.sameValue_toJson_arranged

theorem named_of_ofJsons {data : List Json} (h : ofJsons data = .ok r) :
    ∀ m ∈ r.modules, m.Named := by
  intro m hm
  obtain ⟨value, -, hvalue⟩ := exists_mem_of_forall₂ (ofJsons_eq_ok_iff.1 h) hm
  exact Module.named_of_ofJson hvalue

end Registry

namespace Resolver

/-- A registry that was read is written down as values that are read again, as a registry with the
same names, which is written down in the same way. Where the limit leaves room for all modules, a
target has a plan with the one where it has a plan with the other, and the plans are the same but
for the order of the edges. -/
theorem plan_invariant_under_reloading (data : List Json) (r : Registry)
    (h : Registry.ofJsons data = .ok r) :
    ∃ items r', r.toJson.member? "modules" = some (.arr items) ∧
      Registry.ofJsons items = .ok r' ∧ r'.names = r.names ∧ SameValue r'.toJson r.toJson ∧
      ∀ (target : Target) (env : Environment) (limit : DepthLimit), env.HasTextArchitecture →
        r.size ≤ limit.value →
        ((∃ p, (Resolver.mk r limit).resolve target env = .ok p) ↔
          ∃ p, (Resolver.mk r' limit).resolve target env = .ok p) ∧
        ∀ p p', (Resolver.mk r limit).resolve target env = .ok p →
          (Resolver.mk r' limit).resolve target env = .ok p' →
            p.ordered = p'.ordered ∧ p.linked = p'.linked ∧ p.dynamic = p'.dynamic ∧
            p.pchModes = p'.pchModes ∧ p.flags = p'.flags ∧
            ∀ a, Option.Rel List.Perm (p.edges.lookup a) (p'.edges.lookup a) := by
  have hnames : r.arranged.names = r.names := r.reordered_arranged.names_eq
  refine ⟨r.modules.map Module.toJson, r.arranged, rfl,
    Registry.ofJsons_map_toJson (Registry.named_of_ofJsons h), hnames,
    r.sameValue_toJson_arranged, fun target env limit henv hroom => ?_⟩
  have hcorresponds := r.reordered_arranged.corresponds env target.roots
  have halike := hcorresponds.imp fun m m' hm => hm.alike env
  have hroots : ∀ a, a ∈ target.roots ↔ a ∈ target.roots := fun _ => Iff.rfl
  have hroom' : r.arranged.size ≤ limit.value := by
    rwa [Registry.size, Registry.arranged, List.length_map]
  refine ⟨⟨exists_plan_of_alike halike hroots henv hroom',
    exists_plan_of_alike (halike.symm hroots) hroots henv hroom⟩, fun p p' hp hp' => ?_⟩
  have hordered := ordered_eq_of_names halike hp hp' hroots hnames
  obtain ⟨hlinked, hdynamic, hmodes, hflags⟩ := parts_eq_of_alike halike hp hp' hroots rfl hordered
  refine ⟨hordered, hlinked, hdynamic, hmodes, hflags, ?_⟩
  exact lookup_edges_rel halike hp hp' hroots hcorresponds fun m m' hm => hm.effective env

end Resolver

/-! ## Blocks around another one, in a registry -/

namespace Interleaved

def plainData (name : Text) : Json := .obj [("name", .str name)]

def plainModule (name : Text) (h : name ≠ "") : Module := ⟨name, .none, [], h, List.nodup_nil⟩

theorem ofJson_plainData {name : Text} (h : name ≠ "") :
    Module.ofJson (plainData name) = .ok (plainModule name h) := by
  have hmode : Module.readMode (plainData name) = .ok .none := rfl
  have hlists : Module.Lists (plainData name) fun _ => [] :=
    Module.lists_nothing (by rintro (_ | _ | _) <;> rfl)
  have hedges : Module.readEdges name (plainData name) = .ok [] :=
    Module.readEdges_eq_ok_iff.2 ⟨_, [], [], hlists, rfl, .nil, rfl⟩
  exact Module.ofJson_eq_ok_iff.2 ⟨rfl, hmode, [], hedges, rfl⟩

def items : List Json := [data, plainData "B", plainData "C", plainData "D"]

def registry : Registry :=
  ⟨[module, plainModule "B" (by decide), plainModule "C" (by decide), plainModule "D" (by decide)],
    by decide⟩

theorem ofJsons_items : Registry.ofJsons items = .ok registry :=
  Registry.ofJsons_eq_ok_iff.2 (.cons ofJson_data (.cons (ofJson_plainData _)
    (.cons (ofJson_plainData _) (.cons (ofJson_plainData _) .nil))))

theorem arranged_ne : registry.arranged ≠ registry := by
  intro h
  have hmodule : module.arranged = module := (List.cons.inj (congrArg Registry.modules h)).1
  have hnames := arranged_names
  rw [Edge.arranged_eq_self_iff.2 (Module.arranged_eq_self_iff.1 hmodule)] at hnames
  exact names_ne hnames

def target : Target := ⟨"Game", .executable, .latest, ["A"], by decide⟩

def env : Environment :=
  ⟨.linux, "Linux", .str "x64", .test, [("X", .bool true), ("Y", .bool true)]⟩

end Interleaved

namespace Resolver

/-- What is read again is another registry, in which `D` stands before `C`; the plan is the same. -/
theorem interleaved_plan_invariant_under_reloading :
    Registry.ofJsons Interleaved.items = .ok Interleaved.registry ∧
    ∃ items r' p p', Interleaved.registry.toJson.member? "modules" = some (.arr items) ∧
      Registry.ofJsons items = .ok r' ∧ r' ≠ Interleaved.registry ∧
      (Resolver.mk Interleaved.registry FourModules.roomy).resolve Interleaved.target
        Interleaved.env = .ok p ∧
      (Resolver.mk r' FourModules.roomy).resolve Interleaved.target Interleaved.env = .ok p' ∧
      p.ordered = (["B", "C", "D", "A"] : List Text) ∧
      p.ordered = p'.ordered ∧ p.linked = p'.linked ∧ p.dynamic = p'.dynamic := by
  have hread := Interleaved.ofJsons_items
  obtain ⟨items, r', hitems, hreread, -, -, hplans⟩ :=
    plan_invariant_under_reloading Interleaved.items Interleaved.registry hread
  have hother : r' ≠ Interleaved.registry := by
    have hnamed := Registry.named_of_ofJsons hread
    cases hitems
    rw [← Except.ok.inj ((Registry.ofJsons_map_toJson hnamed).symm.trans hreread)]
    exact Interleaved.arranged_ne
  obtain ⟨hiff, hagree⟩ := hplans Interleaved.target Interleaved.env FourModules.roomy ⟨_, rfl⟩
    (by decide)
  have hordered : ((Resolver.mk Interleaved.registry FourModules.roomy).resolve Interleaved.target
      Interleaved.env).toOption.map Plan.ordered = some (["B", "C", "D", "A"] : List Text) := by
    decide +kernel
  obtain ⟨p, hp, hordered⟩ := exists_plan_of_map hordered
  obtain ⟨p', hp'⟩ := hiff.1 ⟨p, hp⟩
  obtain ⟨hsame, hlinked, hdynamic, -⟩ := hagree p p' hp hp'
  exact ⟨hread, items, r', p, p', hitems, hreread, hother, hp, hp', hordered, hsame, hlinked,
    hdynamic⟩

end Resolver

end GatedModules
