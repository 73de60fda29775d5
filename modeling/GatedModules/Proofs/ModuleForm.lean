import GatedModules.Module.Reader
import GatedModules.Proofs.Arrangement
import GatedModules.Proofs.Lookup
import GatedModules.Proofs.PredicateForm

/-!
# The written form of a module

A module is written down with its edges by condition and kind. So what is read back has the same
edges, but in that arrangement: blocks with one condition have become one block.
-/

namespace GatedModules

theorem PchMode.find?_name (mode : PchMode) : vocabulary.find? mode.name = some mode := by
  cases mode <;> decide

/-! ## Reading edges -/

/-- The edges with a condition to names that are listed by kind. -/
def Edge.listed (c : Option Predicate) (names : DependencyKind → List Text) : List Edge :=
  DependencyKind.all.flatMap fun k =>
    (names k).map fun name => { name, kind := k, condition := c }

theorem Edge.mem_listed {c : Option Predicate} {names : DependencyKind → List Text} {e : Edge} :
    e ∈ listed c names ↔ e.condition = c ∧ e.name ∈ names e.kind := by
  rw [listed, List.mem_flatMap]
  constructor
  · rintro ⟨k, -, he⟩
    obtain ⟨name, hname, rfl⟩ := List.mem_map.1 he
    exact ⟨rfl, hname⟩
  · rintro ⟨rfl, hname⟩
    exact ⟨e.kind, e.kind.mem_all, List.mem_map.2 ⟨e.name, hname, rfl⟩⟩

namespace Module

/-- An object lists some names for each kind, none of them empty. -/
def Lists (data : Json) (names : DependencyKind → List Text) : Prop :=
  ∀ k : DependencyKind,
    (data.member? k.name).getD (.arr []) = .texts (names k) ∧ ("" : Text) ∉ names k

theorem lists_nothing {data : Json} (h : ∀ k : DependencyKind, data.member? k.name = none) :
    Lists data fun _ => [] := by
  intro k
  rw [h k]
  exact ⟨rfl, List.not_mem_nil⟩

/-- A block has a condition and lists some names for each kind. -/
def IsBlock (block : Json) (part : Predicate × (DependencyKind → List Text)) : Prop :=
  (∃ value, block.member? "when" = some value ∧ Predicate.ofJson value = .ok part.1) ∧
    Lists block part.2

theorem names?_eq_some_iff {value : Json} {names : List Text} :
    names? value = some names ↔ value = .texts names ∧ ("" : Text) ∉ names := by
  rw [← Json.textList?_eq_some_iff, names?]
  cases value.textList? with
  | none => simp
  | some ts =>
    change (if ts.contains "" then none else some ts) = some names ↔ _
    by_cases hempty : ("" : Text) ∈ ts
    · rw [if_pos (List.contains_iff_mem.2 hempty)]
      simp only [reduceCtorEq, false_iff]
      rintro ⟨hts, hnames⟩
      cases hts
      exact hnames hempty
    · rw [if_neg (mt List.contains_iff_mem.1 hempty)]
      exact (and_iff_left_of_imp fun hts => Option.some.inj hts ▸ hempty).symm

variable {owner : Text} {data block : Json} {blocks : List Json} {es : List Edge}
  {c : Option Predicate}

theorem readKind_eq_ok_iff {k : DependencyKind} :
    readKind owner data c k = .ok es ↔
      ∃ names, ((data.member? k.name).getD (.arr []) = .texts names ∧ ("" : Text) ∉ names) ∧
        es = names.map fun name => { name, kind := k, condition := c } := by
  simp only [← names?_eq_some_iff, readKind]
  cases names? ((data.member? k.name).getD (.arr [])) <;> simp [eq_comm]

theorem readKinds_eq_ok_iff :
    readKinds owner data c = .ok es ↔ ∃ names, Lists data names ∧ es = Edge.listed c names := by
  unfold readKinds
  constructor
  · intro h
    obtain ⟨_, hread, h⟩ := bind_eq_ok_iff.1 h
    obtain ⟨exported, hexported, rfl⟩ := readKind_eq_ok_iff.1 hread
    obtain ⟨_, hread, h⟩ := bind_eq_ok_iff.1 h
    obtain ⟨internal, hinternal, rfl⟩ := readKind_eq_ok_iff.1 hread
    obtain ⟨_, hread, h⟩ := bind_eq_ok_iff.1 h
    obtain ⟨dynamic, hdynamic, rfl⟩ := readKind_eq_ok_iff.1 hread
    cases h
    refine ⟨fun k => if k = .exported then exported else if k = .internal then internal else
      dynamic, ?_, ?_⟩
    · rintro (_ | _ | _)
      · exact hexported
      · exact hinternal
      · exact hdynamic
    · simp [Edge.listed, DependencyKind.all]
  · rintro ⟨names, hnames, rfl⟩
    refine bind_eq_ok_iff.2 ⟨_, readKind_eq_ok_iff.2 ⟨_, hnames .exported, rfl⟩, ?_⟩
    refine bind_eq_ok_iff.2 ⟨_, readKind_eq_ok_iff.2 ⟨_, hnames .internal, rfl⟩, ?_⟩
    refine bind_eq_ok_iff.2 ⟨_, readKind_eq_ok_iff.2 ⟨_, hnames .dynamic, rfl⟩, ?_⟩
    simp [Edge.listed, DependencyKind.all, pure, Except.pure]

theorem readBlock_eq_ok_iff :
    readBlock owner block = .ok es ↔
      ∃ part, IsBlock block part ∧ es = Edge.listed (some part.1) part.2 := by
  unfold readBlock
  constructor
  · intro h
    split at h
    · cases h
    · next value hvalue =>
      obtain ⟨p, hp, h⟩ := bind_eq_ok_iff.1 h
      obtain ⟨names, hnames, rfl⟩ := readKinds_eq_ok_iff.1 h
      exact ⟨(p, names), ⟨⟨value, hvalue, mapError_eq_ok_iff.1 hp⟩, hnames⟩, rfl⟩
  · rintro ⟨⟨p, names⟩, ⟨⟨value, hvalue, hp⟩, hnames⟩, rfl⟩
    rw [hvalue]
    refine bind_eq_ok_iff.2 ⟨p, mapError_eq_ok_iff.2 hp, ?_⟩
    exact readKinds_eq_ok_iff.2 ⟨names, hnames, rfl⟩

theorem readBlocks_eq_ok_iff :
    readBlocks owner blocks = .ok es ↔
      ∃ parts, List.Forall₂ IsBlock blocks parts ∧
        es = parts.flatMap fun part => Edge.listed (some part.1) part.2 := by
  induction blocks generalizing es with
  | nil => simp [readBlocks, eq_comm]
  | cons block blocks ih =>
    unfold readBlocks
    constructor
    · intro h
      obtain ⟨here, hhere, h⟩ := bind_eq_ok_iff.1 h
      obtain ⟨rest, hrest, h⟩ := bind_eq_ok_iff.1 h
      obtain ⟨part, hpart, rfl⟩ := readBlock_eq_ok_iff.1 hhere
      obtain ⟨parts, hparts, rfl⟩ := ih.1 hrest
      cases h
      refine ⟨part :: parts, .cons hpart hparts, ?_⟩
      rw [List.flatMap_cons]
    · rintro ⟨parts, hparts, rfl⟩
      cases hparts with
      | @cons _ part _ parts hpart hparts =>
        refine bind_eq_ok_iff.2 ⟨_, readBlock_eq_ok_iff.2 ⟨part, hpart, rfl⟩, ?_⟩
        refine bind_eq_ok_iff.2 ⟨_, ih.2 ⟨parts, hparts, rfl⟩, ?_⟩
        rw [List.flatMap_cons]
        rfl

theorem readEdges_eq_ok_iff :
    readEdges owner data = .ok es ↔
      ∃ names blocks parts, Lists data names ∧
        (data.member? "conditional").getD (.arr []) = .arr blocks ∧
        List.Forall₂ IsBlock blocks parts ∧
        es = Edge.listed none names ++
          parts.flatMap fun part => Edge.listed (some part.1) part.2 := by
  unfold readEdges
  constructor
  · intro h
    obtain ⟨edges, hedges, h⟩ := bind_eq_ok_iff.1 h
    obtain ⟨names, hnames, rfl⟩ := readKinds_eq_ok_iff.1 hedges
    split at h
    · next blocks hblocks =>
      obtain ⟨rest, hrest, h⟩ := bind_eq_ok_iff.1 h
      obtain ⟨parts, hparts, rfl⟩ := readBlocks_eq_ok_iff.1 hrest
      cases h
      exact ⟨names, blocks, parts, hnames, hblocks, hparts, rfl⟩
    · cases h
  · rintro ⟨names, blocks, parts, hnames, hblocks, hparts, rfl⟩
    refine bind_eq_ok_iff.2 ⟨_, readKinds_eq_ok_iff.2 ⟨names, hnames, rfl⟩, ?_⟩
    rw [hblocks]
    exact bind_eq_ok_iff.2 ⟨_, readBlocks_eq_ok_iff.2 ⟨parts, hparts, rfl⟩, rfl⟩

/-! ## Reading a module -/

theorem ext_parts {m m' : Module} (hname : m.name = m'.name) (hmode : m.pchMode = m'.pchMode)
    (hedges : m.edges = m'.edges) : m = m' := by
  cases m
  cases m'
  rw [Module.mk.injEq]
  exact ⟨hname, hmode, hedges⟩

theorem ofJson_eq_ok_iff {m : Module} :
    ofJson data = .ok m ↔
      data.member? "name" = some (.str m.name) ∧ readMode data = .ok m.pchMode ∧
        ∃ es, readEdges m.name data = .ok es ∧ m.edges = distinct es := by
  unfold ofJson
  constructor
  · intro h
    split at h
    · split at h
      · cases h
      · next name hname =>
        split at h
        · cases h
        · obtain ⟨mode, hmode, h⟩ := bind_eq_ok_iff.1 h
          obtain ⟨es, hes, h⟩ := bind_eq_ok_iff.1 h
          cases h
          exact ⟨hname, hmode, es, hes, rfl⟩
      · cases h
    · cases h
  · -- Only an object has members.
    rintro ⟨hname, hmode, es, hes, hedges⟩
    cases data with
    | obj members =>
      simp only [hname]
      rw [dif_neg m.name_ne]
      refine bind_eq_ok_iff.2 ⟨_, hmode, bind_eq_ok_iff.2 ⟨_, hes, ?_⟩⟩
      exact congrArg Except.ok (ext_parts rfl rfl hedges.symm)
    | _ => cases hname

end Module

/-! ## Modules that can be read -/

/-- An edge leads to a name, and every flag in its condition has one. -/
def Edge.Named (e : Edge) : Prop := e.name ≠ "" ∧ ∀ p, e.condition = some p → p.Named

theorem Edge.named_of_mem_listed {data : Json} {c : Option Predicate}
    {names : DependencyKind → List Text} (hnames : Module.Lists data names)
    (hc : ∀ p, c = some p → p.Named) {e : Edge} (he : e ∈ Edge.listed c names) : e.Named := by
  obtain ⟨rfl, hname⟩ := Edge.mem_listed.1 he
  exact ⟨fun hempty => (hnames e.kind).2 (hempty ▸ hname), hc⟩

namespace Module

def Named (m : Module) : Prop := ∀ e ∈ m.edges, e.Named

theorem named_of_ofJson {data : Json} {m : Module} (h : ofJson data = .ok m) : m.Named := by
  obtain ⟨-, -, es, hes, hedges⟩ := ofJson_eq_ok_iff.1 h
  obtain ⟨names, blocks, parts, hnames, -, hparts, rfl⟩ := readEdges_eq_ok_iff.1 hes
  intro e he
  rw [hedges, mem_distinct, List.mem_append] at he
  rcases he with he | he
  · exact Edge.named_of_mem_listed hnames (fun p hp => by cases hp) he
  · obtain ⟨part, hpart, he⟩ := List.mem_flatMap.1 he
    obtain ⟨block, -, ⟨value, -, hvalue⟩, hlists⟩ := exists_mem_of_forall₂ hparts hpart
    refine Edge.named_of_mem_listed hlists (fun p hp => ?_) he
    cases hp
    exact Predicate.named_of_ofJson hvalue

/-! ## Writing a module -/

/-- The names that the edges with a condition lead to, by kind. -/
def namesUnder (m : Module) (c : Option Predicate) (k : DependencyKind) : List Text :=
  (m.edges.filter fun e => e.condition = c ∧ e.kind = k).map Edge.name

/-- The kinds of the edges with a condition, in the order of their first edges. -/
def kindsUnder (m : Module) (c : Option Predicate) : List DependencyKind :=
  distinct ((m.edges.filter fun e => e.condition = c).map Edge.kind)

variable {m : Module}

theorem mem_kindsUnder {c : Option Predicate} {k : DependencyKind} :
    k ∈ m.kindsUnder c ↔ ∃ e ∈ m.edges, e.condition = c ∧ e.kind = k := by
  simp [kindsUnder, and_assoc]

theorem unconditional_eq (m : Module) (k : DependencyKind) :
    m.unconditional k = m.namesUnder none k := by
  simp only [unconditional, namesUnder, and_comm]

theorem filter_conditionalEdges (m : Module) (p : Predicate) :
    m.conditionalEdges.filter (fun e => e.1 = p) =
      (m.edges.filter fun e => e.condition = some p).map (p, ·) := by
  rw [conditionalEdges]
  induction m.edges with
  | nil => rfl
  | cons e es ih =>
    cases hc : e.condition with
    | none => simp [hc, ih]
    | some q => by_cases hq : q = p <;> simp [hc, hq, ih]

theorem conditionalBlocks_eq (m : Module) :
    m.conditionalBlocks = (Edge.conditions m.edges).map fun p =>
      (p, (m.kindsUnder (some p)).map fun k => (k, m.namesUnder (some p) k)) := by
  have hconditions : m.conditionalEdges.map Prod.fst = m.edges.filterMap Edge.condition := by
    rw [conditionalEdges, List.map_filterMap]
    refine List.filterMap_congr fun e _ => ?_
    cases e.condition <;> rfl
  rw [conditionalBlocks, grouped, hconditions, List.map_map]
  refine List.map_congr_left fun p _ => ?_
  simp only [Function.comp_apply, filter_conditionalEdges, grouped, List.map_map]
  refine congrArg (Prod.mk p) (List.map_congr_left fun k _ => ?_)
  rw [Function.comp_apply, List.filter_map, List.map_map, List.filter_filter, namesUnder]
  refine congrArg (Prod.mk k ∘ List.map Edge.name) (List.filter_congr fun e _ => ?_)
  simp [and_comm]

theorem listed_namesUnder (m : Module) (c : Option Predicate) :
    Edge.listed c (m.namesUnder c) = DependencyKind.all.flatMap fun k =>
      m.edges.filter fun e => e.condition = c ∧ e.kind = k := by
  refine List.flatMap_congr fun k _ => ?_
  rw [namesUnder, List.map_map]
  conv_rhs => rw [← List.map_id (m.edges.filter _)]
  refine List.map_congr_left fun e he => ?_
  obtain ⟨-, rfl, rfl⟩ := by simpa using List.mem_filter.1 he
  rfl

/-- The edges of a module in the arrangement in which they are written down. -/
def arranged (m : Module) : Module where
  name := m.name
  pchMode := m.pchMode
  edges := Edge.arranged m.edges
  name_ne := m.name_ne
  nodup := (Edge.arranged_perm m.edges).nodup_iff.2 m.nodup

theorem arranged_eq_self_iff : m.arranged = m ↔ Edge.Arranged m.edges := by
  rw [← Edge.arranged_eq_self_iff]
  exact ⟨congrArg Module.edges, fun h => ext_parts rfl rfl h⟩

/-! ## Reading what is written -/

theorem kindName_injective : Function.Injective fun k : DependencyKind => (k.name : Text) := by
  intro k l
  cases k <;> cases l <;> decide

theorem names_ne (hm : m.Named) (c : Option Predicate) (k : DependencyKind) :
    ("" : Text) ∉ m.namesUnder c k := by
  intro hempty
  obtain ⟨e, he, hname⟩ := List.mem_map.1 hempty
  exact (hm e (List.mem_filter.1 he).1).1 hname

theorem lists_blockJson (hm : m.Named) (p : Predicate) :
    Lists (blockJson p ((m.kindsUnder (some p)).map fun k => (k, m.namesUnder (some p) k)))
      (m.namesUnder (some p)) := by
  refine fun k => ⟨?_, names_ne hm _ k⟩
  have hwhen : ((k.name : Text) == "when") = false := by cases k <;> decide
  rw [blockJson, List.map_map, Json.member?, List.lookup_cons, hwhen]
  have hlookup := lookup_map_of_injective kindName_injective
    (fun k => Json.texts (m.namesUnder (some p) k)) (m.kindsUnder (some p)) k
  refine (congrArg (Option.getD · (.arr [])) hlookup).trans ?_
  by_cases hk : k ∈ m.kindsUnder (some p)
  · rw [if_pos hk, Option.getD_some]
  · -- Without an edge of this kind there is no member, and no name is wanted.
    have hnone : m.edges.filter (fun e => e.condition = some p ∧ e.kind = k) = [] := by
      refine List.filter_eq_nil_iff.2 fun e he hkey => hk ?_
      exact mem_kindsUnder.2 ⟨e, he, of_decide_eq_true hkey⟩
    rw [if_neg hk, Option.getD_none, namesUnder, hnone]
    rfl

theorem isBlock_blockJson (hm : m.Named) {p : Predicate} (hp : p ∈ Edge.conditions m.edges) :
    IsBlock (blockJson p ((m.kindsUnder (some p)).map fun k => (k, m.namesUnder (some p) k)))
      (p, m.namesUnder (some p)) := by
  obtain ⟨e, he, hc⟩ := Edge.mem_conditions.1 hp
  exact ⟨⟨p.toJson, rfl, Predicate.ofJson_toJson ((hm e he).2 p hc)⟩, lists_blockJson hm p⟩

theorem lists_toJson (hm : m.Named) : Lists m.toJson (m.namesUnder none) := by
  refine fun k => ⟨?_, names_ne hm none k⟩
  rw [← unconditional_eq]
  cases k <;> rfl

theorem readMode_toJson (m : Module) : readMode m.toJson = .ok m.pchMode := by
  have hmode : m.toJson.member? "pch_mode" = some (.str m.pchMode.name) := rfl
  have hread : PchMode.read (.str m.pchMode.name) = .ok m.pchMode :=
    (PchMode.vocabulary.read_str_eq_ok_iff).2 m.pchMode.find?_name
  rw [readMode, hmode, Option.getD_some, hread]
  rfl

theorem conditional_toJson (m : Module) :
    (m.toJson.member? "conditional").getD (.arr []) =
      .arr (m.conditionalBlocks.map fun b => blockJson b.1 b.2) := by
  have hmember : m.toJson.member? "conditional" =
      m.conditionalJson.lookup ("conditional" : Text) := rfl
  rw [hmember, conditionalJson]
  cases m.conditionalBlocks <;> rfl

theorem ofJson_toJson (hm : m.Named) : ofJson m.toJson = .ok m.arranged := by
  refine ofJson_eq_ok_iff.2 ⟨rfl, readMode_toJson m, m.arranged.edges, ?_, ?_⟩
  · refine readEdges_eq_ok_iff.2 ⟨_, _, (Edge.conditions m.edges).map fun p =>
      (p, m.namesUnder (some p)), lists_toJson hm, conditional_toJson m, ?_, ?_⟩
    · rw [conditionalBlocks_eq, List.map_map]
      exact forall₂_map_map fun p hp => isBlock_blockJson hm hp
    · simp only [arranged, Edge.arranged, List.flatMap_cons, List.flatMap_map, listed_namesUnder]
  · exact (distinct_of_nodup m.arranged.nodup).symm

/-! ## Which modules come back as they were -/

/-- The conditions of the blocks of an object, in order. -/
def blockConditions (data : Json) : List Predicate :=
  match (data.member? "conditional").getD (.arr []) with
  | .arr blocks => blocks.filterMap fun block =>
      (block.member? "when").bind fun value => (Predicate.ofJson value).toOption
  | _ => []

theorem blockConditions_eq {data : Json} {blocks : List Json}
    {parts : List (Predicate × (DependencyKind → List Text))}
    (hblocks : (data.member? "conditional").getD (.arr []) = .arr blocks)
    (hparts : List.Forall₂ IsBlock blocks parts) : blockConditions data = parts.map Prod.fst := by
  rw [blockConditions, hblocks]
  clear hblocks -- The induction is on the blocks, which are fixed in this hypothesis.
  induction hparts with
  | nil => rfl
  | @cons block part blocks parts hpart _ ih =>
    obtain ⟨⟨value, hwhen, hcondition⟩, -⟩ := hpart
    have hblock : ((block.member? "when").bind fun value =>
        (Predicate.ofJson value).toOption) = some part.1 := by
      rw [hwhen, Option.bind_some, hcondition]
      rfl
    rw [List.map_cons, ← ih]
    exact List.filterMap_cons_some hblock

end Module

namespace Edge

variable {ps : List Predicate}

theorem pairwise_listed (c : Option Predicate) (names : DependencyKind → List Text) :
    (listed c names).Pairwise fun a b => NotAfter ps a.key b.key := by
  refine List.pairwise_flatMap.2 ⟨fun k _ => ?_, DependencyKind.pairwise_all.imp ?_⟩
  · exact List.pairwise_map.2 (List.pairwise_of_forall fun _ _ => NotAfter.refl (c, k))
  · intro k l hkl a ha b hb
    obtain ⟨_, -, rfl⟩ := List.mem_map.1 ha
    obtain ⟨_, -, rfl⟩ := List.mem_map.1 hb
    exact .inr ⟨rfl, Nat.le_of_lt hkl⟩

theorem pairwise_parts (names : DependencyKind → List Text)
    {parts : List (Predicate × (DependencyKind → List Text))}
    (h : (parts.map Prod.fst).Nodup) :
    (listed none names ++ parts.flatMap fun part => listed (some part.1) part.2).Pairwise
      fun a b => NotAfter (parts.map Prod.fst) a.key b.key := by
  have hplaces := List.pairwise_map.1 (pairwise_conditionPlace h)
  refine List.pairwise_append.2 ⟨pairwise_listed none names, List.pairwise_flatMap.2
    ⟨fun part _ => pairwise_listed (some part.1) part.2, ?_⟩, fun a ha b hb => ?_⟩
  · refine hplaces.imp fun {part part'} hlt a ha b hb => .inl ?_
    rwa [key, key, (mem_listed.1 ha).1, (mem_listed.1 hb).1]
  · obtain ⟨part, -, hb⟩ := List.mem_flatMap.1 hb
    refine .inl ?_
    rw [key, key, (mem_listed.1 ha).1, (mem_listed.1 hb).1]
    exact conditionPlace_none_lt part.1

end Edge

namespace Module

theorem arranged_of_ofJson {data : Json} {m : Module} (h : ofJson data = .ok m)
    (hblocks : (blockConditions data).Nodup) : Edge.Arranged m.edges := by
  obtain ⟨-, -, es, hes, hedges⟩ := ofJson_eq_ok_iff.1 h
  obtain ⟨names, blocks, parts, -, hdata, hparts, rfl⟩ := readEdges_eq_ok_iff.1 hes
  rw [blockConditions_eq hdata hparts] at hblocks
  refine ⟨parts.map Prod.fst, ?_⟩
  rw [hedges]
  exact (Edge.pairwise_parts names hblocks).sublist (distinct_sublist _)

/-- What is written for a module that was read is read again, with the name, the mode and the edges
of the module. The edges come back by condition and kind: the module is the same where they were in
that arrangement before, and so it is where no two blocks have one condition. -/
theorem reread_arranged (data : Json) (m : Module) (h : ofJson data = .ok m) :
    ∃ m', ofJson m.toJson = .ok m' ∧ m'.name = m.name ∧ m'.pchMode = m.pchMode ∧
      m'.edges = Edge.arranged m.edges ∧ m'.edges.Perm m.edges ∧
      (m' = m ↔ Edge.Arranged m.edges) ∧ ((blockConditions data).Nodup → m' = m) := by
  refine ⟨m.arranged, ofJson_toJson (named_of_ofJson h), rfl, rfl, rfl, Edge.arranged_perm m.edges,
    arranged_eq_self_iff, fun hblocks => ?_⟩
  exact arranged_eq_self_iff.2 (arranged_of_ofJson h hblocks)

end Module

/-! ## Blocks around another one -/

namespace Interleaved

def x : Predicate := .featureEnabled "X"

def y : Predicate := .featureEnabled "Y"

def block (flag name : Text) : Json :=
  .obj [("when", .obj [("feature", .str flag)]), ("public", .texts [name])]

/-- The first and the last block have one condition. -/
def data : Json :=
  .obj [("name", .str "A"), ("conditional", .arr [block "X" "B", block "Y" "C", block "X" "D"])]

def module : Module where
  name := "A"
  pchMode := .none
  edges := [⟨"B", .exported, some x⟩, ⟨"C", .exported, some y⟩, ⟨"D", .exported, some x⟩]
  name_ne := by decide
  nodup := by decide

def only (name : Text) (k : DependencyKind) : List Text := if k = .exported then [name] else []

theorem isBlock_block {flag name : Text} (hflag : flag ≠ "") (hname : name ≠ "") :
    Module.IsBlock (block flag name) (.featureEnabled flag, only name) := by
  refine ⟨⟨.obj [("feature", .str flag)], rfl, Predicate.ofJson_of_form ⟨rfl, hflag⟩⟩, fun k => ?_⟩
  cases k
  · exact ⟨rfl, by simpa [only] using hname.symm⟩
  · exact ⟨rfl, List.not_mem_nil⟩
  · exact ⟨rfl, List.not_mem_nil⟩

theorem ofJson_data : Module.ofJson data = .ok module := by
  have hmode : Module.readMode data = .ok .none := by decide
  have hblocks : List.Forall₂ Module.IsBlock [block "X" "B", block "Y" "C", block "X" "D"]
      [(x, only "B"), (y, only "C"), (x, only "D")] :=
    .cons (isBlock_block (by decide) (by decide)) (.cons (isBlock_block (by decide) (by decide))
      (.cons (isBlock_block (by decide) (by decide)) .nil))
  have hlists : Module.Lists data fun _ => [] :=
    Module.lists_nothing (by rintro (_ | _ | _) <;> rfl)
  have hedges : Module.readEdges "A" data = .ok module.edges :=
    Module.readEdges_eq_ok_iff.2 ⟨_, _, _, hlists, rfl, hblocks, rfl⟩
  exact Module.ofJson_eq_ok_iff.2 ⟨rfl, hmode, module.edges, hedges, by decide⟩

theorem arranged_names :
    (Edge.arranged module.edges).map Edge.name = (["B", "D", "C"] : List Text) := by decide

theorem names_ne : module.edges.map Edge.name ≠ (["B", "D", "C"] : List Text) := by decide

end Interleaved

namespace Module

/-- The three edges come back, but `D` stands beside `B`. -/
theorem interleaved_reread_arranged :
    ofJson Interleaved.data = .ok Interleaved.module ∧
    ∃ m', ofJson Interleaved.module.toJson = .ok m' ∧
      m'.edges.map Edge.name = (["B", "D", "C"] : List Text) ∧
      m'.edges.Perm Interleaved.module.edges ∧ ¬ Edge.Arranged Interleaved.module.edges := by
  obtain ⟨m', hm', -, -, hedges, hperm, hiff, -⟩ :=
    reread_arranged Interleaved.data Interleaved.module Interleaved.ofJson_data
  have hnames := Interleaved.arranged_names
  rw [← hedges] at hnames
  refine ⟨Interleaved.ofJson_data, m', hm', hnames, hperm, fun harranged => ?_⟩
  rw [hiff.2 harranged] at hnames
  exact Interleaved.names_ne hnames

/-- What is written for a module that was read need not be read as that module. -/
theorem interleaved_reread_ne :
    ∃ m m', ofJson Interleaved.data = .ok m ∧ ofJson m.toJson = .ok m' ∧ m' ≠ m := by
  have hread := Interleaved.ofJson_data
  refine ⟨Interleaved.module, Interleaved.module.arranged, hread,
    ofJson_toJson (named_of_ofJson hread), fun hsame => ?_⟩
  have hnames := Interleaved.arranged_names
  rw [Edge.arranged_eq_self_iff.2 (arranged_eq_self_iff.1 hsame)] at hnames
  exact Interleaved.names_ne hnames

end Module

end GatedModules
