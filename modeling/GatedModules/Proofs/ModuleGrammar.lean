import GatedModules.Proofs.ModuleForm
import GatedModules.Proofs.PredicateGrammar
import Mathlib.Order.WellFounded

/-!
# The grammar of module descriptors

A value is read as a module just where its members are in order, and then the module has the edges
that stand there, each where it occurs first. Any other value has a first fault, and that is what
reading it reports.
-/

namespace GatedModules

/-! ## The words for a mode -/

namespace PchMode

/-- A word is one of the spellings of a mode, up to letter case. -/
def Spells (word : Text) (mode : PchMode) : Prop :=
  ∃ w ∈ vocabulary.words, w.2 = mode ∧ Text.lower w.1 = Text.lower word

theorem lower_words_nodup : (vocabulary.words.map fun w => Text.lower w.1).Nodup := by
  decide +kernel

theorem find?_eq_some_iff {word : Text} {mode : PchMode} :
    vocabulary.find? word = some mode ↔ Spells word mode :=
  Vocabulary.find?_eq_some_iff lower_words_nodup

/-- What is wrong with a value that stands for no mode. -/
inductive Fault : Json → WordError → Prop
  | notText {value : Json} (hvalue : ∀ word, value ≠ .str word) :
    Fault value (.notText "Precompiled header mode" value)
  | unknown {word : Text} (hword : ∀ mode, ¬ Spells word mode) :
    Fault (.str word) (.unknown "precompiled header mode" word [])

theorem read_of_spells {word : Text} {mode : PchMode} (h : Spells word mode) :
    read (.str word) = .ok mode :=
  vocabulary.read_str_eq_ok_iff.2 (find?_eq_some_iff.2 h)

theorem read_of_fault {value : Json} {e : WordError} (h : Fault value e) :
    read value = .error e := by
  cases h with
  | notText hvalue =>
    unfold read Vocabulary.read
    split
    · exact absurd rfl (hvalue _)
    · rfl
  | @unknown word hword =>
    have hnone : vocabulary.find? word = Option.none :=
      Option.eq_none_iff_forall_ne_some.2 fun mode h => hword mode (find?_eq_some_iff.1 h)
    unfold read Vocabulary.read
    dsimp only
    rw [hnone]
    rfl

theorem spells_or_fault (value : Json) :
    (∃ word mode, value = .str word ∧ Spells word mode) ∨ ∃ e, Fault value e := by
  by_cases hvalue : ∀ word, value ≠ .str word
  · exact .inr ⟨_, .notText hvalue⟩
  · push Not at hvalue
    obtain ⟨word, rfl⟩ := hvalue
    by_cases hword : ∀ mode, ¬ Spells word mode
    · exact .inr ⟨_, .unknown hword⟩
    · push Not at hword
      obtain ⟨mode, hmode⟩ := hword
      exact .inl ⟨word, mode, rfl, hmode⟩

end PchMode

namespace Module

/-! ## Lists of names -/

/-- What an object has under a kind, if anything, is a list of names, none of them empty. -/
def ListsNames (data : Json) (kind : DependencyKind) : Prop :=
  ∀ value, data.member? kind.name = some value →
    ∃ names : List Text, value = .texts names ∧ ("" : Text) ∉ names

/-- A kind is the first under which an object has something else than a list of names. -/
def FirstUnlisted (data : Json) (kind : DependencyKind) : Prop :=
  ¬ ListsNames data kind ∧ ∀ k : DependencyKind, k.place < kind.place → ListsNames data k

/-- The names that an object has under a kind. -/
def namesIn (data : Json) (kind : DependencyKind) : List Text :=
  match data.member? kind.name with
  | some (.arr items) => items.filterMap Json.text?
  | _ => []

variable {owner : Text} {data block : Json} {kind : DependencyKind} {c : Option Predicate}

theorem namesIn_of_member {names : List Text}
    (h : data.member? kind.name = some (.texts names)) : namesIn data kind = names := by
  unfold namesIn
  rw [h]
  exact (List.filterMap_map).trans List.filterMap_some

theorem lists_namesIn (h : ∀ kind, ListsNames data kind) : Lists data (namesIn data) := by
  intro kind
  cases hvalue : data.member? kind.name with
  | none =>
    rw [namesIn, hvalue]
    exact ⟨rfl, List.not_mem_nil⟩
  | some value =>
    obtain ⟨names, rfl, hnames⟩ := h kind value hvalue
    rw [namesIn_of_member hvalue]
    exact ⟨rfl, hnames⟩

theorem listsNames_iff : ListsNames data kind ↔
    ∃ names, names? ((data.member? kind.name).getD (.arr [])) = some names := by
  simp only [names?_eq_some_iff, ListsNames]
  cases data.member? kind.name with
  | none => simpa using ⟨[], rfl, List.not_mem_nil⟩
  | some value => simp

theorem readKinds_of_listsNames (h : ∀ kind, ListsNames data kind) :
    readKinds owner data c = .ok (Edge.listed c (namesIn data)) :=
  readKinds_eq_ok_iff.2 ⟨_, lists_namesIn h, rfl⟩

theorem readKind_of_listsNames (h : ListsNames data kind) :
    ∃ es, readKind owner data c kind = .ok es := by
  obtain ⟨names, hnames⟩ := listsNames_iff.1 h
  exact ⟨_, by rw [readKind, hnames]⟩

theorem readKind_of_not_listsNames (h : ¬ ListsNames data kind) :
    readKind owner data c kind = .error (.notNames owner kind.name) := by
  rw [listsNames_iff, not_exists] at h
  rw [readKind, Option.eq_none_iff_forall_ne_some.2 h]

theorem readKinds_of_firstUnlisted (h : FirstUnlisted data kind) :
    readKinds owner data c = .error (.notNames owner kind.name) := by
  -- The reader goes through the kinds in their order, and those before this one are in order.
  obtain ⟨hkind, hbefore⟩ := h
  have hunlisted : readKind owner data c kind = .error (.notNames owner kind.name) :=
    readKind_of_not_listsNames hkind
  have hlisted : ∀ k : DependencyKind, k.place < kind.place →
      ∃ es, readKind owner data c k = .ok es := fun k hk => readKind_of_listsNames (hbefore k hk)
  rw [readKinds]
  cases kind with
  | exported =>
    rw [hunlisted]
    rfl
  | internal =>
    obtain ⟨_, hexported⟩ := hlisted .exported (by decide)
    rw [hexported, hunlisted]
    rfl
  | dynamic =>
    obtain ⟨_, hexported⟩ := hlisted .exported (by decide)
    obtain ⟨_, hinternal⟩ := hlisted .internal (by decide)
    rw [hexported, hinternal, hunlisted]
    rfl

theorem listed_or_firstUnlisted (data : Json) :
    (∀ kind, ListsNames data kind) ∨ ∃ kind, FirstUnlisted data kind := by
  by_cases h : ∀ kind, ListsNames data kind
  · exact .inl h
  · push Not at h
    obtain ⟨kind, hkind, hfirst⟩ :=
      WellFounded.has_min (measure DependencyKind.place).wf { k | ¬ ListsNames data k } h
    refine .inr ⟨kind, hkind, fun k hk => ?_⟩
    by_contra hbad
    exact hfirst k hbad hk

/-! ## Blocks -/

/-- A block of conditional edges has a condition and lists of names. -/
structure BlockGrammar (block : Json) : Prop where
  condition : ∃ value, block.member? "when" = some value ∧ Predicate.Grammar value
  lists : ∀ kind, ListsNames block kind

/-- What is wrong with a block first. -/
inductive BlockFault (owner : Text) (block : Json) : ReadError → Prop
  | noCondition (hwhen : block.member? "when" = none) : BlockFault owner block (.noCondition owner)
  | condition {value : Json} {e : Predicate.ReadError} (hwhen : block.member? "when" = some value)
    (hvalue : Predicate.FirstFault value e) : BlockFault owner block (.condition owner e)
  | names {value : Json} {kind : DependencyKind} (hwhen : block.member? "when" = some value)
    (hvalue : Predicate.Grammar value) (hkind : FirstUnlisted block kind) :
    BlockFault owner block (.notNames owner kind.name)

/-- The condition of a block. -/
def conditionIn (block : Json) : Option Predicate :=
  (block.member? "when").bind fun value => (Predicate.ofJson value).toOption

/-- The edges of some blocks, each with the condition of its block. -/
def blockEdges (blocks : List Json) : List Edge :=
  blocks.flatMap fun block => Edge.listed (conditionIn block) (namesIn block)

variable {before after blocks : List Json} {e : ReadError}

theorem readBlock_of_grammar (h : BlockGrammar block) :
    readBlock owner block = .ok (Edge.listed (conditionIn block) (namesIn block)) := by
  obtain ⟨value, hwhen, hvalue⟩ := h.condition
  obtain ⟨p, hp⟩ := Predicate.exists_ofJson_of_grammar hvalue
  have hcondition : conditionIn block = some p := by
    rw [conditionIn, hwhen, Option.bind_some, hp]
    rfl
  rw [hcondition]
  exact readBlock_eq_ok_iff.2 ⟨(p, namesIn block), ⟨⟨value, hwhen, hp⟩, lists_namesIn h.lists⟩, rfl⟩

theorem readBlock_of_fault (h : BlockFault owner block e) : readBlock owner block = .error e := by
  unfold readBlock
  cases h with
  | noCondition hwhen => rw [hwhen]
  | condition hwhen hvalue =>
    rw [hwhen]
    dsimp only
    rw [Predicate.ofJson_of_firstFault hvalue]
    rfl
  | names hwhen hvalue hkind =>
    obtain ⟨p, hp⟩ := Predicate.exists_ofJson_of_grammar hvalue
    rw [hwhen]
    dsimp only
    rw [hp]
    exact readKinds_of_firstUnlisted hkind

theorem block_or_fault (owner : Text) (block : Json) :
    BlockGrammar block ∨ ∃ e, BlockFault owner block e := by
  cases hwhen : block.member? "when" with
  | none => exact .inr ⟨_, .noCondition hwhen⟩
  | some value =>
    rcases Predicate.grammar_or_firstFault value with hvalue | ⟨e, hvalue⟩
    · rcases listed_or_firstUnlisted block with hlists | ⟨kind, hkind⟩
      · exact .inl ⟨⟨value, hwhen, hvalue⟩, hlists⟩
      · exact .inr ⟨_, .names hwhen hvalue hkind⟩
    · exact .inr ⟨_, .condition hwhen hvalue⟩

theorem readBlocks_of_grammar (h : ∀ block ∈ blocks, BlockGrammar block) :
    readBlocks owner blocks = .ok (blockEdges blocks) := by
  induction blocks with
  | nil => rfl
  | cons block blocks ih =>
    obtain ⟨hblock, hblocks⟩ := List.forall_mem_cons.1 h
    rw [readBlocks, readBlock_of_grammar hblock, ih hblocks]
    rfl

theorem readBlocks_of_fault (hbefore : ∀ b ∈ before, BlockGrammar b)
    (hblock : BlockFault owner block e) :
    readBlocks owner (before ++ block :: after) = .error e := by
  induction before with
  | nil =>
    rw [List.nil_append, readBlocks, readBlock_of_fault hblock]
    rfl
  | cons b before ih =>
    obtain ⟨hb, hrest⟩ := List.forall_mem_cons.1 hbefore
    rw [List.cons_append, readBlocks, readBlock_of_grammar hb, ih hrest]
    rfl

theorem blocks_or_fault (owner : Text) (blocks : List Json) :
    (∀ block ∈ blocks, BlockGrammar block) ∨
      ∃ before block after e, blocks = before ++ block :: after ∧
        (∀ b ∈ before, BlockGrammar b) ∧ BlockFault owner block e := by
  refine (forall_or_first BlockGrammar blocks).imp_right ?_
  rintro ⟨before, block, after, rfl, hbefore, hblock⟩
  obtain ⟨e, he⟩ := (block_or_fault owner block).resolve_left hblock
  exact ⟨before, block, after, e, rfl, hbefore, he⟩

/-! ## Descriptors -/

/-- An object gives its name, which is not empty. -/
def NamedBy (data : Json) (name : Text) : Prop :=
  data.member? "name" = some (.str name) ∧ name ≠ ""

/-- An object gives a mode by a word for it, and without a word it gives the mode `none`. -/
inductive GivesMode (data : Json) : PchMode → Prop
  | absent (habsent : data.member? "pch_mode" = none) : GivesMode data .none
  | word {word : Text} {mode : PchMode} (hvalue : data.member? "pch_mode" = some (.str word))
    (hword : PchMode.Spells word mode) : GivesMode data mode

/-- The values that describe modules. Members that are not named here do not matter. -/
structure Grammar (data : Json) : Prop where
  name : ∃ name, NamedBy data name
  mode : ∃ mode, GivesMode data mode
  lists : ∀ kind, ListsNames data kind
  blocks : ∀ value, data.member? "conditional" = some value →
    ∃ blocks, value = .arr blocks ∧ ∀ block ∈ blocks, BlockGrammar block

/-- What is wrong with a value first, in the order of name, mode, lists and blocks. -/
inductive FirstFault (data : Json) : ReadError → Prop
  | notObject (hdata : ∀ members, data ≠ .obj members) : FirstFault data (.notObject data)
  | missingName {members : List (Text × Json)} (hdata : data = .obj members)
    (hname : data.member? "name" = none) : FirstFault data .missingName
  | invalidName {value : Json} (hname : data.member? "name" = some value)
    (hvalue : ∀ name : Text, name ≠ "" → value ≠ .str name) : FirstFault data (.invalidName value)
  | mode {name : Text} {value : Json} {e : WordError} (hname : NamedBy data name)
    (hmode : data.member? "pch_mode" = some value) (hvalue : PchMode.Fault value e) :
    FirstFault data (.pchMode e)
  | names {name : Text} {mode : PchMode} {kind : DependencyKind} (hname : NamedBy data name)
    (hmode : GivesMode data mode) (hkind : FirstUnlisted data kind) :
    FirstFault data (.notNames name kind.name)
  | notBlocks {name : Text} {mode : PchMode} {value : Json} (hname : NamedBy data name)
    (hmode : GivesMode data mode) (hlists : ∀ kind, ListsNames data kind)
    (hblocks : data.member? "conditional" = some value) (hvalue : ∀ blocks, value ≠ .arr blocks) :
    FirstFault data (.notBlocks name)
  | block {name : Text} {mode : PchMode} {before after : List Json} {block : Json} {e : ReadError}
    (hname : NamedBy data name) (hmode : GivesMode data mode)
    (hlists : ∀ kind, ListsNames data kind)
    (hblocks : data.member? "conditional" = some (.arr (before ++ block :: after)))
    (hbefore : ∀ b ∈ before, BlockGrammar b) (hblock : BlockFault name block e) :
    FirstFault data e

/-- The blocks of conditional edges that an object has. -/
def blocksIn (data : Json) : List Json :=
  match data.member? "conditional" with
  | some (.arr blocks) => blocks
  | _ => []

/-- The edges that stand in an object, in order: those of its three lists and then, block by block,
those of the lists there, with the condition of the block. -/
def edgesIn (data : Json) : List Edge :=
  Edge.listed none (namesIn data) ++ blockEdges (blocksIn data)

/-- What a descriptor says of a module. Of edges with one kind, name and condition only the first is
kept. -/
structure Describes (data : Json) (m : Module) : Prop where
  name : data.member? "name" = some (.str m.name)
  mode : GivesMode data m.pchMode
  edges : FirstOccurrences m.edges (edgesIn data)

/-! ## What is described is read -/

variable {name : Text} {mode : PchMode} {m m' : Module}

theorem readMode_of_givesMode (h : GivesMode data mode) : readMode data = .ok mode := by
  unfold readMode
  cases h with
  | absent habsent =>
    have hspells : PchMode.Spells PchMode.none.name .none := ⟨_, List.mem_cons_self, rfl, rfl⟩
    rw [habsent, Option.getD_none, PchMode.read_of_spells hspells]
    rfl
  | word hvalue hword =>
    rw [hvalue, Option.getD_some, PchMode.read_of_spells hword]
    rfl

theorem blockGrammar_of_mem (h : Grammar data) : ∀ block ∈ blocksIn data, BlockGrammar block := by
  unfold blocksIn
  split
  · next blocks hblocks =>
    obtain ⟨_, heq, hgrammar⟩ := h.blocks _ hblocks
    cases heq
    exact hgrammar
  · intro block hblock
    cases hblock

theorem readEdges_of_blocks {blocks : List Json} (hlists : ∀ kind, ListsNames data kind)
    (h : (data.member? "conditional").getD (.arr []) = .arr blocks) :
    readEdges owner data =
      (readBlocks owner blocks).map (Edge.listed none (namesIn data) ++ ·) := by
  rw [readEdges, readKinds_of_listsNames hlists, h]
  change (readBlocks owner blocks >>= fun es => .ok (Edge.listed none (namesIn data) ++ es)) = _
  cases readBlocks owner blocks <;> rfl

theorem readEdges_of_grammar (h : Grammar data) : readEdges owner data = .ok (edgesIn data) := by
  have hblocks : (data.member? "conditional").getD (.arr []) = .arr (blocksIn data) := by
    unfold blocksIn
    cases hvalue : data.member? "conditional" with
    | none => rfl
    | some value =>
      obtain ⟨blocks, rfl, -⟩ := h.blocks value hvalue
      rfl
  rw [readEdges_of_blocks h.lists hblocks, readBlocks_of_grammar (blockGrammar_of_mem h)]
  rfl

theorem exists_ofJson_of_grammar (h : Grammar data) :
    ∃ m, ofJson data = .ok m ∧ Describes data m := by
  obtain ⟨name, hname, hne⟩ := h.name
  obtain ⟨mode, hmode⟩ := h.mode
  refine ⟨ofEdges name mode (edgesIn data) hne, ?_, ⟨hname, hmode, firstOccurrences_distinct _⟩⟩
  exact ofJson_eq_ok_iff.2
    ⟨hname, readMode_of_givesMode hmode, edgesIn data, readEdges_of_grammar h, rfl⟩

theorem Describes.unique (h : Describes data m) (h' : Describes data m') : m = m' := by
  have hname := Option.some.inj (h.name.symm.trans h'.name)
  have hmode := readMode_of_givesMode h.mode
  rw [readMode_of_givesMode h'.mode] at hmode
  exact ext_parts (Json.str.inj hname) (Except.ok.inj hmode).symm (h.edges.unique h'.edges)

/-! ## The first fault is reported -/

theorem ofJson_of_namedBy (h : NamedBy data name) : ofJson data = (do
    let mode ← readMode data
    let edges ← readEdges name data
    return ofEdges name mode edges h.2) := by
  cases data with
  | obj members =>
    unfold ofJson
    simp only [h.1]
    rw [dif_neg h.2]
  | _ => cases h.1

theorem ofJson_of_invalidName {value : Json} (hname : data.member? "name" = some value)
    (hvalue : ∀ name : Text, name ≠ "" → value ≠ .str name) :
    ofJson data = .error (.invalidName value) := by
  cases data with
  | obj members =>
    unfold ofJson
    simp only [hname]
    split
    · next heq => cases heq
    · next name heq =>
      cases heq
      have hempty : name = "" := by
        by_contra hne
        exact hvalue name hne rfl
      rw [dif_pos hempty]
    · next heq =>
      cases heq
      rfl
  | _ => cases hname

theorem readEdges_of_notBlocks {value : Json} (hlists : ∀ kind, ListsNames data kind)
    (hblocks : data.member? "conditional" = some value) (hvalue : ∀ blocks, value ≠ .arr blocks) :
    readEdges owner data = .error (.notBlocks owner) := by
  rw [readEdges, readKinds_of_listsNames hlists, hblocks]
  dsimp only [Option.getD_some]
  split
  · exact absurd rfl (hvalue _)
  · rfl

theorem ofJson_of_firstFault (h : FirstFault data e) : ofJson data = .error e := by
  cases h with
  | notObject hdata =>
    unfold ofJson
    split
    · exact absurd rfl (hdata _)
    · rfl
  | missingName hdata hname =>
    subst hdata
    unfold ofJson
    rw [hname]
  | invalidName hname hvalue => exact ofJson_of_invalidName hname hvalue
  | mode hname hmode hvalue =>
    rw [ofJson_of_namedBy hname, readMode, hmode, Option.getD_some, PchMode.read_of_fault hvalue]
    rfl
  | names hname hmode hkind =>
    rw [ofJson_of_namedBy hname, readMode_of_givesMode hmode, readEdges,
      readKinds_of_firstUnlisted hkind]
    rfl
  | notBlocks hname hmode hlists hblocks hvalue =>
    rw [ofJson_of_namedBy hname, readMode_of_givesMode hmode,
      readEdges_of_notBlocks hlists hblocks hvalue]
    rfl
  | block hname hmode hlists hblocks hbefore hblock =>
    -- The member is there, so its default is not read.
    have hmember := congrArg (Option.getD · (.arr [])) hblocks
    rw [ofJson_of_namedBy hname, readMode_of_givesMode hmode,
      readEdges_of_blocks hlists hmember, readBlocks_of_fault hbefore hblock]
    rfl

/-! ## Every value is described or faulty -/

theorem namedBy_or_firstFault (data : Json) :
    (∃ name, NamedBy data name) ∨ ∃ e, FirstFault data e := by
  by_cases hdata : ∀ members, data ≠ .obj members
  · exact .inr ⟨_, .notObject hdata⟩
  push Not at hdata
  obtain ⟨members, hobj⟩ := hdata
  cases hname : data.member? "name" with
  | none => exact .inr ⟨_, .missingName hobj hname⟩
  | some value =>
    by_cases hvalue : ∀ name : Text, name ≠ "" → value ≠ .str name
    · exact .inr ⟨_, .invalidName hname hvalue⟩
    · push Not at hvalue
      obtain ⟨name, hne, rfl⟩ := hvalue
      exact .inl ⟨name, hname, hne⟩

theorem givesMode_or_firstFault (hname : NamedBy data name) :
    (∃ mode, GivesMode data mode) ∨ ∃ e, FirstFault data e := by
  cases hmode : data.member? "pch_mode" with
  | none => exact .inl ⟨.none, .absent hmode⟩
  | some value =>
    rcases PchMode.spells_or_fault value with ⟨word, mode, rfl, hword⟩ | ⟨e, hvalue⟩
    · exact .inl ⟨mode, .word hmode hword⟩
    · exact .inr ⟨_, .mode hname hmode hvalue⟩

theorem grammar_or_firstFault_of_lists (hname : NamedBy data name) (hmode : GivesMode data mode)
    (hlists : ∀ kind, ListsNames data kind) : Grammar data ∨ ∃ e, FirstFault data e := by
  cases hvalue : data.member? "conditional" with
  | none =>
    exact .inl ⟨⟨name, hname⟩, ⟨mode, hmode⟩, hlists, fun _ h => by cases hvalue.symm.trans h⟩
  | some value =>
    by_cases harr : ∀ blocks, value ≠ .arr blocks
    · exact .inr ⟨_, .notBlocks hname hmode hlists hvalue harr⟩
    push Not at harr
    obtain ⟨blocks, rfl⟩ := harr
    rcases blocks_or_fault name blocks with
      hblocks | ⟨before, block, after, e, rfl, hbefore, hblock⟩
    · refine .inl ⟨⟨name, hname⟩, ⟨mode, hmode⟩, hlists, fun value' h => ?_⟩
      cases hvalue.symm.trans h
      exact ⟨blocks, rfl, hblocks⟩
    · exact .inr ⟨e, .block hname hmode hlists hvalue hbefore hblock⟩

theorem grammar_or_firstFault (data : Json) : Grammar data ∨ ∃ e, FirstFault data e := by
  rcases namedBy_or_firstFault data with ⟨name, hname⟩ | hfault
  · rcases givesMode_or_firstFault hname with ⟨mode, hmode⟩ | hfault
    · rcases listed_or_firstUnlisted data with hlists | ⟨kind, hkind⟩
      · exact grammar_or_firstFault_of_lists hname hmode hlists
      · exact .inr ⟨_, .names hname hmode hkind⟩
    · exact .inr hfault
  · exact .inr hfault

theorem ofJson_settled (data : Json) :
    Settled (ofJson data) (Grammar data) (FirstFault data) where
  ok_of_good h := (exists_ofJson_of_grammar h).imp fun _ => And.left
  error_of_fault _ := ofJson_of_firstFault
  good_or_fault := grammar_or_firstFault data

theorem ofJson_eq_ok_iff_describes : ofJson data = .ok m ↔ Grammar data ∧ Describes data m := by
  constructor
  · intro h
    have hgrammar := (ofJson_settled data).exists_ok_iff.1 ⟨m, h⟩
    obtain ⟨m', hm', hdescribes⟩ := exists_ofJson_of_grammar hgrammar
    cases h.symm.trans hm'
    exact ⟨hgrammar, hdescribes⟩
  · rintro ⟨hgrammar, hdescribes⟩
    obtain ⟨m', hm', hdescribes'⟩ := exists_ofJson_of_grammar hgrammar
    rw [hm', hdescribes'.unique hdescribes]

/-- A value is read as a module just where its members are in order, and the module is the one that
it describes. Reading any other value reports its first fault. -/
theorem read_as_described (data : Json) :
    ((∃ m, ofJson data = .ok m) ↔ Grammar data) ∧
    (∀ m, ofJson data = .ok m ↔ Grammar data ∧ Describes data m) ∧
    (¬ Grammar data ↔ ∃ e, ofJson data = .error e) ∧
    ∀ e, ofJson data = .error e ↔ FirstFault data e := by
  have hsettled := ofJson_settled data
  exact ⟨hsettled.exists_ok_iff, fun _ => ofJson_eq_ok_iff_describes, hsettled.not_good_iff,
    fun _ => hsettled.error_iff⟩

end Module

end GatedModules
