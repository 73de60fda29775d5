import GatedModules.Plan.Serialized
import GatedModules.Proofs.Gathering
import GatedModules.Proofs.ReadingBack

/-!
# What a plan loses when it is written

Nothing: from the text of a plan its serialized form is read back, and that form keeps every list of
the plan in its order.
-/

namespace GatedModules

/-! ## Serialized plans -/

namespace SerializedPlan

/-- The keys of a serialized plan's modes are names. -/
def NamedModes (p : SerializedPlan) : Prop := ∀ e ∈ p.pchModes, ∃ name, e.1 = .str name

theorem toEntries_entriesJson {entries : List (Json × Json)}
    (named : ∀ e ∈ entries, ∃ name, e.1 = .str name) :
    (entriesJson entries).toEntries = .ok entries := by
  have hentries : ∀ e ∈ entries, (Json.str e.1.keyText, e.2) = id e := by
    intro e he
    obtain ⟨name, hname⟩ := named e he
    rw [hname, Json.keyText, ← hname, id]
  rw [entriesJson, Json.toEntries, List.map_map]
  exact congrArg _ ((List.map_congr_left hentries).trans (List.map_id _))

theorem ofJson_toJson {p : SerializedPlan} (named : p.NamedModes) : ofJson p.toJson = .ok p := by
  have htarget : p.toJson.member? "target" = some p.target := rfl
  have hordered : p.toJson.member? "ordered_modules" = some (.arr p.ordered) := rfl
  have hlinked : p.toJson.member? "link_set" = some (.arr p.linked) := rfl
  have hdynamic : p.toJson.member? "dynamic_set" = some (.arr p.dynamic) := rfl
  have hmodes : p.toJson.member? "precompiled_header_modes" = some (entriesJson p.pchModes) := rfl
  have hcompile : p.toJson.member? "compile_flags" = some (.arr p.compile) := rfl
  have hlink : p.toJson.member? "link_flags" = some (.arr p.link) := rfl
  have hdefinitions : p.toJson.member? "definitions" = some (.arr p.definitions) := rfl
  have hversion : p.toJson.member? "schema_version" = some p.schemaVersion := rfl
  have helements (items : List Json) : elements (.arr items) = .ok items := rfl
  have hread : ofJson p.toJson = ofMembers p.toJson := rfl
  rw [hread]
  simp only [ofMembers, member, elementsOrNone, htarget, hordered, hlinked, hdynamic, hmodes,
    hcompile, hlink, hdefinitions, hversion, Option.getD_some, helements,
    toEntries_entriesJson named]
  rfl

end SerializedPlan

/-! ## Plans -/

namespace Plan

/-- Every text in a plan is whole. -/
structure Whole (p : Plan) : Prop where
  target : p.target.Whole
  ordered : ∀ t ∈ p.ordered, t.Whole
  linked : ∀ t ∈ p.linked, t.Whole
  dynamic : ∀ t ∈ p.dynamic, t.Whole
  compile : ∀ t ∈ p.flags.compile, t.Whole
  link : ∀ t ∈ p.flags.link, t.Whole
  definitions : ∀ t ∈ p.flags.definitions, t.Whole

theorem namedModes_serialize (p : Plan) : p.serialize.NamedModes := by
  intro e he
  obtain ⟨name, -, rfl⟩ := List.mem_map.1 he
  exact ⟨name, rfl⟩

theorem legible_texts {ts : List Text} (whole : ∀ t ∈ ts, t.Whole) (depth : Nat) :
    Json.Legible (depth + 1) (.arr (ts.map .str)) := by
  refine .arr fun v hv => ?_
  obtain ⟨t, ht, rfl⟩ := List.mem_map.1 hv
  exact .str (whole t ht)

theorem legible_modes (p : Plan) (whole : ∀ t ∈ p.ordered, t.Whole) (depth : Nat) :
    Json.Legible (depth + 1) (SerializedPlan.entriesJson p.serialize.pchModes) := by
  have hmembers : p.serialize.pchModes.map (fun e => (e.1.keyText, e.2)) =
      (distinct p.ordered).map fun name => (name, .str (p.pchModeOf name).name) := by
    rw [serialize, List.map_map]
    rfl
  rw [SerializedPlan.entriesJson, hmembers]
  refine .obj ?_ (fun m hm => ?_) (fun m hm => ?_)
  · rw [List.map_map]
    exact (List.map_id (distinct p.ordered)).symm ▸ nodup_distinct p.ordered
  all_goals obtain ⟨name, hname, rfl⟩ := List.mem_map.1 hm
  · exact whole name (mem_distinct.1 hname)
  · exact .str (Text.whole_ofString _)

/-- The names of the members of a serialized plan. -/
def memberNames : List String := [
  "target", "ordered_modules", "link_set", "dynamic_set", "precompiled_header_modes",
  "compile_flags", "link_flags", "definitions", "schema_version"]

theorem legible_toJson {p : Plan} (whole : p.Whole) :
    Json.Legible Json.depthLimit p.serialize.toJson := by
  have hnodup : (memberNames.map Text.ofString).Nodup := by decide
  unfold SerializedPlan.toJson
  refine .obj hnodup (fun m hm => ?_) ?_
  · have hname : m.1 ∈ memberNames.map Text.ofString := List.mem_map_of_mem (f := (·.1)) hm
    obtain ⟨name, -, hname⟩ := List.mem_map.1 hname
    rw [← hname]
    exact Text.whole_ofString name
  · simp only [List.forall_mem_cons]
    exact ⟨.str whole.target, legible_texts whole.ordered _, legible_texts whole.linked _,
      legible_texts whole.dynamic _, legible_modes p whole.ordered _, legible_texts whole.compile _,
      legible_texts whole.link _, legible_texts whole.definitions _, .int (by decide), by simp⟩

end Plan

/-! ## What is read back -/

/-- The layout for a number of spaces per level; without a number everything stands on one line. -/
def Json.Layout.ofIndent : Option Int → Json.Layout
  | none => .line
  | some n => .spaces n

/-- A serialized plan has the lists of a plan in their order, and a mode for each of its modules. -/
structure SerializedPlan.Keeps (s : SerializedPlan) (p : Plan) : Prop where
  target : s.target = .str p.target
  ordered : s.ordered = p.ordered.map .str
  linked : s.linked = p.linked.map .str
  dynamic : s.dynamic = p.dynamic.map .str
  compile : s.compile = p.flags.compile.map .str
  link : s.link = p.flags.link.map .str
  definitions : s.definitions = p.flags.definitions.map .str
  modes : ∃ names, FirstOccurrences names p.ordered ∧ s.pchModes = names.map fun name =>
    (.str name, .str (((p.pchModes.lookup name).map PchMode.name).getD "None"))

theorem Plan.keeps_serialize (p : Plan) : p.serialize.Keeps p := by
  refine ⟨rfl, rfl, rfl, rfl, rfl, rfl, rfl, distinct p.ordered, firstOccurrences_distinct _, ?_⟩
  refine List.map_congr_left fun name _ => ?_
  rw [pchModeOf]
  cases p.pchModes.lookup name <;> rfl

/-- A plan of whole texts is read back from its own text, whatever the indentation. -/
theorem Plan.read_back_of_text (p : Plan) (whole : p.Whole) (indent : Option Int) :
    IsAscii (p.serialize.text (.ofIndent indent)) ∧
    Json.read (p.serialize.text (.ofIndent indent)).toList = .ok p.serialize.toJson ∧
    SerializedPlan.ofJson p.serialize.toJson = .ok p.serialize ∧ p.serialize.Keeps p := by
  have hblank : (Json.Layout.ofIndent indent).IsBlank := by
    cases indent with
    | none => trivial
    | some n => exact Json.Layout.isBlank_spaces n
  exact ⟨Json.isAscii_write hblank.isAscii _, Json.read_write hblank (legible_toJson whole),
    SerializedPlan.ofJson_toJson p.namedModes_serialize, p.keeps_serialize⟩

/-- A plan with a name that is planned twice and with characters that are written as escapes. -/
def AwkwardNames.plan : Plan where
  target := "\"Spiel\""
  ordered := ["B\\", "😀", "B\\"]
  linked := ["B\\"]
  dynamic := ["😀"]
  pchModes := [("😀", .useExplicit)]
  flags := ⟨["-D\tX"], [], ["\x00"]⟩
  edges := []
  disjoint := by decide

theorem AwkwardNames.whole : AwkwardNames.plan.Whole := by constructor <;> decide

theorem awkwardNames_read_back_of_text :
    AwkwardNames.plan.Whole ∧
    IsAscii (AwkwardNames.plan.serialize.text (.ofIndent (some 2))) ∧
    Json.read (AwkwardNames.plan.serialize.text (.ofIndent (some 2))).toList
      = .ok AwkwardNames.plan.serialize.toJson ∧
    SerializedPlan.ofJson AwkwardNames.plan.serialize.toJson = .ok AwkwardNames.plan.serialize ∧
    AwkwardNames.plan.serialize.Keeps AwkwardNames.plan :=
  ⟨AwkwardNames.whole, Plan.read_back_of_text AwkwardNames.plan AwkwardNames.whole (some 2)⟩

end GatedModules
