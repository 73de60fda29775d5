import GatedModules.Environment.Reader
import GatedModules.Proofs.Meaning
import GatedModules.Proofs.NamesOnce

/-!
# The written form of an environment

What is written for an environment is read as that environment, its flags in order. The platform is
kept both as one of those that are known and as the name it was given by, and both come back: no
name at all becomes the name of the platform that all unknown names stand for.
-/

namespace GatedModules

theorem Platform.ofName_name (p : Platform) : ofName p.name = p := by
  rw [ofName, find?_eq_some_iff.2 (Text.sameLower_iff.2 rfl)]
  rfl

namespace Environment

variable {data : Json} {env a b : Environment} {features : List (Text × Json)}

/-! ## What is read -/

theorem firstUnclearFeature_eq_none_iff :
    firstUnclearFeature features = none ↔ ∀ f ∈ features, ∃ b, f.2 = .bool b := by
  rw [firstUnclearFeature, List.find?_eq_none]
  refine forall₂_congr fun f _ => ?_
  cases f.2 <;> simp

/-- A value describes an environment: what its members say, or what is taken where they are
missing. -/
structure Describes (data : Json) (env : Environment) : Prop where
  platform : ∃ name : Text, data.member? "platform" = some (.str name) ∧
    env.platform = Platform.ofName name ∧
    env.platformName = if name = "" then (env.platform.name : Text) else name
  architecture : env.architecture = (data.member? "architecture").getD defaultArchitecture
  configuration : ∃ word,
    (data.member? "configuration").getD (.str defaultConfiguration.name) = .str word ∧
    Configuration.ofName? word = some env.configuration
  features : (data.member? "features").getD (.obj []) = .obj env.features
  clear : ∀ f ∈ env.features, ∃ b, f.2 = .bool b

theorem create_eq_ok_iff {platform architecture configuration : Json} :
    create platform architecture configuration features = .ok env ↔
      ∃ name word c, platform = .str name ∧ configuration = .str word ∧
        Configuration.ofName? word = some c ∧
        env = onPlatform (.ofName name) name architecture c features := by
  rw [create, bind_eq_ok_iff]
  constructor
  · rintro ⟨p, hp, hread⟩
    obtain ⟨c, hc, hmade⟩ := bind_eq_ok_iff.1 hread
    cases platform <;> cases hp
    cases configuration with
    | str word =>
      cases hmade
      exact ⟨_, word, c, rfl, rfl, (Vocabulary.read_str_eq_ok_iff _).1 hc, rfl⟩
    | _ => cases hc
  · rintro ⟨name, word, c, rfl, rfl, hc, rfl⟩
    refine ⟨.ofName name, rfl, bind_eq_ok_iff.2 ⟨c, ?_, rfl⟩⟩
    exact (Vocabulary.read_str_eq_ok_iff _).2 hc

theorem describes_of_ofJson (h : ofJson data = .ok env) : Describes data env := by
  unfold ofJson at h
  split at h
  · unfold ofMembers at h
    split at h
    · cases h
    · next platform hplatform =>
      split at h
      · next features hfeatures =>
        split at h
        · cases h
        · next hclear =>
          obtain ⟨name, word, c, rfl, hword, hc, rfl⟩ :=
            create_eq_ok_iff.1 (mapError_eq_ok_iff.1 h)
          exact ⟨⟨name, hplatform, rfl, rfl⟩, rfl, ⟨word, hword, hc⟩, hfeatures,
            firstUnclearFeature_eq_none_iff.1 hclear⟩
      · cases h
  · cases h

theorem ofJson_of_describes (h : Describes data env) : ofJson data = .ok env := by
  obtain ⟨⟨name, hname, hplatform, hspelling⟩, harchitecture, ⟨word, hword, hc⟩, hfeatures,
    hclear⟩ := h
  have hobject : ofJson data = ofMembers data := by
    cases data with
    | obj members => rfl
    | _ => cases hname
  rw [hobject, ofMembers, hname]
  simp only [hfeatures, hword, firstUnclearFeature_eq_none_iff.2 hclear]
  refine mapError_eq_ok_iff.2 (create_eq_ok_iff.2 ⟨name, word, _, rfl, rfl, hc, ?_⟩)
  rw [hplatform] at hspelling
  cases env
  simp_all [onPlatform]

theorem ofJson_eq_ok_iff : ofJson data = .ok env ↔ Describes data env :=
  ⟨describes_of_ofJson, ofJson_of_describes⟩

/-- The name that is kept stands for the platform, also where none was given. -/
theorem Describes.spelling (h : Describes data env) :
    env.platformName ≠ "" ∧ Platform.ofName env.platformName = env.platform := by
  obtain ⟨name, -, hplatform, hspelling⟩ := h.platform
  by_cases hname : name = ""
  · rw [if_pos hname] at hspelling
    rw [hspelling, Platform.ofName_name]
    refine ⟨?_, rfl⟩
    cases env.platform <;> decide
  · rw [if_neg hname] at hspelling
    rw [hspelling]
    exact ⟨hname, hplatform.symm⟩

theorem Describes.flagsDistinct (h : Describes data env) (hdata : data.NamesOnce) :
    env.FlagsDistinct := by
  have hfeatures := h.features
  cases hmember : data.member? "features" with
  | none =>
    rw [hmember] at hfeatures
    have hnone : [] = env.features := Json.obj.inj hfeatures
    rw [FlagsDistinct, ← hnone]
    exact List.nodup_nil
  | some value =>
    rw [hmember] at hfeatures
    obtain rfl : value = .obj env.features := hfeatures
    exact (hdata.member hmember).nodup

/-! ## Flags in order -/

theorem sortedFeatures_perm (env : Environment) : env.sortedFeatures.Perm env.features :=
  List.mergeSort_perm env.features _

theorem pairwise_sortedFeatures (env : Environment) :
    (env.sortedFeatures.map (·.1)).Pairwise (· ≤ ·) :=
  List.pairwise_map.2 (pairwise_mergeSort_name (·.1) env.features)

theorem FlagsDistinct.normalized (h : env.FlagsDistinct) : env.normalized.FlagsDistinct :=
  ((sortedFeatures_perm env).map _).nodup_iff.2 h

theorem FlagsDistinct.pairwise_sortedFeatures (h : env.FlagsDistinct) :
    (env.sortedFeatures.map (·.1)).Pairwise (· < ·) :=
  pairwise_lt_of_nodup env.pairwise_sortedFeatures h.normalized

theorem FlagsDistinct.pairwise_enabledFeatures (h : env.FlagsDistinct) :
    env.enabledFeatures.Pairwise (· < ·) := by
  refine pairwise_lt_of_nodup (pairwise_sortNames _) ((sortNames_perm _).nodup_iff.2 ?_)
  exact h.sublist (List.filter_sublist.map _)

/-! ## Equality -/

/-- Two environments have the same in every place, the flags in whatever order. -/
structure Same (a b : Environment) : Prop where
  platform : a.platform = b.platform
  platformName : a.platformName = b.platformName
  architecture : a.architecture = b.architecture
  configuration : a.configuration = b.configuration
  features : ∀ feature, a.features.lookup feature = b.features.lookup feature

theorem same_normalized (h : env.FlagsDistinct) : env.normalized.Same env :=
  ⟨rfl, rfl, rfl, rfl, lookup_eq_of_perm (sortedFeatures_perm env) h.normalized⟩

theorem Same.sortedFeatures (h : a.Same b) (ha : a.FlagsDistinct) (hb : b.FlagsDistinct) :
    a.sortedFeatures = b.sortedFeatures := by
  have hmem (f : Text × Json) : f ∈ a.features ↔ f ∈ b.features := by
    rw [← lookup_eq_some_iff ha, ← lookup_eq_some_iff hb, h.features]
  have hperm : a.features.Perm b.features :=
    (List.perm_ext_iff_of_nodup (.of_map _ ha) (.of_map _ hb)).2 hmem
  refine List.Perm.eq_of_pairwise (fun f g hf hg hfg hgf => ?_)
    (List.pairwise_map.1 a.pairwise_sortedFeatures) (List.pairwise_map.1 b.pairwise_sortedFeatures)
    ((sortedFeatures_perm a).trans (hperm.trans (sortedFeatures_perm b).symm))
  have hname : f.1 = g.1 := Text.le_antisymm hfg hgf
  have hf' := (lookup_eq_some_iff ha).2 ((sortedFeatures_perm a).mem_iff.1 hf)
  have hg' := (lookup_eq_some_iff ha).2 ((hmem g).2 ((sortedFeatures_perm b).mem_iff.1 hg))
  rw [hname, hg'] at hf'
  exact Prod.ext hname (Option.some.inj hf').symm

theorem agrees_of_same (h : a.Same b) (ha : a.FlagsDistinct) (hb : b.FlagsDistinct) :
    a.agrees b = true := by
  have hfeatures := h.sortedFeatures ha hb
  obtain ⟨hplatform, hname, harchitecture, hconfiguration, -⟩ := h
  rw [agrees, beq_iff_eq, Environment.normalized, Environment.normalized, hfeatures]
  cases a
  cases b
  simp_all

/-! ## Reading back -/

theorem describes_toJson (hclear : ∀ f ∈ env.features, ∃ b, f.2 = .bool b)
    (hspelling : env.platformName ≠ "" ∧ Platform.ofName env.platformName = env.platform) :
    Describes env.toJson env.normalized where
  platform := ⟨env.platformName, rfl, hspelling.2.symm, (if_neg hspelling.1).symm⟩
  architecture := rfl
  configuration := ⟨env.configuration.name, rfl,
    Configuration.ofName?_eq_some_iff.2 (Text.sameLower_iff.2 rfl)⟩
  features := rfl
  clear f hf := hclear f ((sortedFeatures_perm env).mem_iff.1 hf)

/-- What is written for an environment that was read is read as the same environment. Its flags are
written in strictly increasing order, and so are the names of those that are set, which are the
names of which the environment says that they are. -/
theorem written_form_read (data : Json) (env : Environment) (hdata : data.NamesOnce)
    (h : ofJson data = .ok env) :
    (∃ env', ofJson env.toJson = .ok env' ∧ env'.Same env ∧ env'.agrees env = true) ∧
    (∃ flags, env.toJson.member? "features" = some (.obj flags) ∧
      (flags.map (·.1)).Pairwise (· < ·)) ∧
    env.enabledFeatures.Pairwise (· < ·) ∧
    ∀ feature, feature ∈ env.enabledFeatures ↔ env.isEnabled feature = true := by
  have hdescribes := describes_of_ofJson h
  have hdistinct := hdescribes.flagsDistinct hdata
  have hsame := same_normalized hdistinct
  refine ⟨⟨env.normalized, ?_, hsame, agrees_of_same hsame hdistinct.normalized hdistinct⟩,
    ⟨env.sortedFeatures, rfl, hdistinct.pairwise_sortedFeatures⟩,
    hdistinct.pairwise_enabledFeatures, fun _ => mem_enabledFeatures hdistinct⟩
  exact ofJson_of_describes (describes_toJson hdescribes.clear hdescribes.spelling)

end Environment

/-! ## A platform without a name -/

namespace NamelessPlatform

/-- The platform has no name, the architecture is no text, and one flag is given twice. -/
def source : String :=
  "\x7b\"platform\": \"\", \"architecture\": 64, \"configuration\": \"sHIPPING\", " ++
    "\"features\": \x7b\"b\": true, \"a\": false, \"c\": false, \"a\": true\x7d\x7d"

def data : Json := .obj [("platform", .str ""), ("architecture", .int 64),
  ("configuration", .str "sHIPPING"),
  ("features", .obj [("b", .bool true), ("a", .bool true), ("c", .bool false)])]

def env : Environment :=
  ⟨.other, "Other", .int 64, .shipping, [("b", .bool true), ("a", .bool true), ("c", .bool false)]⟩

theorem read_source : Json.read source.toList = .ok data := by decide +kernel

theorem describes_data : Environment.Describes data env where
  platform := ⟨"", rfl, by decide, rfl⟩
  architecture := rfl
  configuration := ⟨"sHIPPING", rfl, Configuration.ofName?_eq_some_iff.2 (by decide)⟩
  features := rfl
  clear := by simp [env]

end NamelessPlatform

namespace Environment

theorem namelessPlatform_written_form_read :
    ofJson NamelessPlatform.data = .ok NamelessPlatform.env ∧
    (∃ env', ofJson NamelessPlatform.env.toJson = .ok env' ∧ env'.Same NamelessPlatform.env ∧
      env'.platform = .other ∧ env'.platformName = "Other" ∧ env'.architecture = .int 64) ∧
    ("a" : Text) ∈ NamelessPlatform.env.enabledFeatures ∧
    ("c" : Text) ∉ NamelessPlatform.env.enabledFeatures := by
  have honce := Json.namesOnce_of_read NamelessPlatform.read_source
  have hgiven := ofJson_of_describes NamelessPlatform.describes_data
  obtain ⟨⟨env', hread, hsame, -⟩, -, -, henabled⟩ :=
    written_form_read NamelessPlatform.data NamelessPlatform.env honce hgiven
  refine ⟨hgiven,
    ⟨env', hread, hsame, hsame.platform, hsame.platformName, hsame.architecture⟩, ?_, ?_⟩
  · rw [henabled]
    decide
  · rw [henabled]
    decide

end Environment

end GatedModules
