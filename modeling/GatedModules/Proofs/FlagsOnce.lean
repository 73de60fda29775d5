import GatedModules.BuildFlags
import GatedModules.Proofs.SortedNames

/-!
# Flags that are set once

A profile takes out of the base flags whatever it decides on and puts its own flags behind them, so
no flag is there twice. The definitions take no such care: a feature with the name that marks the
configuration is defined beside the mark.
-/

namespace GatedModules

theorem Text.append_right_injective (t : Text) : Function.Injective fun s : Text => s ++ t := by
  intro s u h
  have hpoints : s.points ++ t.points = u.points ++ t.points := congrArg Text.points h
  cases s
  cases u
  exact congrArg Text.mk (List.append_cancel_right hpoints)

namespace BuildFlags

/-! ## Flags for the compiler and the linker -/

theorem nodup_leave_append {p : Profile} {base own : List Text} (hbase : base.Nodup)
    (hown : own.Nodup) (hcontrols : ∀ flag ∈ own, p.controls flag = true) :
    (p.leave base ++ own).Nodup := by
  refine List.nodup_append.2 ⟨hbase.sublist List.filter_sublist, hown, ?_⟩
  rintro flag hleft _ hmem rfl
  have hnot : (!p.controls flag) = true := (List.mem_filter.1 hleft).2
  rw [hcontrols flag hmem] at hnot
  cases hnot

theorem nodup_base (version : SettingsVersion) :
    (baseCompile version).Nodup ∧ (baseLink version).Nodup := by
  cases version <;> decide

theorem nodup_profile (configuration : Configuration) :
    (profile configuration).compile.Nodup ∧ (profile configuration).link.Nodup := by
  cases configuration <;> decide

theorem controls_profile (configuration : Configuration) :
    (∀ flag ∈ (profile configuration).compile, (profile configuration).controls flag = true) ∧
    ∀ flag ∈ (profile configuration).link, (profile configuration).controls flag = true := by
  cases configuration <;> decide

/-! ## Definitions -/

/-- The name that is defined to mark a configuration. -/
def marker (configuration : Configuration) : Text := "BUILD_" ++ configuration.name.toUpper

example : marker .debug = "BUILD_DEBUG" := by decide +kernel

theorem configurationDefinition_eq (configuration : Configuration) :
    configurationDefinition configuration = marker configuration ++ "=1" := by
  cases configuration <;> rfl

variable {configuration : Configuration} {features features' : List Text}

/-- The definitions of the features, each once. -/
def featureDefinitions (features : List Text) : List Text :=
  (sortNames (distinct features)).map fun feature => feature ++ "=1"

theorem definitionsFor_eq : definitionsFor configuration features =
    (marker configuration ++ "=1") :: featureDefinitions features := by
  rw [definitionsFor, configurationDefinition_eq, featureDefinitions]

theorem nodup_featureDefinitions (features : List Text) : (featureDefinitions features).Nodup := by
  refine List.Nodup.map (Text.append_right_injective _) ?_
  exact (sortNames_perm _).nodup_iff.2 (nodup_distinct features)

theorem mem_featureDefinitions {name : Text} :
    name ++ "=1" ∈ featureDefinitions features ↔ name ∈ features := by
  rw [featureDefinitions, List.mem_map_of_injective (Text.append_right_injective _),
    (sortNames_perm _).mem_iff, mem_distinct]

theorem featureDefinitions_eq_iff :
    featureDefinitions features = featureDefinitions features' ↔
      ∀ name, name ∈ features ↔ name ∈ features' := by
  constructor
  · intro h name
    rw [← mem_featureDefinitions, h, mem_featureDefinitions]
  · intro h
    rw [featureDefinitions, featureDefinitions, sortNames_distinct_eq h]

/-- No flag for the compiler or the linker is set twice. Of the definitions none but the mark of the
configuration can be there twice, and it is just where a feature bears the name that is marked. The
definitions show which features there are and nothing else. -/
theorem select_sets_once (version : SettingsVersion) (configuration : Configuration)
    (features : List Text) :
    (select version configuration features).compile.Nodup ∧
    (select version configuration features).link.Nodup ∧
    ((select version configuration features).definitions.Nodup ↔
      marker configuration ∉ features) ∧
    (∀ definition ≠ configurationDefinition configuration,
      (select version configuration features).definitions.count definition ≤ 1) ∧
    ∀ features', (select version configuration features).definitions =
      (select version configuration features').definitions ↔
        ∀ name, name ∈ features ↔ name ∈ features' := by
  obtain ⟨hbaseCompile, hbaseLink⟩ := nodup_base version
  obtain ⟨hcompile, hlink⟩ := nodup_profile configuration
  obtain ⟨hcontrolsCompile, hcontrolsLink⟩ := controls_profile configuration
  refine ⟨nodup_leave_append hbaseCompile hcompile hcontrolsCompile,
    nodup_leave_append hbaseLink hlink hcontrolsLink, ?_, ?_, ?_⟩
  · rw [select, definitionsFor_eq, List.nodup_cons, mem_featureDefinitions]
    exact and_iff_left (nodup_featureDefinitions features)
  · intro definition hother
    rw [configurationDefinition_eq] at hother
    rw [select, definitionsFor_eq, List.count_cons_of_ne hother.symm]
    exact List.nodup_iff_count_le_one.1 (nodup_featureDefinitions features) definition
  · intro features'
    rw [select, select, definitionsFor_eq, definitionsFor_eq, List.cons.injEq,
      and_iff_right rfl, featureDefinitions_eq_iff]

/-- A feature that bears the name of the mark is defined beside it. -/
theorem debug_defined_twice :
    (select .v1 .debug ["BUILD_DEBUG"]).definitions = ["BUILD_DEBUG=1", "BUILD_DEBUG=1"] ∧
    ¬ (select .v1 .debug ["BUILD_DEBUG"]).definitions.Nodup := by
  have htwice : (select .v1 .debug ["BUILD_DEBUG"]).definitions =
      ["BUILD_DEBUG=1", "BUILD_DEBUG=1"] := by decide +kernel
  refine ⟨htwice, fun honce => ?_⟩
  rw [htwice] at honce
  simp at honce

end BuildFlags

end GatedModules
