import GatedModules.Json.Writer
import GatedModules.Registry.Samples

/-!
# The packaged samples

Two projects come with the program: a game with its engine modules, and four modules of which one is
loaded at run time on some platforms.
-/

namespace GatedModules

namespace Sample

/-- A module as it is declared: its name, its precompiled header mode and its edges. -/
abbrev Declaration := Text × PchMode × List Edge

/-- Unconditional edges of one kind. -/
def edges (kind : DependencyKind) (names : List Text) : List Edge :=
  names.map fun name => { name, kind }

/-- Edges of one kind that share a condition. -/
def gated (condition : Predicate) (kind : DependencyKind) (names : List Text) : List Edge :=
  names.map fun name => { name, kind, condition := some condition }

/-- The registry of some declarations. -/
def registryOf (declarations : List Declaration) (named : ∀ d ∈ declarations, d.1 ≠ "")
    (nodup : (declarations.map (·.1)).Nodup) : Registry where
  modules := declarations.attach.map fun d => Module.ofEdges d.1.1 d.1.2.1 d.1.2.2 (named d.1 d.2)
  nodup := by
    have h : declarations.attach.map (fun d => d.1.1) = declarations.map (·.1) :=
      List.attach_map_val
    rw [List.map_map]
    exact h.symm ▸ nodup

/-- The condition of the online part: the feature is set and the platform has it. -/
def withSteam : Predicate := .allOf [
  .featureEnabled "GRIP_USE_STEAM", .platformIn ["Win64", "Win32", "Linux", "Mac"]]

def gripModules : List Declaration := [
  ("Core", .useSharedOrExplicit, []),
  ("CoreUObject", .useSharedOrExplicit, edges .exported ["Core"]),
  ("Json", .none, edges .exported ["Core"]),
  ("JsonUtilities", .none, edges .exported ["Core", "CoreUObject", "Json"]),
  ("RHI", .none, edges .exported ["Core"]),
  ("RenderCore", .none, edges .exported ["Core", "RHI"]),
  ("Sockets", .none, edges .exported ["Core"]),
  ("Networking", .none, edges .exported ["Core", "Sockets"]),
  ("Http", .none, edges .exported ["Core"] ++ edges .internal ["Sockets"]),
  ("InputCore", .none, edges .exported ["Core", "CoreUObject"]),
  ("SlateCore", .none, edges .exported ["Core", "CoreUObject", "InputCore", "RenderCore"]),
  ("Slate", .none, edges .exported ["Core", "CoreUObject", "InputCore", "SlateCore"]),
  ("PhysX", .none, edges .exported ["Core"]),
  ("Engine", .useSharedOrExplicit,
    edges .exported ["Core", "CoreUObject", "RHI", "RenderCore", "InputCore", "SlateCore", "Json"]
      ++ edges .internal ["Slate", "Http"]
      ++ gated (.configurationIn ["Debug", "Development"]) .internal ["Sockets"]),
  ("EngineSettings", .none, edges .exported ["Core", "CoreUObject"]),
  ("UMG", .none,
    edges .exported ["Core", "CoreUObject", "Engine", "InputCore", "Slate", "SlateCore"]),
  ("ProceduralMeshComponent", .none,
    edges .exported ["Core", "CoreUObject", "Engine", "RenderCore", "RHI"]),
  ("MediaAssets", .none,
    edges .exported ["Core", "CoreUObject", "Engine"] ++ edges .internal ["RenderCore", "RHI"]),
  ("OnlineSubsystem", .none,
    edges .exported ["Core", "CoreUObject", "Json"] ++ edges .internal ["Sockets"]),
  ("OnlineSubsystemUtils", .none,
    edges .exported ["Core", "CoreUObject", "Engine", "OnlineSubsystem"]
      ++ edges .internal ["Sockets"]),
  ("Steamworks", .none, edges .exported ["Core"]),
  ("OnlineSubsystemSteam", .none,
    edges .exported ["OnlineSubsystemUtils", "Steamworks"]
      ++ edges .internal ["Core", "CoreUObject", "Engine", "OnlineSubsystem", "Sockets"]),
  ("Grip", .useSharedOrExplicit,
    edges .exported
        ["Core", "CoreUObject", "Engine", "EngineSettings", "UMG", "PhysX", "Networking",
          "ProceduralMeshComponent", "RenderCore", "RHI", "MediaAssets", "Http", "Json",
          "JsonUtilities"]
      ++ edges .internal
        ["InputCore", "Slate", "SlateCore", "Sockets", "OnlineSubsystem", "OnlineSubsystemUtils"]
      ++ gated withSteam .exported ["Steamworks"]
      ++ gated withSteam .dynamic ["OnlineSubsystemSteam"])]

def steamDemoModules : List Declaration := [
  ("Core", .none, []),
  ("Net", .none, edges .exported ["Core"]),
  ("SteamIntegration", .none, edges .exported ["Net"]),
  ("App", .useExplicit,
    edges .exported ["Net"]
      ++ gated (.platformIn ["Win64", "Linux", "Mac"]) .dynamic ["SteamIntegration"])]

/-- A racing game with its engine modules and an online part that depends on a feature. -/
def grip : Sample where
  target := ⟨"Grip", .executable, .v2, ["Grip"], by decide⟩
  registry := registryOf gripModules (by decide) (by decide)

/-- A small graph with a module that is loaded at run time on some platforms. -/
def steamDemo : Sample where
  target := ⟨"SteamDemo", .executable, .v2, ["App"], by decide⟩
  registry := registryOf steamDemoModules (by decide) (by decide)

/-- The samples by name. -/
def packaged : List (Text × Sample) := [("grip", grip), ("steam_demo", steamDemo)]

/-! ## Their files -/

/-- A file that holds a value. -/
def fileOf (data : Json) : FileEntry := .file (data.write (.spaces 2)).toUTF8

/-- The directory of the samples inside the directory of the program. -/
def directory : List Text := ["registry", "samples"]

/-- The directories of the program, apart from those of the samples. -/
def directories : List (List Text) :=
  [[], ["build"], ["descriptors"], ["registry"], ["resolver"], directory]

/-- What stands in the directory of a sample. -/
def files (place : List Text) (s : Sample) : List (List Text × FileEntry) := [
  (place, .directory),
  (place ++ (["target.json"] : List Text), fileOf s.target.toJson),
  (place ++ (["modules.json"] : List Text), fileOf s.registry.toJson)]

/-- The path to the samples of a program that stands at a place. -/
def path (place : List Text) : FilePath := ⟨.root, place ++ directory⟩

/-- The program's directory with the samples in it. -/
def program (place : List Text) : List (List Text × FileEntry) :=
  directories.map (fun part => (place ++ part, .directory))
    ++ packaged.flatMap fun s => s.2.files (place ++ directory ++ [s.1])

end Sample

end GatedModules
