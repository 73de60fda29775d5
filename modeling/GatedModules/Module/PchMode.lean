import GatedModules.Vocabulary

/-!
# Precompiled header modes
-/

namespace GatedModules

/-- How a module uses precompiled headers. -/
inductive PchMode where
  | none
  | useExplicit
  | useSharedOrExplicit
  deriving DecidableEq, Repr, Inhabited

namespace PchMode

def all : List PchMode := [.none, .useExplicit, .useSharedOrExplicit]

def name : PchMode → String
  | .none => "None"
  | .useExplicit => "UseExplicit"
  | .useSharedOrExplicit => "UseSharedOrExplicit"

/-- The words for a mode, with a longer spelling of each. -/
def vocabulary : Vocabulary PchMode where
  title := "Precompiled header mode"
  noun := "precompiled header mode"
  words := List.append (all.map fun m => (m.name, m)) [
    ("NoPCHs", .none), ("NoSharedPCHs", .useExplicit),
    ("UseExplicitOrSharedPCHs", .useSharedOrExplicit)]

def read (value : Json) : Except WordError PchMode := vocabulary.read value

/-- The mode whose name is spelled exactly so. -/
def spelled? (name : Text) : Option PchMode := all.find? fun m => m.name = name

end PchMode

end GatedModules
