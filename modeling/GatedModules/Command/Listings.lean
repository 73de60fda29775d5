import GatedModules.Plan.Basic
import GatedModules.Registry.Basic
import GatedModules.Table

/-!
# Listings

What the commands list in tables: the modules of a plan in build order, with the part that each one
plays, and the modules of a registry in the order of their declaration, with the number of their
unconditional dependencies of every kind and of their conditional ones. Below the modules of a plan
stand its flags.
-/

namespace GatedModules

namespace Plan

/-- The part that a module plays. -/
def role (p : Plan) (name : Text) : String := if p.isLinked name then "link" else "dynamic"

/-- The row of the module in a place, the places counted from one. -/
def listingRow (p : Plan) (index : Nat) (name : Text) : List Text :=
  [toString (index + 1), name, p.role name, (p.pchModeOf name).name]

def listing (p : Plan) : Table where
  title := "Build plan: " ++ p.target
  columns := [⟨"#", true⟩, ⟨"Module", false⟩, ⟨"Role", false⟩, ⟨"PCH", false⟩]
  rows := p.ordered.mapIdx p.listingRow

/-- Flags behind their title. -/
def titled (title : String) (flags : List Text) : Text :=
  title ++ ": " ++ Text.intercalate " " flags

/-- The texts below the table; definitions and linker flags are left out where there are none. -/
def flagTexts (p : Plan) : List Text :=
  (if p.flags.definitions.isEmpty then [] else [titled "Definitions" p.flags.definitions])
    ++ [titled "Compile flags" p.flags.compile]
    ++ if p.flags.link.isEmpty then [] else [titled "Link flags" p.flags.link]

end Plan

/-- The row of a module. -/
def Module.listingRow (m : Module) : List Text :=
  [m.name, m.pchMode.name]
    ++ DependencyKind.all.map (fun kind => (toString (m.unconditional kind).length : Text))
    ++ [(toString m.conditionalEdges.length : Text)]

def Registry.listing (r : Registry) : Table where
  title := "Modules"
  columns := [⟨"Module", false⟩, ⟨"PCH", false⟩, ⟨"Pub", true⟩, ⟨"Priv", true⟩, ⟨"Dyn", true⟩,
    ⟨"Cond", true⟩]
  rows := r.modules.map Module.listingRow

end GatedModules
