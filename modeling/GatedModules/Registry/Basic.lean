import GatedModules.Module.Reader

/-!
# Registries

A registry holds modules in the order of their declaration, no two of one name. That order decides
between modules that nothing else puts in an order.
-/

namespace GatedModules

structure Registry where
  modules : List Module
  nodup : (modules.map Module.name).Nodup
  deriving DecidableEq, Repr

namespace Registry

/-- A registry without modules. -/
def empty : Registry := ⟨[], by simp⟩

def names (r : Registry) : List Text := r.modules.map Module.name

def size (r : Registry) : Nat := r.modules.length

/-- The module of a name. -/
def find? (r : Registry) (name : Text) : Option Module :=
  r.modules.find? fun m => m.name == name

/-- Whether a module of this name is declared. -/
def declares (r : Registry) (name : Text) : Bool := r.names.contains name

/-- The place of a name in the order of declaration. -/
def index? (r : Registry) (name : Text) : Option Nat := r.names.idxOf? name

/-- A name that no module has. -/
structure UndeclaredName where
  name : Text
  deriving DecidableEq, Repr

def UndeclaredName.message (e : UndeclaredName) : String :=
  Text.quoted ("Unknown module: " ++ e.name)

/-- The module of a name that ought to be declared. -/
def get (r : Registry) (name : Text) : Except UndeclaredName Module :=
  match r.find? name with
  | some m => .ok m
  | none => .error ⟨name⟩

/-- The place of a name that ought to be declared. -/
def indexOf (r : Registry) (name : Text) : Except UndeclaredName Nat :=
  match r.index? name with
  | some i => .ok i
  | none => .error ⟨name⟩

def toJson (r : Registry) : Json := .obj [("modules", .arr (r.modules.map Module.toJson))]

/-! ## Building -/

inductive ReadError where
  | malformed (error : Module.ReadError)
  | duplicate (name : Text)
  deriving DecidableEq, Repr

def ReadError.message : ReadError → Text
  | .malformed error => error.message
  | .duplicate name => "Duplicate module name: " ++ name

/-- The registry with one more module at the end, if its name is new. -/
def add (r : Registry) (m : Module) : Except ReadError Registry :=
  if h : m.name ∈ r.names then .error (.duplicate m.name)
  else .ok {
    modules := r.modules ++ [m]
    nodup := by
      rw [List.map_append, List.nodup_append]
      refine ⟨r.nodup, by simp, ?_⟩
      intro a ha b hb
      simp only [List.map_cons, List.map_nil, List.mem_singleton] at hb
      exact fun e => h (hb ▸ e ▸ ha) }

/-- The registry with the modules that some values describe, up to the first fault. -/
def addJsons (r : Registry) : List Json → Except ReadError Registry
  | [] => .ok r
  | data :: rest => do
    let m ← (Module.ofJson data).mapError .malformed
    let r ← r.add m
    r.addJsons rest

/-- The registry of the modules that some values describe. -/
def ofJsons (data : List Json) : Except ReadError Registry := empty.addJsons data

end Registry

end GatedModules
