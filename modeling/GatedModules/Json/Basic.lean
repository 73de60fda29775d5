import GatedModules.Number.Text
import GatedModules.Text.Quoted

/-!
# JSON values

A JSON value keeps the order of an object's members and the difference between an integer, which is
exact, and a number with a fraction or an exponent, which is a double.
-/

namespace GatedModules

inductive Json where
  | null
  | bool (b : Bool)
  | int (n : Int)
  | float (x : Double)
  | str (t : Text)
  | arr (items : List Json)
  | obj (members : List (Text × Json))
  deriving Repr, Inhabited

namespace Json

/-! ## Equality -/

mutual

/-- Whether two values are the same tree, members in the same order. -/
def same : Json → Json → Bool
  | .null, .null => true
  | .bool a, .bool b => a == b
  | .int a, .int b => a == b
  | .float a, .float b => a == b
  | .str a, .str b => a == b
  | .arr a, .arr b => sameItems a b
  | .obj a, .obj b => sameMembers a b
  | _, _ => false

def sameItems : List Json → List Json → Bool
  | [], [] => true
  | a :: as, b :: bs => same a b && sameItems as bs
  | _, _ => false

def sameMembers : List (Text × Json) → List (Text × Json) → Bool
  | [], [] => true
  | (k, a) :: as, (l, b) :: bs => k == l && same a b && sameMembers as bs
  | _, _ => false

end

mutual

theorem same_self : ∀ a : Json, same a a = true
  | .null | .bool _ | .int _ | .float _ | .str _ => by simp [same]
  | .arr a => by simp [same, sameItems_self a]
  | .obj a => by simp [same, sameMembers_self a]

theorem sameItems_self : ∀ as : List Json, sameItems as as = true
  | [] => by simp [sameItems]
  | a :: as => by simp [sameItems, same_self a, sameItems_self as]

theorem sameMembers_self : ∀ as : List (Text × Json), sameMembers as as = true
  | [] => by simp [sameMembers]
  | (_, a) :: as => by simp [sameMembers, same_self a, sameMembers_self as]

end

mutual

theorem eq_of_same : ∀ {a b : Json}, same a b = true → a = b
  | .null, b, h | .bool _, b, h | .int _, b, h | .float _, b, h | .str _, b, h => by
    cases b <;> simp_all [same]
  | .arr a, b, h => by
    cases b with
    | arr b =>
      have e : a = b := eq_of_sameItems (by simpa [same] using h)
      rw [e]
    | _ => simp [same] at h
  | .obj a, b, h => by
    cases b with
    | obj b =>
      have e : a = b := eq_of_sameMembers (by simpa [same] using h)
      rw [e]
    | _ => simp [same] at h

theorem eq_of_sameItems : ∀ {as bs : List Json}, sameItems as bs = true → as = bs
  | [], bs, h => by cases bs <;> simp_all [sameItems]
  | a :: as, bs, h => by
    cases bs with
    | nil => simp [sameItems] at h
    | cons b bs =>
      simp only [sameItems, Bool.and_eq_true] at h
      rw [eq_of_same h.1, eq_of_sameItems h.2]

theorem eq_of_sameMembers :
    ∀ {as bs : List (Text × Json)}, sameMembers as bs = true → as = bs
  | [], bs, h => by cases bs <;> simp_all [sameMembers]
  | (k, a) :: as, bs, h => by
    cases bs with
    | nil => simp [sameMembers] at h
    | cons b bs =>
      simp only [sameMembers, Bool.and_eq_true, beq_iff_eq] at h
      rw [h.1.1, eq_of_same h.1.2, eq_of_sameMembers h.2]

end

theorem same_iff {a b : Json} : same a b = true ↔ a = b :=
  ⟨eq_of_same, fun h => h ▸ same_self a⟩

instance : DecidableEq Json := fun _ _ => decidable_of_iff _ same_iff

/-! ## Members -/

/-- The members of an object with a member set: an old place is kept, a new name goes last. -/
def setMember (key : Text) (value : α) : List (Text × α) → List (Text × α)
  | [] => [(key, value)]
  | (k, v) :: rest =>
    if k = key then (k, value) :: rest else (k, v) :: setMember key value rest

/-- Members written one after another, a later one replacing an earlier one of its name. -/
def ofPairs (pairs : List (Text × α)) : List (Text × α) :=
  pairs.foldl (fun members p => setMember p.1 p.2 members) []

/-- The member of an object with a given name. -/
def member? (key : Text) : Json → Option Json
  | .obj members => members.lookup key
  | _ => none

/-- A list of texts as a value. -/
def texts (ts : List Text) : Json := .arr (ts.map .str)

/-- The text of a string value. -/
def text? : Json → Option Text
  | .str t => some t
  | _ => none

/-- The texts of a list in which every item is a string. -/
def textList? : Json → Option (List Text)
  | .arr items => items.mapM text?
  | _ => none

/-! ## Values in messages -/

/-- What messages call the kind of a value. -/
def kindName : Json → String
  | .null => "NoneType"
  | .bool _ => "bool"
  | .int _ => "int"
  | .float _ => "float"
  | .str _ => "str"
  | .arr _ => "list"
  | .obj _ => "dict"

mutual

/-- A value as messages show it. -/
def display : Json → String
  | .null => "None"
  | .bool b => if b then "True" else "False"
  | .int n => toString n
  | .float x => x.text
  | .str t => Text.quoted t
  | .arr items => "[" ++ ", ".intercalate (displayItems items) ++ "]"
  | .obj members => "\x7b" ++ ", ".intercalate (displayMembers members) ++ "\x7d"

def displayItems : List Json → List String
  | [] => []
  | a :: as => display a :: displayItems as

def displayMembers : List (Text × Json) → List String
  | [] => []
  | (k, a) :: as => (Text.quoted k ++ ": " ++ display a) :: displayMembers as

end

/-- A value inside a running text: a string as it is, anything else as messages show it. -/
def plain : Json → Text
  | .str t => t
  | v => v.display

/-- Whether a value counts as set: null, false, zero and everything empty do not. -/
def isSet : Json → Bool
  | .null => false
  | .bool b => b
  | .int n => n != 0
  | .float x => !x.isZero
  | .str t => t != ""
  | .arr items => !items.isEmpty
  | .obj members => !members.isEmpty

end Json

end GatedModules
