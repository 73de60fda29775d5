import GatedModules.Proofs.SortedNames
import GatedModules.Registry.Load

/-!
# Registries divided over files

A registry that is divided over the files of a directory is the one that a single file would hold:
the files are read in the order of their names, each in the form that it has, and what is wrong is
found in the whole, whichever files it stands in.
-/

namespace GatedModules.Registry

variable {files : FileTree} {path directory : FilePath} {items : List Json}
  {parts : List (Text × List Json)}

/-- An object that is not taken for a list of modules. -/
def Plain (item : Json) : Prop := item.isObject = true ∧ item.member? "modules" = none

instance : DecidablePred Plain := fun item =>
  inferInstanceAs (Decidable (item.isObject = true ∧ item.member? "modules" = none))

/-- The forms in which a file holds some module descriptions: as the list of an object, as a list
of its own and, if it is one, by itself. -/
inductive Form : List Json → Json → Prop
  | listed {items : List Json} {data : Json} (h : data.member? "modules" = some (.arr items)) :
    Form items data
  | bare (items : List Json) : Form items (.arr items)
  | single (item : Json) : Form [item] item

/-- A file holds some module descriptions in one of their forms. -/
def Stores (files : FileTree) (path : FilePath) (items : List Json) : Prop :=
  ∃ content data, files.read path = .ok content ∧ readContent content = .ok data ∧ Form items data

/-- A directory in which each part of some module descriptions has a file. The names of the files
are in the order of the parts, and no other file there has the name of a JSON file. -/
structure Divides (files : FileTree) (directory : FilePath) (parts : List (Text × List Json)) :
    Prop where
  names : ∃ place, files.locate directory = .ok place ∧
    files.entry? place = some .directory ∧
    ((files.names place).filter isJsonName).Perm (parts.map Prod.fst)
  increasing : (parts.map Prod.fst).Pairwise fun s t => s ≤ t ∧ s ≠ t
  stored : ∀ part ∈ parts, Stores files (directory.child part.1) part.2

/-! ## One file -/

theorem entries_of_form {source : Text} {data : Json} (hplain : ∀ item ∈ items, Plain item)
    (h : Form items data) : entries source data = .ok items := by
  have hobjects : items.all Json.isObject = true :=
    List.all_eq_true.2 fun item hitem => (hplain item hitem).1
  cases h with
  | listed hmodules =>
    cases data with
    | obj members => simp [entries, hmodules, hobjects]
    | _ => cases hmodules
  | bare => simp [entries, hobjects]
  | single =>
    obtain ⟨hobject, hmodules⟩ := hplain data List.mem_cons_self
    cases data with
    | obj members => simp [entries, hmodules, Json.isObject]
    | _ => cases hobject

theorem readFile_eq_ok_iff {data : Json} : readFile files path = .ok data ↔
    ∃ content, files.read path = .ok content ∧ readContent content = .ok data := by
  unfold readFile
  cases files.read path with
  | error e => simp
  | ok content =>
    simp only [Except.ok.injEq, exists_eq_left']
    split <;> simp_all

theorem stores_iff :
    Stores files path items ↔ ∃ data, readFile files path = .ok data ∧ Form items data := by
  constructor
  · rintro ⟨content, data, hread, hdata, hform⟩
    exact ⟨data, readFile_eq_ok_iff.2 ⟨content, hread, hdata⟩, hform⟩
  · rintro ⟨data, hfile, hform⟩
    obtain ⟨content, hread, hdata⟩ := readFile_eq_ok_iff.1 hfile
    exact ⟨content, data, hread, hdata, hform⟩

theorem readFiles_cons (path : FilePath) (rest : List FilePath) :
    readFiles files (path :: rest) =
      (readFile files path >>= fun data => entries path.text data >>= fun here =>
        readFiles files rest >>= fun there => .ok (here ++ there)) := rfl

/-- What the file of a part holds comes before what the other files hold. -/
theorem readFiles_cons_of_stores {rest : List FilePath} {more : List Json}
    (hplain : ∀ item ∈ items, Plain item) (h : Stores files path items)
    (hrest : readFiles files rest = .ok more) :
    readFiles files (path :: rest) = .ok (items ++ more) := by
  obtain ⟨data, hfile, hform⟩ := stores_iff.1 h
  have hentries : entries path.text data = .ok items := entries_of_form hplain hform
  rw [readFiles_cons, hfile]
  change entries path.text data >>= _ = _
  rw [hentries]
  change readFiles files rest >>= _ = _
  rw [hrest]
  rfl

/-! ## All files -/

theorem readFiles_of_stored (hplain : ∀ item ∈ parts.flatMap Prod.snd, Plain item)
    (hstored : ∀ part ∈ parts, Stores files (directory.child part.1) part.2) :
    readFiles files (parts.map fun part => directory.child part.1) =
      .ok (parts.flatMap Prod.snd) := by
  induction parts with
  | nil => rfl
  | cons part parts ih =>
    rw [List.flatMap_cons, List.forall_mem_append] at hplain
    obtain ⟨hpart, hparts⟩ := List.forall_mem_cons.1 hstored
    exact readFiles_cons_of_stores hplain.1 hpart (ih hplain.2 hparts)

/-- The files are read in the order of the parts, since there is one order of their names only. -/
theorem sources_of_divides (h : Divides files directory parts) :
    sources files directory = .ok (parts.map fun part => directory.child part.1) := by
  obtain ⟨place, hlocate, hentry, hperm⟩ := h.names
  have hsorted : ((files.names place).filter isJsonName).Pairwise (· ≤ ·) :=
    (pairwise_sortNames _).filter _
  have hparts : (parts.map Prod.fst).Pairwise (· ≤ ·) := h.increasing.imp And.left
  have hnames : (files.names place).filter isJsonName = parts.map Prod.fst :=
    hperm.eq_of_pairwise (fun _ _ _ _ => Text.le_antisymm) hsorted hparts
  simp only [sources, hlocate, hentry, hnames, List.map_map, Function.comp_def]

theorem sources_of_read {content : ByteArray} (h : files.read path = .ok content) :
    sources files path = .ok [path] := by
  unfold FileTree.read at h
  split at h
  · cases h
  · next place hlocate =>
    split at h
    · next hentry => simp only [sources, hlocate, hentry]
    · cases h
    · cases h

theorem load_of_readFiles {all : List FilePath} (hsources : sources files path = .ok all)
    (hread : readFiles files all = .ok items) :
    load files path = (ofJsons items).mapError .registry := by
  rw [load, hsources]
  change readFiles files all >>= _ = _
  rw [hread]
  rfl

theorem load_of_divides (hplain : ∀ item ∈ parts.flatMap Prod.snd, Plain item)
    (h : Divides files directory parts) :
    load files directory = (ofJsons (parts.flatMap Prod.snd)).mapError .registry :=
  load_of_readFiles (sources_of_divides h) (readFiles_of_stored hplain h.stored)

theorem load_of_stores (hplain : ∀ item ∈ items, Plain item) (h : Stores files path items) :
    load files path = (ofJsons items).mapError .registry := by
  have hsources : sources files path = .ok [path] := by
    obtain ⟨content, -, hread, -⟩ := h
    exact sources_of_read hread
  have hread : readFiles files [path] = .ok (items ++ []) :=
    readFiles_cons_of_stores hplain h rfl
  rw [List.append_nil] at hread
  exact load_of_readFiles hsources hread

/-- A directory over whose files some module descriptions are divided holds the same registry as
one file with all of them, or the same is wrong with both. -/
theorem load_divided {files' : FileTree} {file : FilePath}
    (hplain : ∀ item ∈ parts.flatMap Prod.snd, Plain item)
    (hdirectory : Divides files directory parts)
    (hfile : Stores files' file (parts.flatMap Prod.snd)) :
    (∃ r, load files directory = .ok r ∧ load files' file = .ok r) ∨
      ∃ e, load files directory = .error (.registry e) ∧
        load files' file = .error (.registry e) := by
  rw [load_of_divides hplain hdirectory, load_of_stores hplain hfile]
  cases ofJsons (parts.flatMap Prod.snd) with
  | ok r => exact .inl ⟨r, rfl, rfl⟩
  | error e => exact .inr ⟨e, rfl, rfl⟩

end GatedModules.Registry

/-! ## Three forms in one directory -/

namespace GatedModules.ThreeForms

open Registry

def item (name : Text) : Json := .obj [("name", .str name)]

/-- A list, an object with a list and a bare module, beside a file that is no part. -/
def divided : FileTree := ⟨[], [
  (["mods"], .directory),
  (["mods", "c.json"], .file "\x7b\"name\": \"C\"\x7d".toUTF8),
  (["mods", "a.json"], .file "[\x7b\"name\": \"B\"\x7d, \x7b\"name\": \"A\"\x7d]".toUTF8),
  (["mods", "notes.txt"], .file "[1]".toUTF8),
  (["mods", "b.json"], .file "\x7b\"modules\": []\x7d".toUTF8)]⟩

def whole : FileTree := ⟨[], [(["all.json"], .file <| String.toUTF8
  "\x7b\"modules\":[\x7b\"name\":\"B\"\x7d,\x7b\"name\":\"A\"\x7d,\x7b\"name\":\"C\"\x7d]\x7d")]⟩

def parts : List (Text × List Json) :=
  [("a.json", [item "B", item "A"]), ("b.json", []), ("c.json", [item "C"])]

theorem divides_parts : Divides divided (.ofText "mods") parts where
  names := by
    refine ⟨["mods"], by decide +kernel, by rfl, ?_⟩
    exact ((sortNames_perm _).filter _).trans (by decide +kernel)
  increasing := by decide +kernel
  stored := by
    simp only [parts, List.forall_mem_cons]
    refine ⟨?_, ?_, ?_, by simp⟩
    · exact stores_iff.2 ⟨.arr [item "B", item "A"], by decide +kernel, .bare _⟩
    · exact stores_iff.2 ⟨.obj [("modules", .arr [])], by decide +kernel, .listed rfl⟩
    · exact stores_iff.2 ⟨item "C", by decide +kernel, .single _⟩

theorem stores_whole : Stores whole (.ofText "all.json") (parts.flatMap Prod.snd) :=
  stores_iff.2 ⟨.obj [("modules", .arr [item "B", item "A", item "C"])], by decide +kernel,
    .listed rfl⟩

theorem load_divided_threeForms :
    ∃ r, load divided (.ofText "mods") = .ok r ∧ load whole (.ofText "all.json") = .ok r ∧
      r.names = ["B", "A", "C"] := by
  have hplain : ∀ item ∈ parts.flatMap Prod.snd, Plain item := by decide +kernel
  have hnames : (load whole (.ofText "all.json")).toOption.map names =
      some (["B", "A", "C"] : List Text) := by
    decide +kernel
  rcases load_divided hplain divides_parts stores_whole with ⟨r, hr, hr'⟩ | ⟨e, -, he⟩
  · refine ⟨r, hr, hr', ?_⟩
    rw [hr'] at hnames
    exact Option.some.inj hnames
  · rw [he] at hnames
    cases hnames

end GatedModules.ThreeForms
