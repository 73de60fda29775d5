import GatedModules.Proofs.DividedRegistry
import GatedModules.Proofs.ReaderLimits
import GatedModules.Proofs.Utf8

/-!
# What loaders do with the content of a file

A loader takes the content of a file, rejects it, or lets an error of the decoder or the reader
through. A registry lets three of them through: bytes that encode no text, an integer of too many
digits and values nested too deeply. A target lets only the last one through.
-/

namespace GatedModules

variable {files : FileTree} {path : FilePath} {content : ByteArray} {e : LoadError}

/-- The errors by which a loader rejects what a file holds. -/
def LoadError.isRejection : LoadError → Bool
  | .invalidJson _ _ | .noModules _ | .registry _ | .targetContent _ _ | .target _ _ => true
  | _ => false

/-- The decoder or the reader stops at some content with an error other than malformed JSON. -/
inductive Escapes (content : ByteArray) : LoadError → Prop
  | undecodable {fault : Text.Utf8.Fault} (h : Text.Utf8.decode content = .error fault) :
    Escapes content (.undecodable fault)
  | tooLong {cs : List Char} {digits : Nat} (hcontent : content = cs.utf8Encode)
    (h : Json.read (Text.unifyNewlines cs) = .error (.tooLong digits)) :
    Escapes content (.tooLong digits)
  | tooDeep {cs : List Char} {container : Json.Container} (hcontent : content = cs.utf8Encode)
    (h : Json.read (Text.unifyNewlines cs) = .error (.tooDeep container)) :
    Escapes content (.tooDeep container)

/-! ## The value of some content -/

theorem readContent_eq_undecodable_iff {fault : Text.Utf8.Fault} :
    readContent content = .error (.undecodable fault) ↔
      Text.Utf8.decode content = .error fault := by
  unfold readContent
  cases Text.Utf8.decode content with
  | error fault' => simp
  | ok cs => simp [mapError_eq_error_iff]

theorem readContent_eq_malformed_iff {error : Json.ReadError} :
    readContent content = .error (.malformed error) ↔
      ∃ cs, content = cs.utf8Encode ∧ Json.read (Text.unifyNewlines cs) = .error error := by
  simp only [← Text.Utf8.decode_eq_ok_iff]
  unfold readContent
  cases Text.Utf8.decode content with
  | error fault => simp
  | ok cs => simp [mapError_eq_error_iff]

/-- What becomes of a content error in a registry, unless the file is rejected as malformed JSON. -/
def ContentError.escape? : ContentError → Option LoadError
  | .undecodable fault => some (.undecodable fault)
  | .malformed (.tooLong digits) => some (.tooLong digits)
  | .malformed (.tooDeep container) => some (.tooDeep container)
  | .malformed (.malformed _ _ _ _) => none

theorem escapes_iff :
    Escapes content e ↔ ∃ error, readContent content = .error error ∧ error.escape? = some e := by
  constructor
  · intro h
    cases h with
    | undecodable h => exact ⟨_, readContent_eq_undecodable_iff.2 h, rfl⟩
    | tooLong hcontent h => exact ⟨_, readContent_eq_malformed_iff.2 ⟨_, hcontent, h⟩, rfl⟩
    | tooDeep hcontent h => exact ⟨_, readContent_eq_malformed_iff.2 ⟨_, hcontent, h⟩, rfl⟩
  · rintro ⟨error, hcontent, hescape⟩
    cases error with
    | undecodable fault =>
      cases hescape
      exact .undecodable (readContent_eq_undecodable_iff.1 hcontent)
    | malformed error =>
      obtain ⟨cs, hcs, h⟩ := readContent_eq_malformed_iff.1 hcontent
      cases error with
      | malformed => cases hescape
      | tooLong digits =>
        cases hescape
        exact .tooLong hcs h
      | tooDeep container =>
        cases hescape
        exact .tooDeep hcs h

theorem exists_escapes_undecodable_iff :
    (∃ fault, Escapes content (.undecodable fault)) ↔ ¬ content.IsValidUTF8 := by
  rw [← Text.Utf8.exists_decode_iff]
  constructor
  · rintro ⟨fault, hescapes⟩ ⟨cs, hcs⟩
    cases hescapes with
    | undecodable h =>
      rw [h] at hcs
      cases hcs
  · intro hnone
    cases h : Text.Utf8.decode content with
    | ok cs => exact absurd ⟨cs, h⟩ hnone
    | error fault => exact ⟨fault, .undecodable h⟩

theorem Escapes.not_isRejection (h : Escapes content e) : e.isRejection = false := by
  cases h <;> rfl

/-- The error of a loader, if there is one, is a rejection. -/
def Rejects (x : Except LoadError α) : Prop := Yields (fun _ => True) (·.isRejection = true) x

theorem Rejects.isRejection {x : Except LoadError α} (h : Rejects x) (hx : x = .error e) :
    e.isRejection = true := h.bearable_of_error hx

/-! ## Registries -/

namespace Registry

theorem load_of_read (h : files.read path = .ok content) :
    load files path = (readFile files path >>= fun data => entries path.text data >>= fun items =>
      (ofJsons items).mapError .registry) := by
  rw [load, sources_of_read h]
  change readFiles files [path] >>= _ = _
  rw [readFiles_cons]
  cases readFile files path with
  | error e => rfl
  | ok data =>
    change (entries path.text data >>= _) >>= _ = entries path.text data >>= _
    cases entries path.text data with
    | error e => rfl
    | ok items => simp [readFiles, bind, Except.bind]

theorem rejects_entries (source : Text) (data : Json) : Rejects (entries source data) := by
  simp only [entries]
  split
  · split
    · trivial
    · rfl
  · rfl

theorem load_of_value {data : Json} (hread : files.read path = .ok content)
    (h : readContent content = .ok data) : Rejects (load files path) := by
  rw [load_of_read hread, readFile_eq_ok_iff.2 ⟨content, hread, h⟩]
  refine (rejects_entries path.text data).bind fun items _ => ?_
  cases ofJsons items with
  | ok r => trivial
  | error e => rfl

theorem load_of_error {error : ContentError} (hread : files.read path = .ok content)
    (h : readContent content = .error error) :
    ∃ e, load files path = .error e ∧
      (error.escape? = some e ∨ error.escape? = none ∧ e.isRejection = true) := by
  rw [load_of_read hread]
  simp only [readFile, hread, h]
  cases error with
  | undecodable fault => exact ⟨_, rfl, .inl rfl⟩
  | malformed error =>
    cases error with
    | malformed => exact ⟨_, rfl, .inr ⟨rfl, rfl⟩⟩
    | tooLong digits => exact ⟨_, rfl, .inl rfl⟩
    | tooDeep container => exact ⟨_, rfl, .inl rfl⟩

theorem escapes_load_iff (hread : files.read path = .ok content) :
    load files path = .error e ∧ e.isRejection = false ↔ Escapes content e := by
  constructor
  · rintro ⟨hload, hnot⟩
    cases hcontent : readContent content with
    | ok data =>
      rw [(load_of_value hread hcontent).isRejection hload] at hnot
      cases hnot
    | error error =>
      obtain ⟨e', hload', hescape⟩ := load_of_error hread hcontent
      obtain rfl : e' = e := Except.error.inj (hload'.symm.trans hload)
      rcases hescape with hescape | ⟨-, hrejection⟩
      · exact escapes_iff.2 ⟨error, hcontent, hescape⟩
      · rw [hrejection] at hnot
        cases hnot
  · intro h
    obtain ⟨error, hcontent, hescape⟩ := escapes_iff.1 h
    obtain ⟨e', hload, hescape' | ⟨hnone, -⟩⟩ := load_of_error hread hcontent
    · obtain rfl : e' = e := Option.some.inj (hescape'.symm.trans hescape)
      exact ⟨hload, h.not_isRejection⟩
    · rw [hnone] at hescape
      cases hescape

end Registry

/-! ## Targets -/

namespace Target

theorem load_of_value {data : Json} (hread : files.read path = .ok content)
    (h : readContent content = .ok data) : Rejects (load files path) := by
  simp only [load, hread, h]
  cases ofJson data with
  | ok target => trivial
  | error e => rfl

theorem load_of_error {error : ContentError} (hread : files.read path = .ok content)
    (h : readContent content = .error error) :
    ∃ e, load files path = .error e ∧
      (error.escape? = some e ∧ (∃ container, e = .tooDeep container) ∨
        (∀ container, error.escape? ≠ some (.tooDeep container)) ∧ e.isRejection = true) := by
  simp only [load, hread, h]
  cases error with
  | undecodable fault => exact ⟨_, rfl, .inr ⟨by simp [ContentError.escape?], rfl⟩⟩
  | malformed error =>
    cases error with
    | malformed => exact ⟨_, rfl, .inr ⟨by simp [ContentError.escape?], rfl⟩⟩
    | tooLong digits => exact ⟨_, rfl, .inr ⟨by simp [ContentError.escape?], rfl⟩⟩
    | tooDeep container => exact ⟨_, rfl, .inl ⟨rfl, container, rfl⟩⟩

theorem escapes_load_iff (hread : files.read path = .ok content) :
    load files path = .error e ∧ e.isRejection = false ↔
      Escapes content e ∧ ∃ container, e = .tooDeep container := by
  constructor
  · rintro ⟨hload, hnot⟩
    cases hcontent : readContent content with
    | ok data =>
      rw [(load_of_value hread hcontent).isRejection hload] at hnot
      cases hnot
    | error error =>
      obtain ⟨e', hload', hescape⟩ := load_of_error hread hcontent
      obtain rfl : e' = e := Except.error.inj (hload'.symm.trans hload)
      rcases hescape with ⟨hescape, hdeep⟩ | ⟨-, hrejection⟩
      · exact ⟨escapes_iff.2 ⟨error, hcontent, hescape⟩, hdeep⟩
      · rw [hrejection] at hnot
        cases hnot
  · rintro ⟨h, container, rfl⟩
    obtain ⟨error, hcontent, hescape⟩ := escapes_iff.1 h
    obtain ⟨e', hload, ⟨hescape', -⟩ | ⟨hnone, -⟩⟩ := load_of_error hread hcontent
    · obtain rfl : e' = .tooDeep container := Option.some.inj (hescape'.symm.trans hescape)
      exact ⟨hload, rfl⟩
    · exact absurd hescape (hnone container)

end Target

/-! ## What is let through -/

/-- Neither loader rejects brackets that only open, past the limit of the reader. -/
theorem load_brackets {n : Nat} (h : Json.depthLimit < n)
    (hread : files.read path = .ok (List.replicate n '[').utf8Encode) :
    Registry.load files path = .error (.tooDeep .list) ∧
      Target.load files path = .error (.tooDeep .list) := by
  have hescapes : Escapes (List.replicate n '[').utf8Encode (.tooDeep .list) :=
    .tooDeep rfl (Json.read_brackets h)
  exact ⟨((Registry.escapes_load_iff hread).2 hescapes).1,
    ((Target.escapes_load_iff hread).2 ⟨hescapes, .list, rfl⟩).1⟩

/-- A registry lets through just what the decoder and the reader stop with, and a target only what
the reader says of values that are nested too deeply. The decoder stops where the bytes encode no
text, and the reader where so many digits stand in a row or so many brackets open.

How deeply calls may nest in the program itself is left out. An interpreter has a limit for that as
well, and conditions can reach it while a registry is built, with fewer brackets than the reader
takes: two equal ones that are nested 335 deep do so at 680 brackets. Loading then ends as it does
with a value nested too deeply. -/
theorem escapes_load (hread : files.read path = .ok content) :
    (∀ e, Registry.load files path = .error e ∧ e.isRejection = false ↔ Escapes content e) ∧
    (∀ e, Target.load files path = .error e ∧ e.isRejection = false ↔
      Escapes content e ∧ ∃ container, e = .tooDeep container) ∧
    ((∃ fault, Escapes content (.undecodable fault)) ↔ ¬ content.IsValidUTF8) ∧
    (∀ digits, Escapes content (.tooLong digits) → Text.digitLimit < digits ∧
      ∃ cs, content = cs.utf8Encode ∧ Json.HasDigits digits cs) ∧
    ∀ container, Escapes content (.tooDeep container) →
      ∃ cs, content = cs.utf8Encode ∧ Json.depthLimit < Json.openings cs := by
  refine ⟨fun _ => Registry.escapes_load_iff hread, fun _ => Target.escapes_load_iff hread,
    exists_escapes_undecodable_iff, fun digits h => ?_, fun container h => ?_⟩
  · cases h with
    | tooLong hcontent h =>
      obtain ⟨hlong, hdigits⟩ := Json.hasDigits_of_read h
      exact ⟨hlong, _, hcontent, hdigits⟩
  · cases h with
    | tooDeep hcontent h => exact ⟨_, hcontent, Json.openings_of_read h⟩

namespace LoneByte

def byte : ByteArray := ⟨#[0xFF]⟩

def tree : FileTree := ⟨[], [(["a.json"], .file byte)]⟩

def file : FilePath := .ofText "a.json"

theorem read_file : tree.read file = .ok byte := by decide +kernel

theorem not_isValidUTF8 : ¬ byte.IsValidUTF8 := by
  rw [← Text.Utf8.exists_decode_iff]
  rintro ⟨cs, hcs⟩
  have hfault : Text.Utf8.decode byte = .error ⟨0, 1, 0xFF, .invalidStart⟩ := by decide +kernel
  rw [hfault] at hcs
  cases hcs

theorem escapes_loneByte :
    (∃ fault, Registry.load tree file = .error (.undecodable fault)) ∧
      ∀ e, Target.load tree file = .error e → e.isRejection = true := by
  obtain ⟨hregistry, htarget, hdecoder, -, hreader⟩ := escapes_load read_file
  constructor
  · obtain ⟨fault, hfault⟩ := hdecoder.2 not_isValidUTF8
    exact ⟨fault, ((hregistry _).2 hfault).1⟩
  · intro e he
    by_contra hnot
    obtain ⟨hescapes, container, rfl⟩ := (htarget e).1 ⟨he, Bool.eq_false_iff.2 hnot⟩
    obtain ⟨cs, hcs, -⟩ := hreader container hescapes
    exact not_isValidUTF8 ⟨cs, hcs⟩

/-- A registry does not reject everything that is wrong with a file. -/
theorem not_rejects_content : ¬ ∀ (files : FileTree) (path : FilePath) (content : ByteArray),
    files.read path = .ok content →
      (∀ e, Registry.load files path = .error e → e.isRejection = true) ∧
      ∀ e, Target.load files path = .error e → e.isRejection = true := by
  intro h
  have hload : Registry.load tree file = .error (.undecodable ⟨0, 1, 0xFF, .invalidStart⟩) := by
    decide +kernel
  have hrejection := (h tree file byte read_file).1 _ hload
  cases hrejection

end LoneByte

end GatedModules
