import GatedModules.Proofs.Results
import GatedModules.Registry.Samples

/-!
# What keeps a file from being loaded

A file that cannot be read is not found, stands where no file can be or is a directory. Of these a
registry reports only the first itself; a directory under the name of a JSON file and a path that is
too long are told of by the system, and content that is nested too deeply by the reader of JSON. The
files of a sample are there when they are read, so only looking for them can fail.
-/

namespace GatedModules

/-! ## Reading a file -/

namespace FileTree

variable {tree : FileTree} {p : FilePath}

theorem locate_eq_ok {place : List Text} :
    tree.locate p = .ok place ↔
      check p = .ok () ∧ tree.locateFrom (tree.startOf p) p.names = .ok place := by
  rw [locate, bind_eq_ok_iff]
  constructor
  · rintro ⟨⟨⟩, hcheck, hplace⟩
    exact ⟨hcheck, hplace⟩
  · rintro ⟨hcheck, hplace⟩
    exact ⟨(), hcheck, hplace⟩

theorem locateFrom_concat (start : List Text) (names : List Text) (name : Text) :
    tree.locateFrom start (names ++ [name]) =
      (tree.locateFrom start names >>= fun place => tree.follow place name) := by
  simp [locateFrom, List.foldlM_append]

end FileTree

/-! ## Registries -/

namespace Registry

variable {files : FileTree} {path : FilePath}

/-- A file that belongs to a registry is there and the system does not let it be read. -/
inductive Unreadable (files : FileTree) (path : FilePath) : FileError → Prop
  | pathTooLong (h : files.locate path = .error .nameTooLong) :
    Unreadable files path ⟨.nameTooLong, path⟩
  | fileTooLong {name : Text} (hdirectory : files.isDirectory path = true)
    (hname : isJsonName name = true) (h : files.locate (path.child name) = .error .nameTooLong) :
    Unreadable files path ⟨.nameTooLong, path.child name⟩
  | directory {name : Text} (hdirectory : files.isDirectory path = true)
    (hname : isJsonName name = true) (h : files.isDirectory (path.child name) = true) :
    Unreadable files path ⟨.isDirectory, path.child name⟩

/-- A file that belongs to a registry. -/
def Holds (files : FileTree) (path file : FilePath) : Prop :=
  ∃ files', sources files path = .ok files' ∧ file ∈ files'

/-- The content of a file is nested too deeply for the reader. -/
def TooDeep (files : FileTree) (file : FilePath) (c : Json.Container) : Prop :=
  ∃ content, files.read file = .ok content ∧
    readContent content = .error (.malformed (.tooDeep c))

end Registry

/-! ## Targets -/

namespace Target

variable {files : FileTree} {path : FilePath}

end Target

/-! ## Samples -/

namespace Sample

variable {files : FileTree} {samples directory path : FilePath} {name : Text}

/-- A file of the sample in a directory. -/
def IsPart (directory path : FilePath) : Prop :=
  path = targetFile directory ∨ path = modulesFile directory

/-- The system does not let a sample be looked for, or else the samples be listed. -/
inductive Unreadable (files : FileTree) (samples : FilePath) (name : Text) : FileError → Prop
  | tooLong {path : FilePath} (hpart : IsPart (samples.join name) path)
    (h : files.locate path = .error .nameTooLong) :
    Unreadable files samples name ⟨.nameTooLong, path⟩
  | entryTooLong {other : Text} {path : FilePath}
    (hpath : path = samples.child other ∨ IsPart (samples.child other) path)
    (h : files.locate path = .error .nameTooLong) :
    Unreadable files samples name ⟨.nameTooLong, path⟩
  | lost {fault : FileFault} (h : files.locate samples = .error fault) :
    Unreadable files samples name ⟨fault, samples⟩
  | noDirectory (h : files.isDirectory samples = false) :
    Unreadable files samples name ⟨.notDirectory, samples⟩

end Sample

end GatedModules
