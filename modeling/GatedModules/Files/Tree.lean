import GatedModules.Files.Path
import GatedModules.Lists

/-!
# File trees

The files that a program can see, as a value: which places hold a file and which a directory. A
place is the list of the names that lead to it from the root.
-/

namespace GatedModules

/-- What stands at a place. -/
inductive FileEntry where
  | file (content : ByteArray)
  | directory

namespace FileEntry

def isFile : FileEntry → Bool
  | .file _ => true
  | .directory => false

def isDirectory : FileEntry → Bool
  | .file _ => false
  | .directory => true

end FileEntry

/-- The places where something stands, apart from the root, and the place of the current directory.
-/
structure FileTree where
  here : List Text
  entries : List (List Text × FileEntry)

/-- What the system says when an operation on a file fails. -/
inductive FileFault where
  | notFound
  | exists
  | notDirectory
  | isDirectory
  | nameTooLong
  | zeroInPath
  | nameless (error : Text.Unwritable)
  deriving DecidableEq, Repr

def FileFault.text : FileFault → String
  | .notFound => "[Errno 2] No such file or directory"
  | .exists => "[Errno 17] File exists"
  | .notDirectory => "[Errno 20] Not a directory"
  | .isDirectory => "[Errno 21] Is a directory"
  | .nameTooLong => "[Errno 36] File name too long"
  | .zeroInPath => "embedded null byte"
  | .nameless error => error.message

/-- Whether a path does not even reach the system. -/
def FileFault.isInPath : FileFault → Bool
  | .zeroInPath | .nameless _ => true
  | _ => false

/-- An operation on a file that failed, with the path it was given. -/
structure FileError where
  fault : FileFault
  path : FilePath
  deriving DecidableEq, Repr

/-- A path that never reached the system is not shown. -/
def FileError.message (e : FileError) : String :=
  if e.fault.isInPath then e.fault.text
  else e.fault.text ++ ": " ++ Text.quoted e.path.text

namespace FileTree

/-- What stands at a place. The root is always there. -/
def entry? (tree : FileTree) (place : List Text) : Option FileEntry :=
  if place = [] then some .directory else tree.entries.lookup place

/-- The tree with something else at a place. -/
def set (tree : FileTree) (place : List Text) (entry : FileEntry) : FileTree :=
  { tree with entries := (place, entry) :: tree.entries.filter fun e => e.1 != place }

/-- The place that a name leads to; from the root no name leads up. -/
def follow (tree : FileTree) (place : List Text) (name : Text) :
    Except FileFault (List Text) :=
  match tree.entry? place with
  | none => .error .notFound
  | some (.file _) => .error .notDirectory
  | some .directory =>
    if name = ".." then .ok place.dropLast
    else if FilePath.partLimit < name.nameSize then .error .nameTooLong
    else if (tree.entry? (place ++ [name])).isSome then .ok (place ++ [name])
    else .error .notFound

/-- The place that some names lead to from another one. -/
def locateFrom (tree : FileTree) (place : List Text) (names : List Text) :
    Except FileFault (List Text) :=
  names.foldlM tree.follow place

/-- The place where a path begins. -/
def startOf (tree : FileTree) (p : FilePath) : List Text :=
  if p.start = .here then tree.here else []

/-- What is wrong with a path whatever the files are. -/
def check (p : FilePath) : Except FileFault Unit :=
  match p.nameless? with
  | some error => .error (.nameless error)
  | none =>
    if p.holdsZero then .error .zeroInPath
    else if p.isTooLong then .error .nameTooLong
    else .ok ()

/-- The place that a path leads to. -/
def locate (tree : FileTree) (p : FilePath) : Except FileFault (List Text) := do
  check p
  tree.locateFrom (tree.startOf p) p.names

/-- What stands where a path leads to. -/
def look (tree : FileTree) (p : FilePath) : Option FileEntry :=
  match tree.locate p with
  | .ok place => tree.entry? place
  | .error _ => none

def isDirectory (tree : FileTree) (p : FilePath) : Bool :=
  match tree.look p with
  | some .directory => true
  | _ => false

/-- What stands where a path leads to, if it leads anywhere. Only a path that is too long is an
error. -/
def find (tree : FileTree) (p : FilePath) : Except FileError (Option FileEntry) :=
  match tree.locate p with
  | .ok place => .ok (tree.entry? place)
  | .error .nameTooLong => .error ⟨.nameTooLong, p⟩
  | .error _ => .ok none

/-- Whether a path leads to a file. -/
def findsFile (tree : FileTree) (p : FilePath) : Except FileError Bool :=
  return (← tree.find p).any FileEntry.isFile

/-- Whether a path leads to a directory. -/
def findsDirectory (tree : FileTree) (p : FilePath) : Except FileError Bool :=
  return (← tree.find p).any FileEntry.isDirectory

/-- The names in a directory, in the order of their code points. -/
def names (tree : FileTree) (place : List Text) : List Text :=
  let inside := tree.entries.filterMap fun e =>
    if e.1.length = place.length + 1 ∧ place.isPrefixOf e.1 then e.1.getLast? else none
  sortNames inside

/-- The bytes of a file. -/
def read (tree : FileTree) (p : FilePath) : Except FileError ByteArray :=
  match tree.locate p with
  | .error fault => .error ⟨fault, p⟩
  | .ok place =>
    match tree.entry? place with
    | some (.file content) => .ok content
    | some .directory => .error ⟨.isDirectory, p⟩
    | none => .error ⟨.notFound, p⟩

/-- The place that a path names inside the directory that its parent leads to; none if the path
ends in no name. -/
def newPlace (tree : FileTree) (p : FilePath) : Except FileFault (Option (List Text)) :=
  match p.names.getLast? with
  | none => .ok none
  | some last => do
    check p
    let place ← tree.locate p.parent
    match tree.entry? place with
    | some .directory =>
      if last = ".." then return none
      else if FilePath.partLimit < last.nameSize then throw .nameTooLong
      else return some (place ++ [last])
    | _ => throw .notDirectory

/-- The tree with a new directory. -/
def makeDirectory (tree : FileTree) (p : FilePath) : Except FileError FileTree :=
  match tree.newPlace p with
  | .error fault => .error ⟨fault, p⟩
  | .ok none => .error ⟨.exists, p⟩
  | .ok (some place) =>
    if (tree.entry? place).isSome then .error ⟨.exists, p⟩ else .ok (tree.set place .directory)

/-- The tree with a directory; nothing is wrong if it is there already. -/
def ensureDirectory (tree : FileTree) (p : FilePath) : Except FileError FileTree :=
  match tree.makeDirectory p with
  | .ok tree => .ok tree
  | .error e => if tree.isDirectory p then .ok tree else .error e

/-- The tree with a directory and with those that it stands in. -/
def ensureDirectories (tree : FileTree) (p : FilePath) : Except FileError FileTree :=
  match tree.ensureDirectory p with
  | .ok tree => .ok tree
  | .error e =>
    if e.fault = .notFound ∧ p.parts ≠ [] then do
      let tree ← tree.ensureDirectories p.parent
      tree.ensureDirectory p
    else .error e
termination_by p.parts.length
decreasing_by
  rename_i h
  have := List.length_pos_iff.2 h.2
  simp [FilePath.parent]
  omega

/-- The place of a file and the tree with a text in it, whatever it held before. -/
def write (tree : FileTree) (p : FilePath) (text : String) :
    Except FileError (List Text × FileTree) :=
  match tree.newPlace p with
  | .error fault => .error ⟨fault, p⟩
  | .ok none => .error ⟨.isDirectory, p⟩
  | .ok (some place) =>
    match tree.entry? place with
    | some .directory => .error ⟨.isDirectory, p⟩
    | _ => .ok (place, tree.set place (.file text.toUTF8))

end FileTree

end GatedModules
