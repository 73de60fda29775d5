import GatedModules.Vocabulary

/-!
# Platforms

The platforms that a condition can name, and one value for all the others.
-/

namespace GatedModules

inductive Platform where
  | win32
  | win64
  | linux
  | linuxArm64
  | mac
  | ios
  | android
  | other
  deriving DecidableEq, Repr, Inhabited

namespace Platform

def all : List Platform := [.win32, .win64, .linux, .linuxArm64, .mac, .ios, .android, .other]

def name : Platform → String
  | .win32 => "Win32"
  | .win64 => "Win64"
  | .linux => "Linux"
  | .linuxArm64 => "LinuxArm64"
  | .mac => "Mac"
  | .ios => "IOS"
  | .android => "Android"
  | .other => "Other"

def vocabulary : Vocabulary Platform where
  title := "Platform"
  noun := "platform"
  words := all.map fun p => (p.name, p)

/-- The platform that a name stands for; a name that is not known stands for `other`. -/
def ofName (name : Text) : Platform := (vocabulary.find? name).getD .other

/-- The platform that a JSON value names. -/
def read (value : Json) : Except WordError Platform :=
  match value with
  | .str name => .ok (ofName name)
  | _ => .error (.notText vocabulary.title value)

/-- The platforms that a condition can name. -/
def known : List Platform := all.filter (· != .other)

/-- Whether a name is that of a platform which a condition can name. -/
def isKnownName (name : Text) : Bool := known.any fun p => Text.sameLower name p.name

end Platform

end GatedModules
