import GatedModules.Vocabulary

/-!
# Build configurations
-/

namespace GatedModules

inductive Configuration where
  | debug
  | development
  | shipping
  | test
  deriving DecidableEq, Repr, Inhabited

namespace Configuration

def all : List Configuration := [.debug, .development, .shipping, .test]

def name : Configuration → String
  | .debug => "Debug"
  | .development => "Development"
  | .shipping => "Shipping"
  | .test => "Test"

def vocabulary : Vocabulary Configuration where
  title := "Configuration"
  noun := "configuration"
  words := all.map fun c => (c.name, c)
  listed := true

def ofName? (name : Text) : Option Configuration := vocabulary.find? name

/-- Whether a name is that of a configuration. -/
def isKnownName (name : Text) : Bool := all.any fun c => Text.sameLower name c.name

def read (value : Json) : Except WordError Configuration := vocabulary.read value

end Configuration

end GatedModules
