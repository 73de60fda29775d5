import GatedModules.Terminal.Pattern
import GatedModules.Terminal.Width
import GatedModules.Terminal.WordTable
import GatedModules.Text.Digit

/-!
# Parts that stand out

Where a text is meant for people, some parts of it stand out: tags, assignments, brackets,
addresses, calls, constants, numbers, paths, quoted texts and links. A line of such a text is put
out in pieces, and a piece begins and ends where such a part does.
-/

namespace GatedModules.Text

/-- A code point, and whether it belongs to a word. -/
structure Letter where
  point : CodePoint
  inWord : Bool
  deriving DecidableEq, Repr

def Letter.ofPoint (point : CodePoint) : Letter :=
  ⟨point, wordCharacters.holds point.toChar⟩

namespace Highlight

/-! ## Letters -/

def one (c : Char) : Pattern Letter := .one fun l => l.point = .char c

/-- A given text. -/
def exactly (s : String) : Pattern Letter := .sequence (s.toList.map one)

/-- One of some characters. -/
def among (s : String) : Pattern Letter := .one fun l => s.toList.any fun c => l.point = .char c

def wordLetter : Pattern Letter := .one Letter.inWord

/-- A letter of a word or one of some characters. -/
def wordOr (s : String) : Pattern Letter :=
  .one fun l => l.inWord || s.toList.any fun c => l.point = .char c

def digit : Pattern Letter := among "0123456789"

/-- A decimal digit of any script. -/
def anyDigit : Pattern Letter := .one fun l => (digitValue? l.point.toChar).isSome

def hexDigit : Pattern Letter := among "0123456789abcdefABCDEF"

/-- Any letter but a line end. -/
def inLine : Pattern Letter := .one fun l => l.point ≠ .char '\n'

/-! ## Between letters -/

def isInWord (l : Option Letter) : Bool := l.any Letter.inWord

/-- A place where a word begins or ends. -/
def wordEdge : Pattern Letter := .between fun before after => isInWord before != isInWord after

/-- A place where no word begins or ends. -/
def noWordEdge : Pattern Letter := .between fun before after => isInWord before == isInWord after

/-- A place that is not behind a word. -/
def notBehindWord : Pattern Letter := .between fun before _ => !isInWord before

/-- A place that is not behind a character. -/
def notBehind (c : Char) : Pattern Letter :=
  .between fun before _ => !before.any fun l => l.point = .char c

/-! ## The parts -/

/-- From a `<` to the last `>`, the name apart. -/
def tag : Pattern Letter := .sequence [
  .marked (one '<'), .marked (.many (wordOr "-.:|")), .marked (.many (.one fun _ => true)),
  .marked (one '>')]

/-- A name in front of `=`, and what it is set to. -/
def assignment : Pattern Letter := .sequence [
  .marked (.repeatedUpTo 50 wordLetter), one '=',
  .optional (.marked (.sequence [.optional (one '"'), .repeated wordLetter, .optional (one '"')]))]

def bracket : Pattern Letter := .marked (among "][\x7b\x7d()")

/-- Four numbers with points between them. -/
def dottedAddress : Pattern Letter :=
  let number := .repeatedUpTo 3 digit
  .marked (.sequence [number, one '.', number, one '.', number, one '.', number])

/-- Groups of hexadecimal digits with one or two colons between them. -/
def groupedAddress : Pattern Letter :=
  let group := .repeatedUpTo 4 hexDigit
  .marked (.both
    (.repeatedUpTo 7 (.sequence [group, one ':', .optional (one ':')])) group)

/-- An address of `pairs` bytes, or of `pairs / 2` groups of four digits. -/
def deviceAddress (pairs : Nat) : Pattern Letter :=
  let pair := .repeatedUpTo 2 hexDigit
  let four := .times 4 hexDigit
  .marked (.choice [
    .both (.times (pairs - 1) (.both pair (one '-'))) pair,
    .both (.times (pairs - 1) (.both pair (one ':'))) pair,
    .both (.times (pairs / 2 - 1) (.both four (one '.'))) four])

/-- Groups of 8, 4, 4, 4 and 12 hexadecimal digits. -/
def identifier : Pattern Letter :=
  let group := .both (.times 4 hexDigit) (one '-')
  .marked (.sequence [.times 8 hexDigit, one '-', group, group, group, .times 12 hexDigit])

/-- A name in front of a parenthesis. -/
def call : Pattern Letter := .both (.marked (.few (wordOr "."))) (one '(')

/-- A word by itself. -/
def constant (s : String) : Pattern Letter :=
  .sequence [wordEdge, .marked (exactly s), wordEdge]

def ellipsis : Pattern Letter := .marked (exactly "...")

/-- Digits, of which a point may stand behind some. -/
def mantissa : Pattern Letter :=
  .sequence [.repeated digit, .optional (one '.'), .many digit]

/-- An exponent; `digits` are those behind its sign. -/
def exponent (digits : Pattern Letter) : Pattern Letter :=
  .sequence [one 'e', .optional (among "-+"), digits]

/-- An exponent of as few digits as will do. -/
def shortExponent : Pattern Letter := exponent (.both anyDigit (.few anyDigit))

def complexNumber : Pattern Letter := .marked (.sequence [
  notBehindWord, .optional (one '-'), mantissa, .optional shortExponent,
  .optional (.sequence [among "-+", mantissa, .optional (exponent (.repeated anyDigit))]), one 'j'])

def number : Pattern Letter := .marked (.either
  (.sequence [
    notBehindWord, .optional (one '-'), mantissa, .optional shortExponent, wordEdge])
  (.both (exactly "0x") (.many hexDigit)))

/-- A path from a slash on, the name of the file apart. -/
def path : Pattern Letter :=
  let letter := wordOr "-._+"
  .both
    (.marked (.sequence [
      noWordEdge, .many (.both (one '/') (.repeated letter)), one '/']))
    (.marked (.many letter))

/-- A text between two marks in a line; the second one is not behind a backslash. -/
def between (mark : String) : Pattern Letter :=
  .sequence [.optional (one 'b'), exactly mark, .few inLine, notBehind '\\', exactly mark]

def quotedText : Pattern Letter := .sequence [
  notBehindWord, notBehind '\\',
  .marked (.choice [between "'''", between "'", between "\"\"\"", between "\""])]

def link : Pattern Letter := .marked (.sequence [
  .choice (["file", "https", "http", "ws", "wss"].map exactly), exactly "://",
  .many (.either digit (among
    "-ABCDEFGHIJKLMNOPQRSTUVWXYZabcdefghijklmnopqrstuvwxyz$_+!`(),.?/;:&=%#~@"))])

/-- What stands out, in groups: the parts of a group do not overlap, those of two groups may. -/
def groups : List (Pattern Letter) := [
  tag, assignment, bracket,
  .choice [
    dottedAddress, groupedAddress, deviceAddress 8, deviceAddress 6, identifier, call,
    constant "True", constant "False", constant "None", ellipsis, complexNumber, number, path,
    quotedText, link]]

end Highlight

/-- The parts of a text that stand out. -/
def standingOut (t : Text) : List Span :=
  Highlight.groups.flatMap fun p => p.marks (t.points.map .ofPoint)

/-- The places where the pieces of a text begin. A part that a tab stands in is divided behind the
tab. -/
def openings (t : Text) : List Nat :=
  let tabs := t.points.mapIdx fun i p => if p = .char '\t' then [i + 1] else []
  t.standingOut.flatMap fun span =>
    span.start :: span.stop :: tabs.flatten.filter fun i => span.start < i && i < span.stop

/-- The glyphs of a text in which some parts stand out. -/
def highlighted (t : Text) : List Glyph :=
  let openings := t.openings
  t.points.mapIdx fun i point => { point, opens := openings.contains i }

end GatedModules.Text
