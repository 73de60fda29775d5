import GatedModules.Json.Basic
import GatedModules.Text.Digit
import GatedModules.Text.Lines

/-!
# Reading JSON

The reader goes through the text once, from the left, and stops at the first fault. What is left of
the text at that point gives the place of the fault. Besides the standard values it reads `NaN`,
`Infinity` and `-Infinity`. Lists and objects stand in one another to a limited depth.
-/

namespace GatedModules.Json

inductive Fault where
  | byteOrderMark
  | expectingValue
  | expectingName
  | expectingColon
  | expectingComma
  | extraData
  | unterminatedString
  | controlCharacter
  | invalidEscape
  | invalidUnicodeEscape
  deriving DecidableEq, Repr

def Fault.text : Fault → String
  | .byteOrderMark => "Unexpected UTF-8 BOM (decode using utf-8-sig)"
  | .expectingValue => "Expecting value"
  | .expectingName => "Expecting property name enclosed in double quotes"
  | .expectingColon => "Expecting ':' delimiter"
  | .expectingComma => "Expecting ',' delimiter"
  | .extraData => "Extra data"
  | .unterminatedString => "Unterminated string starting at"
  | .controlCharacter => "Invalid control character at"
  | .invalidEscape => "Invalid \\escape"
  | .invalidUnicodeEscape => "Invalid \\uXXXX escape"

/-- A value that holds other values. -/
inductive Container where
  | list
  | object
  deriving DecidableEq, Repr

def Container.name : Container → String
  | .list => "array"
  | .object => "object"

/-- Why reading stopped: a fault with the text from its place on, an integer of too many digits, or
a value that stands in too many others. -/
inductive Stop where
  | fault (kind : Fault) (rest : List Char)
  | tooLong (digits : Nat)
  | tooDeep (container : Container)
  deriving DecidableEq, Repr

/-! ## Blanks -/

def isSpace (c : Char) : Bool := c == ' ' || c == '\t' || c == '\n' || c == '\r'

def skipSpace (cs : List Char) : List Char := cs.dropWhile isSpace

/-! ## Strings -/

/-- The value of a hexadecimal digit. -/
def hexValue? (c : Char) : Option Nat :=
  if '0' ≤ c ∧ c ≤ '9' then some (c.toNat - '0'.toNat)
  else if 'a' ≤ c ∧ c ≤ 'f' then some (c.toNat - 'a'.toNat + 10)
  else if 'A' ≤ c ∧ c ≤ 'F' then some (c.toNat - 'A'.toNat + 10)
  else none

/-- The four hexadecimal digits at the front of a text; something has to follow them. -/
def hexUnit? (cs : List Char) : Option Nat :=
  if cs.length ≤ 4 then none
  else (cs.take 4).foldlM (fun n c => (hexValue? c).map (16 * n + ·)) 0

def isHighSurrogate (n : Nat) : Bool := 0xD800 ≤ n && n < 0xDC00

def isLowSurrogate (n : Nat) : Bool := 0xDC00 ≤ n && n < 0xE000

/-- The code point of a UTF-16 unit that stands alone. -/
def unitPoint (n : Nat) : CodePoint :=
  if h : n - 0xD800 < 0x800 ∧ 0xD800 ≤ n then .half ⟨n - 0xD800, h.1⟩ else .char (Char.ofNat n)

/-- The code point that an escape stands for and how many characters the escape has, from the text
after the backslash. A high surrogate takes a low one that follows it into the same character. -/
def unescape (cs : List Char) : Except (Fault × List Char) (CodePoint × Nat) :=
  match cs with
  | '"' :: _ => .ok (.char '"', 1)
  | '\\' :: _ => .ok (.char '\\', 1)
  | '/' :: _ => .ok (.char '/', 1)
  | 'b' :: _ => .ok (.char '\x08', 1)
  | 'f' :: _ => .ok (.char '\x0c', 1)
  | 'n' :: _ => .ok (.char '\n', 1)
  | 'r' :: _ => .ok (.char '\r', 1)
  | 't' :: _ => .ok (.char '\t', 1)
  | 'u' :: digits =>
    match hexUnit? digits with
    | none => .error (.invalidUnicodeEscape, cs)
    | some high =>
      match digits.drop 4 with
      | '\\' :: 'u' :: digits' =>
        if isHighSurrogate high && 4 < digits'.length then
          match hexUnit? digits' with
          | none => .error (.invalidUnicodeEscape, 'u' :: digits')
          | some low =>
            if isLowSurrogate low then
              .ok (.char (Char.ofNat (0x10000 + (high - 0xD800) * 0x400 + (low - 0xDC00))), 11)
            else .ok (unitPoint high, 5)
        else .ok (unitPoint high, 5)
      | _ => .ok (unitPoint high, 5)
  | _ => .error (.invalidEscape, '\\' :: cs)

/-- The code points of a string up to its closing quote. The first `skip` characters belong to an
escape that has been read; `opening` is the text from the opening quote on. -/
def readPoints (opening : List Char) :
    Nat → List Char → Except Stop (List CodePoint × List Char)
  | _, [] => .error (.fault .unterminatedString opening)
  | skip + 1, _ :: rest => readPoints opening skip rest
  | 0, c :: rest =>
    if c = '"' then .ok ([], rest)
    else if c = '\\' then
      if rest.isEmpty then .error (.fault .unterminatedString opening)
      else match unescape rest with
        | .error (kind, place) => .error (.fault kind place)
        | .ok (point, size) =>
          (readPoints opening size rest).map fun (points, rest) => (point :: points, rest)
    else if c.toNat < 0x20 then .error (.fault .controlCharacter (c :: rest))
    else (readPoints opening 0 rest).map fun (points, rest) => (.char c :: points, rest)

/-- The string whose opening quote stands before `rest`. -/
def readString (rest : List Char) : Except Stop (Text × List Char) :=
  (readPoints ('"' :: rest) 0 rest).map fun (points, rest) => (⟨points⟩, rest)

/-! ## Numbers -/

def isDigit (c : Char) : Bool := '0' ≤ c && c ≤ '9'

def digitsValue (cs : List Char) : Nat := cs.foldl (fun n c => 10 * n + (c.toNat - '0'.toNat)) 0

/-- The digits after a point. A point without digits is not part of the number. -/
def splitFraction (cs : List Char) : List Char × List Char :=
  match cs with
  | '.' :: rest =>
    if (rest.takeWhile isDigit).isEmpty then ([], cs)
    else (rest.takeWhile isDigit, rest.dropWhile isDigit)
  | _ => ([], cs)

/-- The exponent, if there is one. An `e` without digits is not part of the number. -/
def splitExponent (cs : List Char) : Option Int × List Char :=
  match cs with
  | e :: rest =>
    if e = 'e' ∨ e = 'E' then
      let (negative, digits) := match rest with
        | '-' :: digits => (true, digits)
        | '+' :: digits => (false, digits)
        | digits => (false, digits)
      if (digits.takeWhile isDigit).isEmpty then (none, cs)
      else
        let n : Int := digitsValue (digits.takeWhile isDigit)
        (some (if negative then -n else n), digits.dropWhile isDigit)
    else (none, cs)
  | [] => (none, cs)

/-- The digits before a point: a zero stands alone. -/
def splitWhole (cs : List Char) : List Char × List Char :=
  match cs with
  | '0' :: rest => (['0'], rest)
  | _ => (cs.takeWhile isDigit, cs.dropWhile isDigit)

/-- A number; `start` is the text from its first character on. -/
def readNumber (start : List Char) : Except Stop (Json × List Char) :=
  let (negative, cs) := match start with
    | '-' :: cs => (true, cs)
    | cs => (false, cs)
  let (whole, cs) := splitWhole cs
  if whole.isEmpty then .error (.fault .expectingValue start)
  else
    let (fraction, cs) := splitFraction cs
    let (exponent, cs) := splitExponent cs
    if fraction.isEmpty && exponent.isNone then
      if Text.digitLimit < whole.length then .error (.tooLong whole.length)
      else
        let n : Int := digitsValue whole
        .ok (.int (if negative then -n else n), cs)
    else
      .ok (.float (Double.ofDecimal negative (digitsValue (whole ++ fraction))
        (exponent.getD 0 - fraction.length)), cs)

/-! ## Values -/

/-- The values that are words. -/
def words : List (List Char × Json) := [
  ("null".toList, .null), ("true".toList, .bool true), ("false".toList, .bool false),
  ("NaN".toList, .float .nan), ("Infinity".toList, .float (.infinite false)),
  ("-Infinity".toList, .float (.infinite true))]

/-- A word or a number. -/
def readScalar (cs : List Char) : Except Stop (Json × List Char) :=
  match words.find? fun w => w.1.isPrefixOf cs with
  | some (word, value) => .ok (value, cs.drop word.length)
  | none => readNumber cs

/-- How many lists and objects may stand in one another. -/
def depthLimit : Nat := 989

mutual

/-- A value at the front of a text, in which `depth` lists and objects may stand in one another.
Every call takes one from the fuel. -/
def readValue (depth : Nat) : Nat → List Char → Except Stop (Json × List Char)
  | _ + 1, '"' :: rest => do
    let (s, rest) ← readString rest
    return (.str s, rest)
  | fuel + 1, '[' :: rest =>
    if depth = 0 then .error (.tooDeep .list)
    else match skipSpace rest with
      | ']' :: rest => .ok (.arr [], rest)
      | rest => do
        let (items, rest) ← readItems (depth - 1) fuel rest
        return (.arr items, rest)
  | fuel + 1, '\x7b' :: rest =>
    if depth = 0 then .error (.tooDeep .object)
    else match skipSpace rest with
      | '\x7d' :: rest => .ok (.obj [], rest)
      | rest => do
        let (members, rest) ← readMembers (depth - 1) fuel rest
        return (.obj (ofPairs members), rest)
  | _, cs => readScalar cs

/-- The items of a list from one item on, with the closing bracket. -/
def readItems (depth fuel : Nat) (cs : List Char) : Except Stop (List Json × List Char) :=
  match fuel with
  | 0 => .error (.fault .expectingValue cs)
  | fuel + 1 => do
    let (value, rest) ← readValue depth fuel cs
    match skipSpace rest with
    | ']' :: rest => return ([value], rest)
    | ',' :: rest => do
      let (values, rest) ← readItems depth fuel (skipSpace rest)
      return (value :: values, rest)
    | rest => .error (.fault .expectingComma rest)

/-- The members of an object from one name on, with the closing bracket. -/
def readMembers (depth fuel : Nat) (cs : List Char) :
    Except Stop (List (Text × Json) × List Char) :=
  match fuel with
  | 0 => .error (.fault .expectingValue cs)
  | fuel + 1 =>
    match cs with
    | '"' :: rest => do
      let (key, rest) ← readString rest
      match skipSpace rest with
      | ':' :: rest => do
        let (value, rest) ← readValue depth fuel (skipSpace rest)
        match skipSpace rest with
        | '\x7d' :: rest => return ([(key, value)], rest)
        | ',' :: rest => do
          let (members, rest) ← readMembers depth fuel (skipSpace rest)
          return ((key, value) :: members, rest)
        | rest => .error (.fault .expectingComma rest)
      | rest => .error (.fault .expectingColon rest)
    | rest => .error (.fault .expectingName rest)

end

/-- The one value that a text holds. Every call of the reader either takes a character away or
follows one that did, so twice the length of the text is fuel enough. -/
def readText (cs : List Char) : Except Stop Json :=
  if cs.head? = some '\uFEFF' then .error (.fault .byteOrderMark cs)
  else do
    let (value, rest) ← readValue depthLimit (2 * cs.length + 1) (skipSpace cs)
    match skipSpace rest with
    | [] => return value
    | rest => .error (.fault .extraData rest)

/-- Why a text is not read: a fault with its offset, line and column, an integer of too many
digits, or a value that stands in too many others. -/
inductive ReadError where
  | malformed (kind : Fault) (offset line column : Nat)
  | tooLong (digits : Nat)
  | tooDeep (container : Container)
  deriving DecidableEq, Repr

def ReadError.message : ReadError → String
  | .malformed kind offset line column =>
    kind.text ++ ": line " ++ toString line ++ " column " ++ toString column ++ " (char "
      ++ toString offset ++ ")"
  | .tooLong digits =>
    "Exceeds the limit (" ++ toString Text.digitLimit
      ++ " digits) for integer string conversion: value has " ++ toString digits
      ++ " digits; use sys.set_int_max_str_digits() to increase the limit"
  | .tooDeep container =>
    "maximum recursion depth exceeded while decoding a JSON " ++ container.name
      ++ " from a unicode string"

/-- Turns the text that was left into a place in the whole text. -/
def Stop.locate (cs : List Char) : Stop → ReadError
  | .fault kind rest =>
    let offset := cs.length - rest.length
    let (line, column) := Text.placeAfter (cs.take offset)
    .malformed kind offset line column
  | .tooLong digits => .tooLong digits
  | .tooDeep container => .tooDeep container

/-- The value that a text holds. -/
def read (cs : List Char) : Except ReadError Json := (readText cs).mapError (Stop.locate cs)

end GatedModules.Json
