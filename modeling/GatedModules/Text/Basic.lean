/-!
# Texts

A text is a sequence of code points. Beside characters it may hold halves of surrogate pairs that
stand alone, because the escapes of JSON can name them. Texts are ordered by their code points.
-/

namespace GatedModules

/-- A character, or one of the code points from `U+D800` to `U+DFFF`, which are halves of pairs. -/
inductive CodePoint where
  | char (c : Char)
  | half (index : Fin 0x800)
  deriving DecidableEq, Repr

namespace CodePoint

instance : Coe Char CodePoint := ⟨.char⟩

/-- The number of a code point. -/
def value : CodePoint → Nat
  | .char c => c.toNat
  | .half index => 0xD800 + index

def isHalf : CodePoint → Bool
  | .char _ => false
  | .half _ => true

/-- A code point as a character; a half, which is none, is replaced. -/
def toChar : CodePoint → Char
  | .char c => c
  | .half _ => '\uFFFD'

end CodePoint

structure Text where
  points : List CodePoint
  deriving DecidableEq, Repr, Inhabited

namespace Text

def ofChars (cs : List Char) : Text := ⟨cs.map .char⟩

def ofString (s : String) : Text := ofChars s.toList

instance : Coe String Text := ⟨ofString⟩

instance : Append Text := ⟨fun s t => ⟨s.points ++ t.points⟩⟩

/-- Whether a text begins with another. -/
def isPrefixOf (s t : Text) : Bool := s.points.isPrefixOf t.points

def length (t : Text) : Nat := t.points.length

/-- The texts one after the other. -/
def join (ts : List Text) : Text := ⟨ts.flatMap points⟩

/-- The texts one after the other, with a separator between them. -/
def intercalate (separator : Text) (ts : List Text) : Text :=
  ⟨separator.points.intercalate (ts.map points)⟩

/-- The characters of a text, its halves replaced. -/
def chars (t : Text) : List Char := t.points.map CodePoint.toChar

/-- A text as it can be printed. -/
def printed (t : Text) : String := String.ofList t.chars

/-- Whether a list of code points stands before another one, or is the same. At the first difference
the greater code point decides, and a beginning stands before what goes on. -/
def inOrder : List CodePoint → List CodePoint → Bool
  | [], _ => true
  | _ :: _, [] => false
  | p :: ps, q :: qs => decide (p.value < q.value) || (decide (p.value = q.value) && inOrder ps qs)

instance : LE Text := ⟨fun s t => inOrder s.points t.points = true⟩

instance (s t : Text) : Decidable (s ≤ t) :=
  inferInstanceAs (Decidable (inOrder s.points t.points = true))

/-! ## Classes of characters -/

/-- Inclusive ranges of code points, in ascending order. -/
abbrev CodeRanges := List (Nat × Nat)

/-- Whether a character lies in a range. The search stops at the first range past it. -/
def CodeRanges.holds : CodeRanges → Char → Bool
  | [], _ => false
  | (first, last) :: rest, c =>
    first ≤ c.toNat && (c.toNat ≤ last || CodeRanges.holds rest c)

/-! ## Blanks -/

/-- The white space of Unicode 14, with the four separators `U+001C` to `U+001F`. -/
def blanks : CodeRanges := [
  (0x9, 0xD), (0x1C, 0x20), (0x85, 0x85), (0xA0, 0xA0), (0x1680, 0x1680), (0x2000, 0x200A),
  (0x2028, 0x2029), (0x202F, 0x202F), (0x205F, 0x205F), (0x3000, 0x3000)]

def isBlank (c : Char) : Bool := blanks.holds c

/-- Whether a text holds nothing but blanks. -/
def isBlankText (t : Text) : Bool := t.chars.all isBlank

/-- A list without the elements at both ends that `p` accepts. -/
def trimmed (p : α → Bool) (xs : List α) : List α :=
  ((xs.dropWhile p).reverse.dropWhile p).reverse

end Text

def CodePoint.isBlank (p : CodePoint) : Bool := Text.isBlank p.toChar

end GatedModules
