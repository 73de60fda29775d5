import GatedModules.Text.Basic

/-!
# Integers as people write them

An integer may stand between blanks, carry one sign, use the decimal digits of any script and part
its digits with single underscores.
-/

namespace GatedModules.Text

/-- The zeros of the decimal digits of Unicode 14; the nine digits follow each. -/
def digitZeros : List Nat := [
  0x30, 0x660, 0x6F0, 0x7C0, 0x966, 0x9E6, 0xA66, 0xAE6, 0xB66, 0xBE6, 0xC66, 0xCE6, 0xD66,
  0xDE6, 0xE50, 0xED0, 0xF20, 0x1040, 0x1090, 0x17E0, 0x1810, 0x1946, 0x19D0, 0x1A80, 0x1A90,
  0x1B50, 0x1BB0, 0x1C40, 0x1C50, 0xA620, 0xA8D0, 0xA900, 0xA9D0, 0xA9F0, 0xAA50, 0xABF0, 0xFF10,
  0x104A0, 0x10D30, 0x11066, 0x110F0, 0x11136, 0x111D0, 0x112F0, 0x11450, 0x114D0, 0x11650,
  0x116C0, 0x11730, 0x118E0, 0x11950, 0x11C50, 0x11D50, 0x11DA0, 0x16A60, 0x16AC0, 0x16B50,
  0x1D7CE, 0x1D7D8, 0x1D7E2, 0x1D7EC, 0x1D7F6, 0x1E140, 0x1E2F0, 0x1E950, 0x1FBF0]

/-- The value of a decimal digit. -/
def digitValue? (c : Char) : Option Nat :=
  (digitZeros.find? fun z => z ≤ c.toNat && c.toNat < z + 10).map (c.toNat - ·)

/-- The digits of a number in which an underscore may stand between two digits. -/
def digitValues? : List Char → Option (List Nat)
  | [] => none
  | [c] => (digitValue? c).map ([·])
  | c :: '_' :: rest => do return (← digitValue? c) :: (← digitValues? rest)
  | c :: rest => do return (← digitValue? c) :: (← digitValues? rest)

/-- The blanks that may stand around an integer: every blank except the four separators. -/
def isIntegerMargin (c : Char) : Bool := isBlank c && !(0x1C ≤ c.toNat && c.toNat ≤ 0x1F)

/-- The longest integer that is read, in digits. -/
def digitLimit : Nat := 4300

/-- The number with these digits, if it is not too long. -/
def ofDigits? (digits : List Nat) : Option Nat :=
  if digits.length ≤ digitLimit then some (digits.foldl (fun n d => 10 * n + d) 0) else none

/-- The integer that a text stands for. -/
def integer? (t : Text) : Option Int :=
  match trimmed isIntegerMargin t.chars with
  | '-' :: cs => do return -((← ofDigits? (← digitValues? cs)) : Int)
  | '+' :: cs => do return ((← ofDigits? (← digitValues? cs)) : Int)
  | cs => do return ((← ofDigits? (← digitValues? cs)) : Int)

end GatedModules.Text
