import GatedModules.Number.Shortest

/-!
# Numbers as text

Two forms of a double: the shortest text that reads back as it, and a text with a fixed number of
decimals.
-/

namespace GatedModules

/-- The text `t` behind as many copies of `pad` as bring it to `width` characters. -/
def padLeft (width : Nat) (pad : Char) (t : String) : String :=
  String.ofList (List.replicate (width - t.length) pad) ++ t

/-- Zeros in a row. -/
def zeros (n : Nat) : String := String.ofList (List.replicate n '0')

namespace Double

/-- The digits of a number without the zeros at its end. -/
def significant (n : Nat) : List Char :=
  ((Nat.toDigits 10 n).reverse.dropWhile (· == '0')).reverse

/-- The decimal orders that are written without an exponent. -/
def isPositional (order : Int) : Bool := -4 ≤ order && order < 16

/-- Writes `0.d₁d₂… * 10 ^ point`: a whole number keeps one decimal zero, and an exponent has a
sign and at least two digits. -/
def layout (digits : List Char) (point : Int) : String :=
  let order := point - 1
  if isPositional order then
    if point ≤ 0 then "0." ++ zeros (-point).toNat ++ String.ofList digits
    else if (digits.length : Int) ≤ point then
      String.ofList digits ++ zeros (point - digits.length).toNat ++ ".0"
    else String.ofList (digits.take point.toNat) ++ "." ++ String.ofList (digits.drop point.toNat)
  else
    let fraction := if digits.length ≤ 1 then "" else "." ++ String.ofList (digits.drop 1)
    String.ofList (digits.take 1) ++ fraction ++ "e" ++ (if order < 0 then "-" else "+")
      ++ padLeft 2 '0' (toString order.natAbs)

/-- The shortest text of a double. -/
def text : Double → String
  | .nan => "nan"
  | .infinite negative => if negative then "-inf" else "inf"
  | .finite negative m e =>
    let sign := if negative then "-" else ""
    if m = 0 then sign ++ "0.0"
    else
      let (n, k) := shortest m e
      sign ++ layout (significant n) ((Nat.toDigits 10 n).length + k)

end Double

/-- The nonnegative number `num / den` with `places` decimals; a tie goes to the even digit. -/
def fixedText (places num den : Nat) : String :=
  let unit := Nat.pow 10 places
  let n := roundHalfEven (num * unit) den
  toString (n / unit) ++ "." ++ padLeft places '0' (toString (n % unit))

/-- A double with `places` decimals. The sign stays even where every digit is zero. -/
def Double.fixed (places : Nat) (x : Double) : String :=
  if x.isFinite then
    let (num, den) := x.toFraction
    (if x.isNegative then "-" else "") ++ fixedText places num.natAbs den
  else x.text

end GatedModules
