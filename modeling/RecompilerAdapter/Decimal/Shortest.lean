/-
Module: RecompilerAdapter.Decimal.Shortest
Purpose: The shortest decimal text of a double-precision number. Among the decimals that round to the
  number, those with the fewest digits are considered, and of these the nearest is written; of two equally
  near ones the even one. Whether a decimal rounds to the number is decided in exact arithmetic.
Trusted boundary: the definitions of this module
Main exports: Decimal.shortest, Decimal.layout, Binary64.text
-/
import RecompilerAdapter.Decimal.Binary64

namespace RecompilerAdapter

/-- A decimal number, `digits * 10 ^ exponent`. -/
structure Decimal where
  digits : Nat
  exponent : Int
deriving Repr, DecidableEq

namespace Decimal

/-- Compares `left * 10 ^ leftExponent` with `right * 2 ^ rightExponent`. -/
def compareScaled (left : Nat) (leftExponent : Int) (right : Nat) (rightExponent : Int) :
    Ordering :=
  compare (left * Nat.pow 10 leftExponent.toNat * Nat.pow 2 (-rightExponent).toNat)
    (right * Nat.pow 2 rightExponent.toNat * Nat.pow 10 (-leftExponent).toNat)

/-- Whether a decimal rounds to the magnitude: it lies between the midpoints to the two neighbours,
or on one of them if the mantissa is even. Below a power of two the gap is half as wide. -/
def readsBack (value : Magnitude) (decimal : Decimal) : Bool :=
  let narrow := value.mantissa == Nat.pow 2 52 && -1074 < value.exponent
  let low := if narrow then 4 * value.mantissa - 1 else 4 * value.mantissa - 2
  let high := 4 * value.mantissa + 2
  let closed := value.mantissa % 2 == 0
  let fromLow := compareScaled decimal.digits decimal.exponent low (value.exponent - 2)
  let fromHigh := compareScaled decimal.digits decimal.exponent high (value.exponent - 2)
  (fromLow == .gt || (closed && fromLow == .eq)) && (fromHigh == .lt || (closed && fromHigh == .eq))

/-- The number of decimal digits of a positive number. -/
def digitCount (value : Nat) : Nat :=
  (Nat.toDigits 10 value).length

/-- The exponent of the leading decimal digit of a positive magnitude. -/
def leadingExponent (value : Magnitude) : Int :=
  if value.denominator ≤ value.numerator then
    (digitCount (value.numerator / value.denominator) : Int) - 1
  else
    -(((List.range 330).find? fun shift =>
      value.denominator ≤ value.numerator * Nat.pow 10 shift).getD 0 : Nat)

/-- The neighbour of the magnitude on the grid of multiples of `10 ^ exponent` that reads back, the
nearer one if both do. -/
def onGrid? (value : Magnitude) (exponent : Int) : Option Decimal :=
  let num := value.numerator * Nat.pow 10 (-exponent).toNat
  let den := value.denominator * Nat.pow 10 exponent.toNat
  let below : Decimal := ⟨num / den, exponent⟩
  let above : Decimal := ⟨num / den + 1, exponent⟩
  match readsBack value below, readsBack value above with
  | true, true => some ⟨Magnitude.nearestQuotient num den, exponent⟩
  | true, false => some below
  | false, true => some above
  | false, false => none

/-- Drops trailing zeros, at most `limit` of them. -/
def stripZeros (decimal : Decimal) : (limit : Nat) → Decimal
  | 0 => decimal
  | limit + 1 =>
    if decimal.digits % 10 = 0 ∧ decimal.digits ≠ 0 then
      stripZeros ⟨decimal.digits / 10, decimal.exponent + 1⟩ limit
    else
      decimal

/-- The shortest decimal of a positive magnitude, without trailing zeros. -/
def shortest (value : Magnitude) : Decimal :=
  let leading := leadingExponent value
  let grids := (List.range 17).map fun places => leading - Int.ofNat places
  stripZeros ((grids.findSome? (onGrid? value)).getD ⟨value.mantissa, 0⟩) 20

/-- `count` zeros. -/
def zeros (count : Nat) : String :=
  String.ofList (List.replicate count '0')

/-- Lays out a positive decimal: positionally from `1e-5` up to below `1e16`, with at least one
digit after the point; otherwise with an exponent that carries its sign. -/
def layout (decimal : Decimal) : String :=
  let digits := Nat.toDigits 10 decimal.digits
  let text := String.ofList digits
  let point : Int := digits.length + decimal.exponent
  if 0 ≤ decimal.exponent ∧ point ≤ 16 then
    text ++ zeros decimal.exponent.toNat ++ ".0"
  else if 0 < point ∧ point ≤ 16 then
    String.ofList (digits.take point.toNat) ++ "." ++ String.ofList (digits.drop point.toNat)
  else if -5 < point ∧ point ≤ 0 then
    "0." ++ zeros (-point).toNat ++ text
  else
    let exponent := point - 1
    let mantissa :=
      match digits with
      | [digit] => String.singleton digit
      | leading :: rest => String.singleton leading ++ "." ++ String.ofList rest
      | [] => ""
    mantissa ++ (if exponent < 0 then "e-" else "e+") ++ toString exponent.natAbs

end Decimal

namespace Binary64

/-- The shortest text that reads back as the number. -/
def text (value : Binary64) : String :=
  (if value.negative then "-" else "") ++
    (if value.magnitude.mantissa = 0 then "0.0"
    else (Decimal.shortest value.magnitude).layout)

end Binary64

end RecompilerAdapter
