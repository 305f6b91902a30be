/-
Module: RecompilerAdapter.Decimal.Binary64
Purpose: Finite double-precision numbers, exactly. A magnitude is `mantissa * 2 ^ exponent`; every
  operation computes its exact rational result and rounds it to the nearest representable magnitude, a tie
  going to the even mantissa. A result beyond the largest finite magnitude is reported as `none`.
Trusted boundary: the definitions of this module
Main exports: Magnitude, Magnitude.ofRatio?, Magnitude.ofDecimal?, Binary64
-/

namespace RecompilerAdapter

/-- A finite, non-negative double-precision number. Rounding keeps it in normal form: the mantissa
has 53 bits unless the exponent is the least one, -1074. -/
structure Magnitude where
  mantissa : Nat
  exponent : Int
deriving Repr, DecidableEq

namespace Magnitude

/-- Zero. -/
def zero : Magnitude :=
  ⟨0, -1074⟩

/-- The numerator of the exact value. -/
def numerator (value : Magnitude) : Nat :=
  value.mantissa * Nat.pow 2 value.exponent.toNat

/-- The denominator of the exact value. -/
def denominator (value : Magnitude) : Nat :=
  Nat.pow 2 (-value.exponent).toNat

/-- The quotient to the nearest integer, a tie going to the even neighbour. -/
def nearestQuotient (num den : Nat) : Nat :=
  let quotient := num / den
  let remainder := num % den
  if 2 * remainder < den then quotient
  else if den < 2 * remainder then quotient + 1
  else if quotient % 2 = 0 then quotient
  else quotient + 1

/-- Rounds `num / den` to a multiple of `2 ^ exponent`. -/
def roundAt (num den : Nat) (exponent : Int) : Nat :=
  nearestQuotient (num * Nat.pow 2 (-exponent).toNat) (den * Nat.pow 2 exponent.toNat)

/-- The exponent at which `num / den` has a mantissa of 53 bits, but at least -1074. -/
def exponentOf (num den : Nat) : Int :=
  let guess : Int := (Nat.log2 num : Int) - (Nat.log2 den : Int) - 52
  let floor := (num * Nat.pow 2 (-guess).toNat) / (den * Nat.pow 2 guess.toNat)
  let exact :=
    if floor < Nat.pow 2 52 then guess - 1
    else if Nat.pow 2 53 ≤ floor then guess + 1
    else guess
  max (-1074) exact

/-- The magnitude `mantissa * 2 ^ exponent`, where rounding may have carried into a 54th bit. -/
def carry (mantissa : Nat) (exponent : Int) : Magnitude :=
  if mantissa == Nat.pow 2 53 then ⟨Nat.pow 2 52, exponent + 1⟩ else ⟨mantissa, exponent⟩

/-- The magnitude nearest to `num / den`; `none` if that lies beyond the largest finite one. -/
def ofRatio? (num den : Nat) : Option Magnitude :=
  if num = 0 then
    some zero
  else
    let exponent := exponentOf num den
    let mantissa := roundAt num den exponent
    let value := carry mantissa exponent
    if value.exponent ≤ 971 then some value else none

/-- The nearest magnitude to a product. -/
def mul? (left right : Magnitude) : Option Magnitude :=
  ofRatio? (left.numerator * right.numerator) (left.denominator * right.denominator)

/-- The nearest magnitude to a quotient. The divisor is not zero. -/
def div? (left right : Magnitude) : Option Magnitude :=
  ofRatio? (left.numerator * right.denominator) (left.denominator * right.numerator)

/-- The nearest magnitude to a power of ten. -/
def powerOfTen (exponent : Nat) : Magnitude :=
  (ofRatio? (Nat.pow 10 exponent) 1).getD zero

/-- Divides by a power of ten, in steps of at most `10 ^ 308`, each of them rounded. -/
def scaleDown (value : Magnitude) (exponent : Nat) : Magnitude :=
  if exponent ≤ 308 then
    (value.div? (powerOfTen exponent)).getD zero
  else if value.mantissa = 0 then
    value
  else
    ((value.div? (powerOfTen 308)).getD zero).scaleDown (exponent - 308)
termination_by exponent

/-- Multiplies by a power of ten, both factors and the product being rounded. Powers beyond `10 ^
308` leave the finite range, unless the value is zero. -/
def scaleUp? (value : Magnitude) (exponent : Nat) : Option Magnitude :=
  if exponent ≤ 308 then value.mul? (powerOfTen exponent)
  else if value.mantissa = 0 then some value
  else none

/-- Scales a significand by a power of ten. The significand is rounded first and the scaling rounds
again, so the result need not be the magnitude nearest to the exact value. -/
def ofDecimal? (significand : Nat) (exponent : Int) : Option Magnitude :=
  (ofRatio? significand 1).bind fun value =>
    if 0 ≤ exponent then value.scaleUp? exponent.toNat
    else some (value.scaleDown (-exponent).toNat)

end Magnitude

/-- A finite double-precision number. Zero has both signs. -/
structure Binary64 where
  negative : Bool
  magnitude : Magnitude
deriving Repr, DecidableEq

end RecompilerAdapter
