/-
Module: RecompilerAdapter.Json.Number
Purpose: Numbers, in two readings. `readNumber` finds the value of a number: an integer if it fits 64
  bits, otherwise a double-precision number. It keeps the digits that fit a 64-bit significand and lets
  the exponent account for the rest. `skipNumber` only checks the form and knows no range.
Trusted boundary: the definitions of this module
Main exports: readNumber, skipNumber
-/
import RecompilerAdapter.Json.Blank

namespace RecompilerAdapter.Json

/-- The significand never grows beyond 64 bits. -/
def significandLimit : Nat :=
  Nat.pow 2 64 - 1

/-- The exponent of a number is a 32-bit number. -/
def exponentLimit : Nat :=
  Nat.pow 2 31 - 1

/-- Appends digits to a number as long as it stays within a limit. What is left starts with the
first digit that does not fit, or with no digit. -/
def absorb (limit : Nat) (value : Nat) : List UInt8 → Nat × List UInt8
  | [] => (value, [])
  | byte :: rest =>
    if isDigit byte && value * 10 + digitValue byte ≤ limit then
      absorb limit (value * 10 + digitValue byte) rest
    else
      (value, byte :: rest)

/-- The double-precision number with the given parts. Beyond the finite range it is a fault. -/
def finish (negative : Bool) (significand : Nat) (exponent : Int) (rest : List UInt8) :
    Reading Found :=
  match Magnitude.ofDecimal? significand exponent with
  | some magnitude => .ok (.floatingPoint ⟨negative, magnitude⟩, rest)
  | none => .error (.afterTaken .numberOutOfRange rest)

/-- Reads the digits of an exponent and finishes the number. An exponent beyond its limit is a fault
right after the digit that exceeds it, unless the number is zero or the exponent negative; then the
number is zero. -/
def readExponentDigits (negative : Bool) (significand : Nat) (start : Int) (down : Bool) :
    List UInt8 → Reading Found
  | [] => .error (.afterTaken .endInValue [])
  | byte :: rest =>
    if isDigit byte then
      match absorb exponentLimit (digitValue byte) rest with
      | (exponent, after) =>
        if startsWithDigit after then
          if significand ≠ 0 ∧ !down then
            .error (.afterTaken .numberOutOfRange (after.drop 1))
          else
            .ok (.floatingPoint ⟨negative, .zero⟩, after.dropWhile isDigit)
        else
          finish negative significand (if down then start - exponent else start + exponent) after
    else
      .error (.afterTaken .invalidNumber rest)

/-- Reads what follows the `e` of an exponent. -/
def readExponent (negative : Bool) (significand : Nat) (start : Int) :
    List UInt8 → Reading Found
  | 0x2B :: rest => readExponentDigits negative significand start false rest
  | 0x2D :: rest => readExponentDigits negative significand start true rest
  | text => readExponentDigits negative significand start false text

/-- Whether an exponent comes next. -/
def startsExponent : List UInt8 → Bool
  | [] => false
  | byte :: _ => byte == 0x65 || byte == 0x45

/-- Finishes a number whose digits are read, with its exponent if there is one. -/
def readScale (negative : Bool) (significand : Nat) (exponent : Int) (text : List UInt8) :
    Reading Found :=
  if startsExponent text then readExponent negative significand exponent (text.drop 1)
  else finish negative significand exponent text

/-- Reads what follows the point of a number. Digits that no longer fit the significand are passed
over. -/
def readFraction (negative : Bool) (significand : Nat) (start : Int) (text : List UInt8) :
    Reading Found :=
  match absorb significandLimit significand text with
  | (significand, after) =>
    let places := text.length - after.length
    if startsWithDigit after then
      readScale negative significand (start - places) (after.dropWhile isDigit)
    else if places = 0 then
      match after with
      | [] => .error (.atNext .endInValue [])
      | _ => .error (.atNext .invalidNumber after)
    else
      readScale negative significand (start - places) after

/-- Finishes a number whose integral digits are read: `start` of them did not fit. -/
def readTail (negative : Bool) (significand : Nat) (start : Nat) : List UInt8 → Reading Found
  | 0x2E :: rest => readFraction negative significand start rest
  | text =>
    if startsExponent text then readExponent negative significand start (text.drop 1)
    else if start ≠ 0 then finish negative significand start text
    else if !negative then .ok (.integer significand, text)
    else if 0 < significand ∧ significand ≤ Nat.pow 2 63 then .ok (.integer (-significand), text)
    else finish negative significand 0 text

/-- Reads a number after its sign. -/
def readUnsigned (negative : Bool) : List UInt8 → Reading Found
  | [] => .error (.afterTaken .endInValue [])
  | byte :: rest =>
    if byte == 0x30 then
      if startsWithDigit rest then .error (.atNext .invalidNumber rest)
      else readTail negative 0 0 rest
    else if isDigit byte then
      match absorb significandLimit (digitValue byte) rest with
      | (significand, after) =>
        let beyond := after.dropWhile isDigit
        readTail negative significand (after.length - beyond.length) beyond
    else
      .error (.afterTaken .invalidNumber rest)

/-- Reads a number. -/
def readNumber : List UInt8 → Reading Found
  | 0x2D :: rest => readUnsigned true rest
  | text => readUnsigned false text

/-- Passes over the digits of an exponent; there is at least one. -/
def skipExponentDigits : List UInt8 → Except Fault (List UInt8)
  | [] => .error (.afterTaken .invalidNumber [])
  | byte :: rest =>
    if isDigit byte then .ok (rest.dropWhile isDigit)
    else .error (.afterTaken .invalidNumber rest)

/-- Passes over what follows the `e` of an exponent. -/
def skipExponent : List UInt8 → Except Fault (List UInt8)
  | 0x2B :: rest => skipExponentDigits rest
  | 0x2D :: rest => skipExponentDigits rest
  | text => skipExponentDigits text

/-- Passes over an exponent if there is one. -/
def skipScale (text : List UInt8) : Except Fault (List UInt8) :=
  if startsExponent text then skipExponent (text.drop 1) else .ok text

/-- Passes over what follows the integral digits of a number. -/
def skipTail : List UInt8 → Except Fault (List UInt8)
  | 0x2E :: rest =>
    if startsWithDigit rest then skipScale (rest.dropWhile isDigit)
    else .error (.atNext .invalidNumber rest)
  | text => skipScale text

/-- Passes over a number after its sign. -/
def skipUnsigned : List UInt8 → Except Fault (List UInt8)
  | [] => .error (.afterTaken .invalidNumber [])
  | byte :: rest =>
    if byte == 0x30 then
      if startsWithDigit rest then .error (.atNext .invalidNumber rest) else skipTail rest
    else if isDigit byte then skipTail (rest.dropWhile isDigit)
    else .error (.afterTaken .invalidNumber rest)

/-- Passes over a number. -/
def skipNumber : List UInt8 → Except Fault (List UInt8)
  | 0x2D :: rest => skipUnsigned rest
  | text => skipUnsigned text

end RecompilerAdapter.Json
