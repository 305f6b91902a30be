/-
Module: RecompilerAdapter.Json.Blank
Purpose: The smallest parts of a JSON text: blanks, the words `null`, `true` and `false`, and digits.
Trusted boundary: the definitions of this module
Main exports: skipBlanks, takeWord, isDigit
-/
import RecompilerAdapter.Json.Fault

namespace RecompilerAdapter.Json

/-- Space, line feed, tabulator and carriage return separate the parts of a text. -/
def isBlank (byte : UInt8) : Bool :=
  byte == 0x20 || byte == 0x0A || byte == 0x09 || byte == 0x0D

/-- What is left after the blanks. -/
def skipBlanks (text : List UInt8) : List UInt8 :=
  text.dropWhile isBlank

/-- Decimal digits. -/
def isDigit (byte : UInt8) : Bool :=
  0x30 ≤ byte && byte ≤ 0x39

/-- The value of a decimal digit. -/
def digitValue (byte : UInt8) : Nat :=
  byte.toNat - 0x30

/-- Whether a digit comes next. -/
def startsWithDigit : List UInt8 → Bool
  | [] => false
  | byte :: _ => isDigit byte

/-- Takes the given bytes one by one. A wrong byte counts as taken. -/
def takeWord : (word text : List UInt8) → Except Fault (List UInt8)
  | [], text => .ok text
  | _ :: _, [] => .error (.afterTaken .endInValue [])
  | expected :: word, byte :: text =>
    if byte == expected then takeWord word text
    else .error (.afterTaken .identifierExpected text)

/-- What follows the `n` of `null`. -/
def nullRest : List UInt8 :=
  [0x75, 0x6C, 0x6C]

/-- What follows the `t` of `true`. -/
def trueRest : List UInt8 :=
  [0x72, 0x75, 0x65]

/-- What follows the `f` of `false`. -/
def falseRest : List UInt8 :=
  [0x61, 0x6C, 0x73, 0x65]

end RecompilerAdapter.Json
