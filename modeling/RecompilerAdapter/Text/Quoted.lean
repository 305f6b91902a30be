/-
Module: RecompilerAdapter.Text.Quoted
Purpose: Quoted text for messages to developers: the text between double quotes, with escapes for the
  quote, the backslash, the common controls, and by number for characters that would not be visible.
Trusted boundary: the definitions of this module
Main exports: quote
-/
import RecompilerAdapter.Text.Unshown

namespace RecompilerAdapter.Text

/-- The digits of a number in lower-case hexadecimal. -/
def hexadecimal (value : Nat) : String :=
  String.ofList (Nat.toDigits 16 value)

/-- The number in lower-case hexadecimal, padded with zeros to at least `width` digits. -/
def paddedHexadecimal (width value : Nat) : String :=
  let digits := Nat.toDigits 16 value
  String.ofList (List.replicate (width - digits.length) '0' ++ digits)

/-- How a character is written between quotes. -/
def quoteChar (char : Char) : String :=
  if char = '"' then "\\\""
  else if char = '\\' then "\\\\"
  else if char = '\n' then "\\n"
  else if char = '\r' then "\\r"
  else if char = '\t' then "\\t"
  else if char.toNat = 0 then "\\0"
  else if char.toNat < 0x20 ∨ (0x7E < char.toNat ∧ isUnshown char) then
    "\\u\x7b" ++ hexadecimal char.toNat ++ "\x7d"
  else
    String.singleton char

/-- The text between double quotes. -/
def quote (text : String) : String :=
  "\"" ++ String.join (text.toList.map quoteChar) ++ "\""

end RecompilerAdapter.Text
