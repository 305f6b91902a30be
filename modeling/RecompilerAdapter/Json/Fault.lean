/-
Module: RecompilerAdapter.Json.Fault
Purpose: What can be wrong with a JSON text, and where.
Trusted boundary: the definitions of this module
Main exports: Cause, Category, Fault, Reading
-/
import RecompilerAdapter.Decimal.Shortest
import RecompilerAdapter.Text.Quoted

/-!
A reader works on the bytes of the text and knows only what is left of it, so a fault records how
many bytes are left behind the reported place. Two conventions exist: a fault about the byte that
comes next counts that byte as passed, a fault about what was just taken counts exactly what was
taken.
-/

namespace RecompilerAdapter.Json

/-- What stands in the text where something else was expected. -/
inductive Found where
  | null
  | boolean (value : Bool)
  | integer (value : Int)
  | floatingPoint (value : Binary64)
  | text (bytes : List UInt8)
  | sequence
  | map
deriving Repr, DecidableEq

/-- What was expected instead. -/
inductive Expected where
  | boolean
  | record (name : String)
deriving Repr, DecidableEq

/-- The causes of a fault. -/
inductive Cause where
  | endInValue
  | endInList
  | endInObject
  | endInString
  | valueExpected
  | identifierExpected
  | colonExpected
  | listSeparatorExpected
  | objectSeparatorExpected
  | keyNotString
  | trailingComma
  | trailingCharacters
  | invalidNumber
  | numberOutOfRange
  | invalidEscape
  | controlCharacter
  | loneSurrogate
  | unfinishedSurrogatePair
  | invalidType (found : Found) (expected : Expected)
  | duplicateField (name : String)
deriving Repr, DecidableEq

/-- The three categories of faults: the text ends too early, it is no JSON, or it is JSON of the
wrong kind. -/
inductive Category where
  | endOfText
  | malformed
  | wrongData
deriving Repr, DecidableEq

/-- A fault, and the number of bytes behind the place where it is reported. -/
structure Fault where
  cause : Cause
  left : Nat
deriving Repr, DecidableEq

/-- The result of reading: a value and what is left of the text, or a fault. -/
abbrev Reading (α : Type) : Type :=
  Except Fault (α × List UInt8)

/-- A reader made of two parts succeeds if both do. -/
theorem exists_of_bind_ok {ε α β : Type} {first : Except ε α} {next : α → Except ε β} {result : β}
    (completes : (first >>= next) = .ok result) :
    ∃ value, first = .ok value ∧ next value = .ok result := by
  cases first with
  | error fault => cases completes
  | ok value => exact ⟨value, rfl, completes⟩

namespace Found

/-- The characters of a string; empty if the bytes are no valid text. -/
def characters (bytes : List UInt8) : String :=
  (String.fromUTF8? ⟨bytes.toArray⟩).getD ""

/-- The description of what was found. -/
def describe : Found → String
  | null => "null"
  | boolean value => "boolean `" ++ (if value then "true" else "false") ++ "`"
  | integer value => "integer `" ++ toString value ++ "`"
  | floatingPoint value => "floating point `" ++ value.text ++ "`"
  | text bytes => "string " ++ Text.quote (characters bytes)
  | sequence => "sequence"
  | map => "map"

end Found

/-- The description of what was expected. -/
def Expected.describe : Expected → String
  | boolean => "a boolean"
  | record name => "struct " ++ name

namespace Cause

/-- The wording of a cause. -/
def describe : Cause → String
  | endInValue => "EOF while parsing a value"
  | endInList => "EOF while parsing a list"
  | endInObject => "EOF while parsing an object"
  | endInString => "EOF while parsing a string"
  | valueExpected => "expected value"
  | identifierExpected => "expected ident"
  | colonExpected => "expected `:`"
  | listSeparatorExpected => "expected `,` or `]`"
  | objectSeparatorExpected => "expected `,` or `\x7d`"
  | keyNotString => "key must be a string"
  | trailingComma => "trailing comma"
  | trailingCharacters => "trailing characters"
  | invalidNumber => "invalid number"
  | numberOutOfRange => "number out of range"
  | invalidEscape => "invalid escape"
  | controlCharacter => "control character (\\u0000-\\u001F) found while parsing a string"
  | loneSurrogate => "lone leading surrogate in hex escape"
  | unfinishedSurrogatePair => "unexpected end of hex escape"
  | invalidType found expected =>
    "invalid type: " ++ found.describe ++ ", expected " ++ expected.describe
  | duplicateField name => "duplicate field `" ++ name ++ "`"

/-- The category that a cause belongs to. -/
def category : Cause → Category
  | endInValue | endInList | endInObject | endInString => .endOfText
  | invalidType .. | duplicateField _ => .wrongData
  | _ => .malformed

end Cause

/-- The name of a category. -/
def Category.name : Category → String
  | endOfText => "Eof"
  | malformed => "Syntax"
  | wrongData => "Data"

namespace Fault

/-- A fault about the next byte, which counts as passed; at the end of the text there is none. -/
def atNext (cause : Cause) (rest : List UInt8) : Fault :=
  ⟨cause, rest.length - 1⟩

/-- A fault about what was just taken. -/
def afterTaken (cause : Cause) (rest : List UInt8) : Fault :=
  ⟨cause, rest.length⟩

end Fault

end RecompilerAdapter.Json
