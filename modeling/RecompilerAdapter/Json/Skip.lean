/-
Module: RecompilerAdapter.Json.Skip
Purpose: Values whose content does not matter. They must be well formed to any depth, but numbers have no
  range, surrogates need not be paired, and a comma may only be followed by another entry.
Trusted boundary: the definitions of this module
Main exports: Container, skipValueWithin, skipEntriesWithin, skipValue
-/
import RecompilerAdapter.Json.Characters
import RecompilerAdapter.Json.Number

/-!
The recursion is bounded by the length of the text: a value and the entries of a container take at
least one byte every third step, so three times the length is never exhausted.
-/

namespace RecompilerAdapter.Json

/-- The two kinds of values that hold others. -/
inductive Container where
  | list
  | map
deriving Repr, DecidableEq

namespace Container

/-- The byte that ends the container. -/
def closer : Container → UInt8
  | list => 0x5D
  | map => 0x7D

/-- The fault of a text that ends where a separator or the end of the container may stand. -/
def unclosed : Container → Cause
  | list => .endInList
  | map => .endInObject

/-- The fault of a byte that is neither a separator nor the end of the container. -/
def separatorExpected : Container → Cause
  | list => .listSeparatorExpected
  | map => .objectSeparatorExpected

end Container

/-- Passes over the colon between a key and its value. -/
def takeColon (text : List UInt8) : Except Fault (List UInt8) :=
  match skipBlanks text with
  | [] => .error (.atNext .endInObject [])
  | byte :: rest =>
    if byte == 0x3A then .ok rest else .error (.atNext .colonExpected (byte :: rest))

/-- Passes over what precedes the value of an entry: nothing in a list, key and colon in a map. -/
def skipKey (container : Container) (text : List UInt8) : Except Fault (List UInt8) :=
  match container with
  | .list => .ok text
  | .map =>
    match skipBlanks text with
    | [] => .error (.atNext .endInObject [])
    | byte :: rest =>
      if byte == 0x22 then do takeColon (← skipString rest)
      else .error (.atNext .keyNotString (byte :: rest))

/-- Passes over a value that holds no others. -/
def skipScalar (byte : UInt8) (rest : List UInt8) : Except Fault (List UInt8) :=
  if byte == 0x6E then takeWord nullRest rest
  else if byte == 0x74 then takeWord trueRest rest
  else if byte == 0x66 then takeWord falseRest rest
  else if byte == 0x2D || isDigit byte then skipNumber (byte :: rest)
  else if byte == 0x22 then skipString rest
  else .error (.atNext .valueExpected (byte :: rest))

mutual

/-- Passes over a value and the blanks before it. -/
def skipValueWithin : Nat → List UInt8 → Except Fault (List UInt8)
  | 0, text => .error (.atNext .valueExpected text)
  | bound + 1, text =>
    match skipBlanks text with
    | [] => .error (.atNext .endInValue [])
    | byte :: rest =>
      if byte == 0x5B then skipOpenedWithin bound .list rest
      else if byte == 0x7B then skipOpenedWithin bound .map rest
      else skipScalar byte rest

/-- Passes over a container after its opening byte. -/
def skipOpenedWithin : Nat → Container → List UInt8 → Except Fault (List UInt8)
  | 0, _, text => .error (.atNext .valueExpected text)
  | bound + 1, container, text =>
    match skipBlanks text with
    | [] => .error (.atNext container.unclosed [])
    | byte :: rest =>
      if byte == container.closer then .ok rest
      else skipEntriesWithin bound container (byte :: rest)

/-- Passes over one entry of a container and what follows it, up to its closing byte. -/
def skipEntriesWithin : Nat → Container → List UInt8 → Except Fault (List UInt8)
  | 0, _, text => .error (.atNext .valueExpected text)
  | bound + 1, container, text => do
    let value ← skipKey container text
    let after ← skipValueWithin bound value
    match skipBlanks after with
    | [] => .error (.atNext container.unclosed [])
    | byte :: rest =>
      if byte == 0x2C then skipEntriesWithin bound container rest
      else if byte == container.closer then .ok rest
      else .error (.atNext container.separatorExpected (byte :: rest))

end

/-- Passes over a value of any kind and the blanks before it. -/
def skipValue (text : List UInt8) : Except Fault (List UInt8) :=
  skipValueWithin (3 * text.length + 1) text

end RecompilerAdapter.Json
