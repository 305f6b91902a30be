/-
Module: RecompilerAdapter.Options.Reader
Purpose: Reading tunables from a JSON text.
Trusted boundary: the definitions of this module
Main exports: readMembers, ofMembers, readElements, readBytes
-/
import RecompilerAdapter.Json.Skip
import RecompilerAdapter.Options.Basic

/-!
Two forms are accepted. An object names the tunables: a name may occur once, missing ones keep their
default, and members of other names are passed over. A list gives the tunables in their order; those
beyond its end keep their default.
-/

namespace RecompilerAdapter.Options

open Json

/-- Reads what stands where something else was expected. A list or map is not entered. -/
def readFound : List UInt8 → Reading Found
  | [] => .error (.atNext .valueExpected [])
  | byte :: rest =>
    if byte == 0x6E then (takeWord nullRest rest).map fun after => (.null, after)
    else if byte == 0x74 then (takeWord trueRest rest).map fun after => (.boolean true, after)
    else if byte == 0x66 then (takeWord falseRest rest).map fun after => (.boolean false, after)
    else if byte == 0x2D || isDigit byte then readNumber (byte :: rest)
    else if byte == 0x22 then
      (readString rest).map fun (bytes, after) => (.text bytes, after)
    else if byte == 0x5B then .ok (.sequence, byte :: rest)
    else if byte == 0x7B then .ok (.map, byte :: rest)
    else .error (.atNext .valueExpected (byte :: rest))

/-- The fault of a value of the wrong kind. If the value is malformed, its own fault comes first. -/
def wrongType (expected : Expected) (text : List UInt8) : Fault :=
  match readFound text with
  | .ok (found, rest) => .afterTaken (.invalidType found expected) rest
  | .error fault => fault

/-- Reads a truth value and the blanks before it. -/
def readFlag (text : List UInt8) : Reading Bool :=
  match skipBlanks text with
  | [] => .error (.atNext .endInValue [])
  | byte :: rest =>
    if byte == 0x74 then (takeWord trueRest rest).map fun after => (true, after)
    else if byte == 0x66 then (takeWord falseRest rest).map fun after => (false, after)
    else .error (wrongType .boolean (byte :: rest))

/-- Where the next member of an object starts: after the quote that opens its key, or `none` with
what follows the object if there is no further member. -/
def nextMember (first : Bool) (text : List UInt8) : Reading Bool :=
  match skipBlanks text with
  | [] => .error (.atNext .endInObject [])
  | byte :: rest =>
    if byte == 0x7D then .ok (false, rest)
    else if first then
      if byte == 0x22 then .ok (true, rest)
      else .error (.atNext .keyNotString (byte :: rest))
    else if byte == 0x2C then
      match skipBlanks rest with
      | [] => .error (.atNext .endInValue [])
      | byte :: rest =>
        if byte == 0x22 then .ok (true, rest)
        else if byte == 0x7D then .error (.atNext .trailingComma (byte :: rest))
        else .error (.atNext .keyNotString (byte :: rest))
    else .error (.atNext .objectSeparatorExpected (byte :: rest))

/-- The fault of a name that occurs again. It is reported after the blanks behind the key, and after
the end of the object if that follows them. -/
def duplicate (name : OptionName) (text : List UInt8) : Fault :=
  match skipBlanks text with
  | 0x7D :: rest => .afterTaken (.duplicateField name.text) rest
  | rest => .afterTaken (.duplicateField name.text) rest

/-- Reads the members of an object. `seen` holds the tunables read so far. -/
def readMembers : (bound : Nat) → (first : Bool) → (seen : List (OptionName × Bool)) →
    List UInt8 → Except Fault (List (OptionName × Bool) × List UInt8)
  | 0, _, _, text => .error (.atNext .endInObject text)
  | bound + 1, first, seen, text => do
    match ← nextMember first text with
    | (false, rest) => .ok (seen, rest)
    | (true, opened) =>
      let (key, afterKey) ← readString opened
      match OptionName.ofBytes? key with
      | none => readMembers bound false seen (← skipValue (← takeColon afterKey))
      | some name =>
        if seen.any (fun entry => entry.1 == name) then
          .error (duplicate name afterKey)
        else
          let (value, rest) ← readFlag (← takeColon afterKey)
          readMembers bound false ((name, value) :: seen) rest

/-- The defaults, changed as read. -/
def ofMembers (members : List (OptionName × Bool)) : Options :=
  members.foldr (fun entry options => options.set entry.1 entry.2) default

/-- Reads an object after its opening brace. -/
def readObject (text : List UInt8) : Reading Options :=
  (readMembers (text.length + 1) true [] text).map fun (members, rest) => (ofMembers members, rest)

/-- Whether a list has a further element, and where it starts. -/
def nextElement (first : Bool) (text : List UInt8) : Reading Bool :=
  match skipBlanks text with
  | [] => .error (.atNext .endInList [])
  | byte :: rest =>
    if byte == 0x5D then .ok (false, byte :: rest)
    else if first then .ok (true, byte :: rest)
    else if byte == 0x2C then
      match skipBlanks rest with
      | [] => .error (.atNext .endInValue [])
      | byte :: rest =>
        if byte == 0x5D then .error (.atNext .trailingComma (byte :: rest))
        else .ok (true, byte :: rest)
    else .error (.atNext .listSeparatorExpected (byte :: rest))

/-- Takes the end of a list that has given all it may give. -/
def endList (text : List UInt8) : Except Fault (List UInt8) :=
  match skipBlanks text with
  | [] => .error (.atNext .endInList [])
  | byte :: rest =>
    if byte == 0x5D then .ok rest
    else if byte == 0x2C then
      match skipBlanks rest with
      | 0x5D :: rest => .error (.atNext .trailingComma (0x5D :: rest))
      | rest => .error (.atNext .trailingCharacters rest)
    else .error (.atNext .trailingCharacters (byte :: rest))

/-- Reads the elements of a list for the given names. -/
def readElements (options : Options) (first : Bool) :
    List OptionName → List UInt8 → Except Fault (Options × List UInt8)
  | [], text => (endList text).map fun rest => (options, rest)
  | name :: names, text => do
    match ← nextElement first text with
    | (false, rest) => (endList rest).map fun after => (options, after)
    | (true, start) =>
      let (value, rest) ← readFlag start
      readElements (options.set name value) false names rest

/-- Reads tunables and the blanks before them. -/
def readValue (text : List UInt8) : Reading Options :=
  match skipBlanks text with
  | [] => .error (.atNext .endInValue [])
  | byte :: rest =>
    if byte == 0x5B then readElements default true OptionName.all rest
    else if byte == 0x7B then readObject rest
    else .error (wrongType (.record "Options") (byte :: rest))

/-- Reads a whole text; only blanks may follow the tunables. -/
def readBytes (text : List UInt8) : Except Fault Options := do
  let (options, rest) ← readValue text
  match skipBlanks rest with
  | [] => .ok options
  | after => .error (.atNext .trailingCharacters after)

end RecompilerAdapter.Options
