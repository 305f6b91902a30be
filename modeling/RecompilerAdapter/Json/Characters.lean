/-
Module: RecompilerAdapter.Json.Characters
Purpose: Strings, after their opening quote. `readString` yields the bytes that a string stands for;
  `skipString` only checks its form, and does not check that surrogates are paired.
Trusted boundary: the definitions of this module
Main exports: readString, skipString, takeUnicode
-/
import RecompilerAdapter.Json.Blank

namespace RecompilerAdapter.Json

/-- The value of a hexadecimal digit. -/
def hexValue? (byte : UInt8) : Option Nat :=
  if isDigit byte then some (digitValue byte)
  else if 0x41 ≤ byte && byte ≤ 0x46 then some (byte.toNat - 0x37)
  else if 0x61 ≤ byte && byte ≤ 0x66 then some (byte.toNat - 0x57)
  else none

/-- The number written by four hexadecimal digits. -/
def hexNumber? (a b c d : UInt8) : Option Nat := do
  let high ← hexValue? a
  let upper ← hexValue? b
  let lower ← hexValue? c
  let low ← hexValue? d
  return ((high * 16 + upper) * 16 + lower) * 16 + low

/-- Takes four hexadecimal digits. All four bytes are taken before they are judged; if there are
fewer, the fault is at the end of the text. -/
def takeHex : List UInt8 → Reading Nat
  | a :: b :: c :: d :: rest =>
    match hexNumber? a b c d with
    | some number => .ok (number, rest)
    | none => .error (.afterTaken .invalidEscape rest)
  | _ => .error (.afterTaken .endInString [])

/-- The first half of a surrogate pair. -/
def isHighSurrogate (unit : Nat) : Bool :=
  0xD800 ≤ unit && unit ≤ 0xDBFF

/-- The second half of a surrogate pair. -/
def isLowSurrogate (unit : Nat) : Bool :=
  0xDC00 ≤ unit && unit ≤ 0xDFFF

/-- The code point that a surrogate pair stands for. -/
def pairValue (high low : Nat) : Nat :=
  0x10000 + (high - 0xD800) * 0x400 + (low - 0xDC00)

/-- The bytes of a code point. -/
def codePointBytes (codePoint : Nat) : List UInt8 :=
  String.utf8EncodeChar (Char.ofNat codePoint)

/-- Takes the byte that must follow the first half of a surrogate pair. -/
def takePairByte (expected : UInt8) : List UInt8 → Except Fault (List UInt8)
  | [] => .error (.afterTaken .endInString [])
  | byte :: rest =>
    if byte == expected then .ok rest else .error (.afterTaken .unfinishedSurrogatePair rest)

/-- Takes a number escape after its letter. A surrogate must come in a pair. -/
def takeUnicode (text : List UInt8) : Except Fault (List UInt8 × List UInt8) := do
  let (unit, rest) ← takeHex text
  if isLowSurrogate unit then
    .error (.afterTaken .loneSurrogate rest)
  else if isHighSurrogate unit then
    let rest ← takePairByte 0x5C rest
    let rest ← takePairByte 0x75 rest
    let (low, rest) ← takeHex rest
    if isLowSurrogate low then .ok (codePointBytes (pairValue unit low), rest)
    else .error (.afterTaken .loneSurrogate rest)
  else
    .ok (codePointBytes unit, rest)

/-- The byte that a one-letter escape stands for. -/
def escapedByte? (letter : UInt8) : Option UInt8 :=
  if letter == 0x22 || letter == 0x5C || letter == 0x2F then some letter
  else if letter == 0x62 then some 0x08
  else if letter == 0x66 then some 0x0C
  else if letter == 0x6E then some 0x0A
  else if letter == 0x72 then some 0x0D
  else if letter == 0x74 then some 0x09
  else none

/-- Takes an escape after its backslash. -/
def takeEscape : List UInt8 → Reading (List UInt8)
  | [] => .error (.afterTaken .endInString [])
  | letter :: rest =>
    match escapedByte? letter with
    | some byte => .ok ([byte], rest)
    | none =>
      if letter == 0x75 then takeUnicode rest else .error (.afterTaken .invalidEscape rest)

/-- Passes over an escape after its backslash. -/
def skipEscape : List UInt8 → Except Fault (List UInt8)
  | [] => .error (.afterTaken .endInString [])
  | letter :: rest =>
    match escapedByte? letter with
    | some _ => .ok rest
    | none =>
      if letter == 0x75 then (takeHex rest).map (·.2)
      else .error (.afterTaken .invalidEscape rest)

theorem takeHex_length {text rest : List UInt8} {number : Nat}
    (taken : takeHex text = .ok (number, rest)) : rest.length < text.length := by
  unfold takeHex at taken
  split at taken
  · split at taken
    · simp only [Except.ok.injEq, Prod.mk.injEq] at taken
      simp only [← taken.2, List.length_cons]
      omega
    · simp at taken
  · simp at taken

theorem takePairByte_length {expected : UInt8} {text rest : List UInt8}
    (taken : takePairByte expected text = .ok rest) : rest.length < text.length := by
  unfold takePairByte at taken
  split at taken
  · simp at taken
  · split at taken
    · simp only [Except.ok.injEq] at taken
      simp [← taken]
    · simp at taken

theorem takeUnicode_length {text bytes rest : List UInt8}
    (taken : takeUnicode text = .ok (bytes, rest)) : rest.length < text.length := by
  obtain ⟨⟨unit, afterUnit⟩, first, judged⟩ := exists_of_bind_ok taken
  have shorter := takeHex_length first
  dsimp only at judged
  split at judged
  · cases judged
  · split at judged
    · obtain ⟨afterSlash, slash, slashed⟩ := exists_of_bind_ok judged
      obtain ⟨afterLetter, letter, lettered⟩ := exists_of_bind_ok slashed
      obtain ⟨⟨low, afterSecond⟩, second, paired⟩ := exists_of_bind_ok lettered
      have slashShorter := takePairByte_length slash
      have letterShorter := takePairByte_length letter
      have secondShorter := takeHex_length second
      split at paired
      · obtain ⟨-, rfl⟩ := Prod.mk.inj (Except.ok.inj paired)
        dsimp only
        omega
      · cases paired
    · cases judged
      exact shorter

theorem takeEscape_length {text bytes rest : List UInt8}
    (taken : takeEscape text = .ok (bytes, rest)) : rest.length < text.length := by
  unfold takeEscape at taken
  split at taken
  · simp at taken
  · split at taken
    · simp only [Except.ok.injEq, Prod.mk.injEq] at taken
      simp [← taken.2]
    · split at taken
      · have := takeUnicode_length taken
        simp only [List.length_cons]
        omega
      · simp at taken

theorem skipEscape_length {text rest : List UInt8}
    (skipped : skipEscape text = .ok rest) : rest.length < text.length := by
  unfold skipEscape at skipped
  split at skipped
  · simp at skipped
  · split at skipped
    · simp only [Except.ok.injEq] at skipped
      simp [← skipped]
    · split at skipped
      · rename_i after _ _ _
        cases hex : takeHex after with
        | error fault => simp [hex, Except.map] at skipped
        | ok reading =>
          have := takeHex_length hex
          simp only [hex, Except.map, Except.ok.injEq] at skipped
          simp only [List.length_cons, ← skipped]
          omega
      · simp at skipped

/-- Reads a string after its opening quote. `taken` holds the bytes read so far, last byte first. -/
def readCharacters (taken : List UInt8) (text : List UInt8) : Reading (List UInt8) :=
  match text with
  | [] => .error (.afterTaken .endInString [])
  | byte :: rest =>
    if byte == 0x22 then .ok (taken.reverse, rest)
    else if byte == 0x5C then
      match escape : takeEscape rest with
      | .ok (bytes, after) =>
        have : after.length < rest.length := takeEscape_length escape
        readCharacters (bytes.reverse ++ taken) after
      | .error fault => .error fault
    else if byte < 0x20 then .error (.afterTaken .controlCharacter rest)
    else readCharacters (byte :: taken) rest
termination_by text.length
decreasing_by all_goals simp only [List.length_cons]; omega

/-- Reads a string after its opening quote. -/
def readString (text : List UInt8) : Reading (List UInt8) :=
  readCharacters [] text

/-- Passes over a string after its opening quote. A control character is not taken before it is
refused. -/
def skipString (text : List UInt8) : Except Fault (List UInt8) :=
  match text with
  | [] => .error (.afterTaken .endInString [])
  | byte :: rest =>
    if byte == 0x22 then .ok rest
    else if byte == 0x5C then
      match escape : skipEscape rest with
      | .ok after =>
        have : after.length < rest.length := skipEscape_length escape
        skipString after
      | .error fault => .error fault
    else if byte < 0x20 then .error (.afterTaken .controlCharacter (byte :: rest))
    else skipString rest
termination_by text.length
decreasing_by all_goals simp only [List.length_cons]; omega

end RecompilerAdapter.Json
