/-
Module: RecompilerAdapter.Proofs.JsonGrammar
Purpose: The grammar of JSON texts, as relations on bytes. Each relation holds of the bytes of one part of
  a text, without what stands before or behind it, so a whole is written down by putting its parts behind
  one another. Nothing here says how a text is read.
Trusted boundary: none
Main exports: NumberText, StringText, StringMeaning, KeyText, ValueText, EntriesText
-/
import RecompilerAdapter.Json.Skip

/-!
A string is described twice: once by its form alone, where a number escape may name any 16-bit unit,
and once together with the bytes that it stands for, where surrogates must come in pairs.
-/

namespace RecompilerAdapter.Json

/-- Blanks and nothing else. -/
def Blanks (text : List UInt8) : Prop :=
  ∀ byte ∈ text, isBlank byte

/-- Decimal digits and nothing else. -/
def Digits (text : List UInt8) : Prop :=
  ∀ byte ∈ text, isDigit byte

/-! ### Numbers -/

/-- The integral part of a number: a zero alone, or digits of which the first is not zero. Leading
zeros are no part of the grammar. -/
inductive IntegerText : List UInt8 → Prop where
  | zero : IntegerText [0x30]
  | digits {first : UInt8} {others : List UInt8} : isDigit first → first ≠ 0x30 → Digits others →
      IntegerText (first :: others)

/-- The fraction of a number: a point and at least one digit, or nothing. -/
inductive FractionText : List UInt8 → Prop where
  | absent : FractionText []
  | present {first : UInt8} {others : List UInt8} : isDigit first → Digits others →
      FractionText (0x2E :: first :: others)

/-- The sign of an exponent. -/
inductive SignText : List UInt8 → Prop where
  | absent : SignText []
  | plus : SignText [0x2B]
  | minus : SignText [0x2D]

/-- The exponent of a number: a letter, a sign and at least one digit, or nothing. -/
inductive ExponentText : List UInt8 → Prop where
  | absent : ExponentText []
  | present {letter first : UInt8} {sign others : List UInt8} : letter = 0x65 ∨ letter = 0x45 →
      SignText sign → isDigit first → Digits others →
      ExponentText (letter :: (sign ++ first :: others))

/-- A number without its sign. -/
inductive MagnitudeText : List UInt8 → Prop where
  | parts {integer fraction exponent : List UInt8} : IntegerText integer → FractionText fraction →
      ExponentText exponent → MagnitudeText (integer ++ (fraction ++ exponent))

/-- A number. -/
inductive NumberText : List UInt8 → Prop where
  | positive {magnitude : List UInt8} : MagnitudeText magnitude → NumberText magnitude
  | negative {magnitude : List UInt8} : MagnitudeText magnitude → NumberText (0x2D :: magnitude)

/-! ### Strings -/

/-- The letters of the short escapes, and the bytes that they stand for. No other letter may follow
a backslash, apart from the one that begins a code unit. -/
inductive ShortEscape : UInt8 → UInt8 → Prop where
  | quote : ShortEscape 0x22 0x22
  | backslash : ShortEscape 0x5C 0x5C
  | slash : ShortEscape 0x2F 0x2F
  | backspace : ShortEscape 0x62 0x08
  | formFeed : ShortEscape 0x66 0x0C
  | lineFeed : ShortEscape 0x6E 0x0A
  | carriageReturn : ShortEscape 0x72 0x0D
  | tabulator : ShortEscape 0x74 0x09

/-- A byte that stands for itself in a string: no control character, no quote and no backslash. -/
structure Plain (byte : UInt8) : Prop where
  visible : ¬ byte < 0x20
  unquoted : byte ≠ 0x22
  unescaped : byte ≠ 0x5C

/-- One character of a string as it is written. An escaped code unit may be any four hexadecimal
digits here, halves of surrogate pairs included, since strings that are passed over are not
decoded. -/
inductive CharacterText : List UInt8 → Prop where
  | plain {byte : UInt8} : Plain byte → CharacterText [byte]
  | escape {letter byte : UInt8} : ShortEscape letter byte → CharacterText [0x5C, letter]
  | unit {a b c d : UInt8} {number : Nat} : hexNumber? a b c d = some number →
      CharacterText [0x5C, 0x75, a, b, c, d]

/-- The characters of a string as they are written, without the quotes. -/
inductive StringText : List UInt8 → Prop where
  | empty : StringText []
  | more {character others : List UInt8} : CharacterText character → StringText others →
      StringText (character ++ others)

/-- One character of a string as it is written, and the bytes that it stands for. An escaped
surrogate means something only as the first or second half of a pair. -/
inductive CharacterMeaning : List UInt8 → List UInt8 → Prop where
  | plain {byte : UInt8} : Plain byte → CharacterMeaning [byte] [byte]
  | escape {letter byte : UInt8} : ShortEscape letter byte →
      CharacterMeaning [0x5C, letter] [byte]
  | unit {a b c d : UInt8} {number : Nat} : hexNumber? a b c d = some number →
      isHighSurrogate number = false → isLowSurrogate number = false →
      CharacterMeaning [0x5C, 0x75, a, b, c, d] (codePointBytes number)
  | pair {a b c d e f g h : UInt8} {high low : Nat} : hexNumber? a b c d = some high →
      isHighSurrogate high → hexNumber? e f g h = some low → isLowSurrogate low →
      CharacterMeaning [0x5C, 0x75, a, b, c, d, 0x5C, 0x75, e, f, g, h]
        (codePointBytes (pairValue high low))

/-- The characters of a string as they are written, and the bytes that they stand for. -/
inductive StringMeaning : List UInt8 → List UInt8 → Prop where
  | empty : StringMeaning [] []
  | more {character bytes others meaning : List UInt8} : CharacterMeaning character bytes →
      StringMeaning others meaning → StringMeaning (character ++ others) (bytes ++ meaning)

/-- What stands for some bytes has the form of a string: a pair of surrogates is two number
escapes. -/
theorem StringMeaning.isString {written meaning : List UInt8}
    (isString : StringMeaning written meaning) : StringText written := by
  induction isString with
  | empty => exact .empty
  | more isCharacter _ ih =>
    cases isCharacter with
    | plain isPlain => exact .more (.plain isPlain) ih
    | escape isEscape => exact .more (.escape isEscape) ih
    | unit number => exact .more (.unit number) ih
    | pair first _ second =>
      have halves := StringText.more (.unit first) (.more (.unit second) ih)
      exact halves

/-! ### Values -/

/-- The byte that opens a container. -/
def Container.opener : Container → UInt8
  | .list => 0x5B
  | .map => 0x7B

/-- What precedes the value of an entry, up to the blanks before the value: nothing in a list, a key
and a colon in a map. -/
inductive KeyText : Container → List UInt8 → Prop where
  | element : KeyText .list []
  | member {before key after : List UInt8} : Blanks before → StringText key → Blanks after →
      KeyText .map (before ++ 0x22 :: (key ++ 0x22 :: (after ++ [0x3A])))

mutual

/-- A value of any kind, nested to any depth. The grammar is stated on bytes and knows nothing of
readers, so that readers can be compared with it. -/
inductive ValueText : List UInt8 → Prop where
  | nullWord : ValueText (0x6E :: nullRest)
  | trueWord : ValueText (0x74 :: trueRest)
  | falseWord : ValueText (0x66 :: falseRest)
  | number {number : List UInt8} : NumberText number → ValueText number
  | string {characters : List UInt8} : StringText characters →
      ValueText (0x22 :: (characters ++ [0x22]))
  | empty (container : Container) {blanks : List UInt8} : Blanks blanks →
      ValueText (container.opener :: (blanks ++ [container.closer]))
  | filled (container : Container) {entries : List UInt8} : EntriesText container entries →
      ValueText (container.opener :: (entries ++ [container.closer]))

/-- The entries of a container, of which there is at least one. -/
inductive EntriesText : Container → List UInt8 → Prop where
  | last {container : Container} {key before value after : List UInt8} : KeyText container key →
      Blanks before → ValueText value → Blanks after →
      EntriesText container (key ++ (before ++ (value ++ after)))
  | more {container : Container} {key before value after others : List UInt8} :
      KeyText container key → Blanks before → ValueText value → Blanks after →
      EntriesText container others →
      EntriesText container (key ++ (before ++ (value ++ (after ++ 0x2C :: others))))

end

/-! ### How parts begin and end -/

/-- A byte that would go on with a number. -/
def continuesNumber (byte : UInt8) : Bool :=
  isDigit byte || byte == 0x2E || byte == 0x65 || byte == 0x45

/-- Text in front of which a number ends: it does not go on with the number. A reader of numbers
takes as many bytes as it can, so what follows has to be of this kind. -/
def EndsNumber (text : List UInt8) : Prop :=
  ∀ byte, text.head? = some byte → continuesNumber byte = false

variable {rest : List UInt8} {byte : UInt8}

theorem EndsNumber.cons (apart : continuesNumber byte = false) : EndsNumber (byte :: rest) := by
  intro other isHead
  cases isHead
  exact apart

/-- Blanks end a number, if what stands behind them does or they are there at all. -/
theorem EndsNumber.blanks {before : List UInt8} (blank : Blanks before) (ends : EndsNumber rest) :
    EndsNumber (before ++ rest) := by
  cases before with
  | nil => exact ends
  | cons byte before =>
    apply EndsNumber.cons
    have isBlank := blank byte (by simp)
    simp only [Json.isBlank, Bool.or_eq_true, beq_iff_eq] at isBlank
    rcases isBlank with ((rfl | rfl) | rfl) | rfl <;> decide

/-- Where a number ends, no digit follows, so a reader that takes all digits stops there. -/
theorem EndsNumber.digits (ends : EndsNumber rest) : startsWithDigit rest = false := by
  cases rest with
  | nil => rfl
  | cons byte rest =>
    have apart := ends byte rfl
    simp only [continuesNumber, Bool.or_eq_false_iff] at apart
    exact apart.1.1.1

/-- Nor does an exponent begin. -/
theorem EndsNumber.exponent (ends : EndsNumber rest) : startsExponent rest = false := by
  cases rest with
  | nil => rfl
  | cons byte rest =>
    have apart := ends byte rfl
    simp only [continuesNumber, Bool.or_eq_false_iff] at apart
    simp [startsExponent, apart.1.2, apart.2]

/-- Nor a fraction. -/
theorem EndsNumber.point (ends : EndsNumber rest) : rest.head? ≠ some 0x2E := by
  intro isPoint
  have apart := ends _ isPoint
  exact absurd apart (by decide)

theorem Blanks.nil : Blanks [] := by
  intro byte isMember
  cases isMember

theorem Blanks.append {before others : List UInt8} (first : Blanks before) (second : Blanks others) :
    Blanks (before ++ others) :=
  List.forall_mem_append.2 ⟨first, second⟩

/-- A number begins with a digit or a minus sign. -/
theorem NumberText.begins {number : List UInt8} (isNumber : NumberText number) :
    ∃ first others, number = first :: others ∧ (first == 0x2D || isDigit first) = true := by
  cases isNumber with
  | negative => exact ⟨_, _, rfl, rfl⟩
  | positive isMagnitude =>
    obtain ⟨isInteger, -, -⟩ := isMagnitude
    cases isInteger with
    | zero => exact ⟨_, _, rfl, rfl⟩
    | digits isFirst => exact ⟨_, _, rfl, by simp [isFirst]⟩

theorem ne_of_begins (begins : (byte == 0x2D || isDigit byte) = true) (other : UInt8)
    (apart : (other == 0x2D || isDigit other) = false) : byte ≠ other := by
  rintro rfl
  rw [apart] at begins
  cases begins

/-- A number begins with no blank. -/
theorem solid_of_begins (begins : (byte == 0x2D || isDigit byte) = true) : isBlank byte = false := by
  simp [isBlank, ne_of_begins begins 0x20 rfl, ne_of_begins begins 0x0A rfl,
    ne_of_begins begins 0x09 rfl, ne_of_begins begins 0x0D rfl]

theorem Container.closer_solid (container : Container) : isBlank container.closer = false := by
  cases container <;> rfl

/-- A value begins with a byte that is no blank and ends no container. -/
theorem ValueText.begins {value : List UInt8} (isValue : ValueText value) :
    ∃ first others, value = first :: others ∧ isBlank first = false ∧
      ∀ container : Container, first ≠ container.closer := by
  cases isValue with
  | nullWord => exact ⟨_, _, rfl, rfl, fun container => by cases container <;> decide⟩
  | trueWord => exact ⟨_, _, rfl, rfl, fun container => by cases container <;> decide⟩
  | falseWord => exact ⟨_, _, rfl, rfl, fun container => by cases container <;> decide⟩
  | string => exact ⟨_, _, rfl, rfl, fun container => by cases container <;> decide⟩
  | empty kind =>
    exact ⟨_, _, rfl, by cases kind <;> rfl, fun container => by cases kind <;> cases container <;> decide⟩
  | filled kind =>
    exact ⟨_, _, rfl, by cases kind <;> rfl, fun container => by cases kind <;> cases container <;> decide⟩
  | number isNumber =>
    obtain ⟨first, others, same, begins⟩ := isNumber.begins
    refine ⟨first, others, same, solid_of_begins begins, fun container => ?_⟩
    cases container <;> exact ne_of_begins begins _ rfl

/-- No value is empty, so each of them takes the reader forward. -/
theorem ValueText.length_pos {value : List UInt8} (isValue : ValueText value) : 0 < value.length := by
  obtain ⟨first, others, rfl, -, -⟩ := isValue.begins
  simp

/-- Blanks may stand before the first entry of a container. -/
theorem EntriesText.indent {container : Container} {before entries : List UInt8}
    (blank : Blanks before) (isEntries : EntriesText container entries) :
    EntriesText container (before ++ entries) := by
  cases isEntries with
  | last isKey blankBefore isValue blankAfter =>
    cases isKey with
    | element =>
      have entry := EntriesText.last .element (blank.append blankBefore) isValue blankAfter
      simpa using entry
    | member first key second =>
      have entry := EntriesText.last (.member (blank.append first) key second) blankBefore isValue
        blankAfter
      simpa using entry
  | more isKey blankBefore isValue blankAfter others =>
    cases isKey with
    | element =>
      have entry := EntriesText.more .element (blank.append blankBefore) isValue blankAfter others
      simpa using entry
    | member first key second =>
      have entry := EntriesText.more (.member (blank.append first) key second) blankBefore isValue
        blankAfter others
      simpa using entry

end RecompilerAdapter.Json
