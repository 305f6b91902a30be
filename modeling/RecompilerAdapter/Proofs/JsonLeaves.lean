/-
Module: RecompilerAdapter.Proofs.JsonLeaves
Purpose: The readers of the smallest parts of a text, against the grammar: blanks, words, numbers and
  strings. For each reader there are two statements. What a reader takes is a part of the grammar, and a
  part of the grammar that stands at the beginning of a text is taken whole, with what stands behind it
  left.
Trusted boundary: none
Main exports: readString_written, skipBlanks_written, startsWithDigit_exponent, startsWithDigit_fraction
-/
import RecompilerAdapter.Proofs.JsonGrammar

namespace RecompilerAdapter.Json

variable {text rest after before : List UInt8} {byte : UInt8}

/-- A reading that was passed on in another form has succeeded before. -/
theorem exists_of_map_ok {ε α β : Type} {computation : Except ε α} {change : α → β} {result : β}
    (completes : computation.map change = .ok result) :
    ∃ value, computation = .ok value ∧ change value = result := by
  cases computation with
  | error fault => cases completes
  | ok value => exact ⟨value, rfl, Except.ok.inj completes⟩

/-! ### Blanks, words and digits -/

/-- Blanks before a text make no difference. -/
theorem skipBlanks_append (blank : Blanks before) (rest : List UInt8) :
    skipBlanks (before ++ rest) = skipBlanks rest :=
  List.dropWhile_append_of_pos blank

/-- Nothing is passed over where no blank stands. -/
theorem skipBlanks_cons (solid : isBlank byte = false) (rest : List UInt8) :
    skipBlanks (byte :: rest) = byte :: rest := by
  simp [skipBlanks, solid]

/-- Blanks are passed over up to a byte that is none. -/
theorem skipBlanks_written (blank : Blanks before) (solid : isBlank byte = false)
    (rest : List UInt8) : skipBlanks (before ++ byte :: rest) = byte :: rest := by
  rw [skipBlanks_append blank, skipBlanks_cons solid]

/-- What is passed over is blanks. -/
theorem written_of_skipBlanks (skipped : skipBlanks text = rest) :
    ∃ before, Blanks before ∧ text = before ++ rest := by
  refine ⟨text.takeWhile isBlank, List.all_eq_true.1 List.all_takeWhile, ?_⟩
  rw [← skipped, skipBlanks, List.takeWhile_append_dropWhile]

/-- Blanks are passed over completely, so what comes next is none. -/
theorem solid_of_skipBlanks (skipped : skipBlanks text = byte :: rest) : isBlank byte = false := by
  have solid := List.head?_dropWhile_not isBlank text
  rw [← skipBlanks, skipped] at solid
  simpa using solid

/-- A word is taken exactly if it stands at the beginning. For words, the two directions fit into
one statement, since a word ends by itself. -/
theorem takeWord_eq_ok_iff {word : List UInt8} :
    takeWord word text = .ok rest ↔ text = word ++ rest := by
  induction word generalizing text with
  | nil => simp [takeWord]
  | cons expected word ih =>
    cases text with
    | nil => simp [takeWord]
    | cons byte text =>
      by_cases same : byte = expected
      · simp [takeWord, same, ih]
      · simp [takeWord, same]

/-- Digits are taken whole if no further digit stands behind them. -/
theorem dropWhile_digits {digits : List UInt8} (isDigits : Digits digits)
    (ends : startsWithDigit rest = false) : (digits ++ rest).dropWhile isDigit = rest := by
  rw [List.dropWhile_append_of_pos isDigits]
  cases rest with
  | nil => rfl
  | cons byte rest =>
    rw [startsWithDigit] at ends
    simp [ends]

/-- What is dropped are digits, whatever the text is. -/
theorem digits_of_dropWhile (text : List UInt8) :
    ∃ digits, Digits digits ∧ text = digits ++ text.dropWhile isDigit :=
  ⟨text.takeWhile isDigit, List.all_eq_true.1 List.all_takeWhile,
    List.takeWhile_append_dropWhile.symm⟩

/-! ### Numbers -/

/-- An exponent needs a digit. The digits end where the number does. -/
theorem skipExponentDigits_written {first : UInt8} {others : List UInt8} (isFirst : isDigit first)
    (isDigits : Digits others) (ends : EndsNumber rest) :
    skipExponentDigits (first :: (others ++ rest)) = .ok rest := by
  rw [skipExponentDigits, if_pos isFirst, dropWhile_digits isDigits ends.digits]

/-- The digits of an exponent that was read. -/
theorem written_of_skipExponentDigits (skipped : skipExponentDigits text = .ok rest) :
    ∃ first others, isDigit first ∧ Digits others ∧ text = first :: (others ++ rest) := by
  unfold skipExponentDigits at skipped
  split at skipped
  · cases skipped
  · rename_i first text
    split at skipped
    · rename_i isFirst
      cases skipped
      obtain ⟨others, isDigits, same⟩ := digits_of_dropWhile text
      exact ⟨first, others, isFirst, isDigits, by rw [← same]⟩
    · cases skipped

/-- An exponent may have a sign, and the sign may be left out. -/
theorem skipExponent_written {sign others : List UInt8} {first : UInt8} (isSign : SignText sign)
    (isFirst : isDigit first) (isDigits : Digits others) (ends : EndsNumber rest) :
    skipExponent (sign ++ first :: (others ++ rest)) = .ok rest := by
  have skipped := skipExponentDigits_written isFirst isDigits ends
  cases isSign with
  | plus => exact skipped
  | minus => exact skipped
  | absent =>
    -- a digit is no sign
    have notPlus : first ≠ 0x2B := by rintro rfl; exact absurd isFirst (by decide)
    have notMinus : first ≠ 0x2D := by rintro rfl; exact absurd isFirst (by decide)
    unfold skipExponent
    split
    · rename_i same
      exact absurd (List.cons.inj same).1 notPlus
    · rename_i same
      exact absurd (List.cons.inj same).1 notMinus
    · exact skipped

/-- An exponent that was read, with its sign. -/
theorem written_of_skipExponent (skipped : skipExponent text = .ok rest) :
    ∃ sign first others, SignText sign ∧ isDigit first ∧ Digits others ∧
      text = sign ++ first :: (others ++ rest) := by
  unfold skipExponent at skipped
  split at skipped
  · obtain ⟨first, others, isFirst, isDigits, rfl⟩ := written_of_skipExponentDigits skipped
    exact ⟨_, first, others, .plus, isFirst, isDigits, rfl⟩
  · obtain ⟨first, others, isFirst, isDigits, rfl⟩ := written_of_skipExponentDigits skipped
    exact ⟨_, first, others, .minus, isFirst, isDigits, rfl⟩
  · obtain ⟨first, others, isFirst, isDigits, rfl⟩ := written_of_skipExponentDigits skipped
    exact ⟨_, first, others, .absent, isFirst, isDigits, rfl⟩

/-- An exponent may be left out altogether. Then what ends the number must not be taken for the
beginning of one, which `EndsNumber` excludes. -/
theorem skipScale_written {exponent : List UInt8} (isExponent : ExponentText exponent)
    (ends : EndsNumber rest) : skipScale (exponent ++ rest) = .ok rest := by
  cases isExponent with
  | absent => simp [skipScale, ends.exponent]
  | present isLetter isSign isFirst isDigits =>
    have skipped := skipExponent_written isSign isFirst isDigits ends
    rcases isLetter with rfl | rfl <;> simpa [skipScale, startsExponent] using skipped

/-- An exponent that was read, if there was one. -/
theorem written_of_skipScale (skipped : skipScale text = .ok rest) :
    ∃ exponent, ExponentText exponent ∧ text = exponent ++ rest := by
  unfold skipScale at skipped
  split at skipped
  · rename_i starts
    obtain ⟨sign, first, others, isSign, isFirst, isDigits, same⟩ := written_of_skipExponent skipped
    cases text with
    | nil => cases starts
    | cons letter text =>
      rw [List.drop_one, List.tail_cons] at same
      simp only [startsExponent, Bool.or_eq_true, beq_iff_eq] at starts
      exact ⟨_, .present starts isSign isFirst isDigits, by simp [same]⟩
  · cases skipped
    exact ⟨[], .absent, rfl⟩

/-- A fraction and an exponent never begin with a digit. -/
theorem startsWithDigit_exponent {exponent : List UInt8} (isExponent : ExponentText exponent)
    (ends : EndsNumber rest) : startsWithDigit (exponent ++ rest) = false := by
  cases isExponent with
  | absent => exact ends.digits
  | present isLetter => rcases isLetter with rfl | rfl <;> rfl

/-- Without a point there is no fraction. -/
theorem skipTail_of_ne_point (notPoint : text.head? ≠ some 0x2E) : skipTail text = skipScale text := by
  unfold skipTail
  split
  · exact absurd rfl notPoint
  · rfl

/-- A fraction and an exponent, either of which may be left out. -/
theorem skipTail_written {fraction exponent : List UInt8} (isFraction : FractionText fraction)
    (isExponent : ExponentText exponent) (ends : EndsNumber rest) :
    skipTail (fraction ++ (exponent ++ rest)) = .ok rest := by
  have skipped := skipScale_written isExponent ends
  cases isFraction with
  | present isFirst isDigits =>
    have starts := startsWithDigit_exponent isExponent ends
    simp only [List.cons_append, skipTail, startsWithDigit, isFirst, if_true]
    rw [List.dropWhile_cons_of_pos isFirst, dropWhile_digits isDigits starts]
    exact skipped
  | absent =>
    rw [List.nil_append, skipTail_of_ne_point]
    · exact skipped
    · cases isExponent with
      | absent => exact ends.point
      | present isLetter => rcases isLetter with rfl | rfl <;> simp

/-- The fraction and the exponent that were read, as far as there were any. The reader checks one
digit and drops the others, so it has to be seen that none was missing. -/
theorem written_of_skipTail (skipped : skipTail text = .ok rest) :
    ∃ fraction exponent, FractionText fraction ∧ ExponentText exponent ∧
      text = fraction ++ (exponent ++ rest) := by
  unfold skipTail at skipped
  split at skipped
  · rename_i text
    split at skipped
    · rename_i starts
      obtain ⟨exponent, isExponent, same⟩ := written_of_skipScale skipped
      obtain ⟨digits, isDigits, split⟩ := digits_of_dropWhile text
      rw [same] at split
      cases digits with
      | nil =>
        -- the digits cannot be missing, because the text starts with one
        cases text with
        | nil => cases starts
        | cons first text =>
          rw [List.dropWhile_cons_of_pos (by exact starts)] at same
          have shorter := congrArg List.length (same.trans split.symm)
          have suffix := (List.dropWhile_suffix (l := text) isDigit).length_le
          simp only [List.length_cons] at shorter
          omega
      | cons first others =>
        obtain ⟨isFirst, isDigits⟩ := List.forall_mem_cons.1 isDigits
        exact ⟨_, exponent, .present isFirst isDigits, isExponent, by rw [split]; rfl⟩
    · cases skipped
  · obtain ⟨exponent, isExponent, rfl⟩ := written_of_skipScale skipped
    exact ⟨[], exponent, .absent, isExponent, rfl⟩


/-- A fraction, an exponent and what ends a number never begin with a digit. -/
theorem startsWithDigit_fraction {fraction exponent : List UInt8}
    (isFraction : FractionText fraction) (isExponent : ExponentText exponent)
    (ends : EndsNumber rest) : startsWithDigit (fraction ++ (exponent ++ rest)) = false := by
  have ofExponent := startsWithDigit_exponent isExponent ends
  cases isFraction with
  | absent => exact ofExponent
  | present => rfl

theorem skipUnsigned_written {magnitude : List UInt8} (isMagnitude : MagnitudeText magnitude)
    (ends : EndsNumber rest) : skipUnsigned (magnitude ++ rest) = .ok rest := by
  obtain ⟨isInteger, isFraction, isExponent⟩ := isMagnitude
  have skipped := skipTail_written isFraction isExponent ends
  have starts := startsWithDigit_fraction isFraction isExponent ends
  rw [List.append_assoc, List.append_assoc]
  cases isInteger with
  | zero => simpa [skipUnsigned, starts] using skipped
  | digits isFirst notZero isDigits =>
    simp only [List.cons_append, skipUnsigned, beq_iff_eq, notZero, if_false, isFirst, if_true]
    rw [dropWhile_digits isDigits starts]
    exact skipped

/-- A number without sign that was read. A leading zero stands alone, which the reader and the
grammar say in the same way. -/
theorem written_of_skipUnsigned (skipped : skipUnsigned text = .ok rest) :
    ∃ magnitude, MagnitudeText magnitude ∧ text = magnitude ++ rest := by
  unfold skipUnsigned at skipped
  split at skipped
  · cases skipped
  · rename_i first text
    split at skipped
    · rename_i isZero
      obtain rfl := eq_of_beq isZero
      split at skipped
      · cases skipped
      · obtain ⟨fraction, exponent, isFraction, isExponent, rfl⟩ := written_of_skipTail skipped
        exact ⟨_, .parts .zero isFraction isExponent, by simp⟩
    · rename_i notZero
      split at skipped
      · rename_i isFirst
        obtain ⟨fraction, exponent, isFraction, isExponent, same⟩ := written_of_skipTail skipped
        obtain ⟨others, isDigits, split⟩ := digits_of_dropWhile text
        have notZero : first ≠ 0x30 := fun isZero => notZero (by simp [isZero])
        refine ⟨_, .parts (.digits isFirst notZero isDigits) isFraction isExponent, ?_⟩
        rw [split, same]
        simp
      · cases skipped

/-- A number of the grammar is passed over whole. -/
theorem skipNumber_written {number : List UInt8} (isNumber : NumberText number)
    (ends : EndsNumber rest) : skipNumber (number ++ rest) = .ok rest := by
  cases isNumber with
  | negative isMagnitude => exact skipUnsigned_written isMagnitude ends
  | positive isMagnitude =>
    have skipped := skipUnsigned_written isMagnitude ends
    unfold skipNumber
    split
    · rename_i same
      -- a magnitude does not begin with a minus sign
      rw [same] at skipped
      cases skipped
    · exact skipped

/-- What is passed over as a number is one of the grammar. -/
theorem written_of_skipNumber (skipped : skipNumber text = .ok rest) :
    ∃ number, NumberText number ∧ text = number ++ rest := by
  unfold skipNumber at skipped
  split at skipped
  · obtain ⟨magnitude, isMagnitude, rfl⟩ := written_of_skipUnsigned skipped
    exact ⟨_, .negative isMagnitude, rfl⟩
  · obtain ⟨magnitude, isMagnitude, rfl⟩ := written_of_skipUnsigned skipped
    exact ⟨_, .positive isMagnitude, rfl⟩

/-! ### Strings -/

/-- The short escapes of the reader are those of the grammar, each for one byte. -/
theorem escapedByte?_eq_some_iff {letter : UInt8} :
    escapedByte? letter = some byte ↔ ShortEscape letter byte := by
  constructor
  · intro stands
    unfold escapedByte? at stands
    split at stands
    · rename_i itself
      simp only [Bool.or_eq_true, beq_iff_eq] at itself
      cases stands
      rcases itself with (rfl | rfl) | rfl <;> constructor
    · iterate 5
        split at stands
        · rename_i same
          obtain rfl := eq_of_beq same
          cases stands
          constructor
      cases stands
  · intro stands
    cases stands <;> rfl

/-- The letter of the long escape is none of them. -/
theorem escapedByte?_unit : escapedByte? 0x75 = none :=
  rfl

/-- Four hexadecimal digits are taken for the number that they stand for. -/
theorem takeHex_written {a b c d : UInt8} {number : Nat} (stands : hexNumber? a b c d = some number)
    (rest : List UInt8) : takeHex (a :: b :: c :: d :: rest) = .ok (number, rest) := by
  simp [takeHex, stands]

/-- What is taken for a number of four hexadecimal digits is written with such digits. -/
theorem written_of_takeHex {number : Nat} (taken : takeHex text = .ok (number, rest)) :
    ∃ a b c d, hexNumber? a b c d = some number ∧ text = a :: b :: c :: d :: rest := by
  unfold takeHex at taken
  split at taken
  · rename_i a b c d after
    split at taken
    · rename_i stands
      cases taken
      exact ⟨a, b, c, d, stands, rfl⟩
    · cases taken
  · cases taken

/-- An escape is passed over, short or long. The surrogates of a long one are not looked at. -/
theorem skipEscape_written {escape : List UInt8} (isCharacter : CharacterText (0x5C :: escape))
    (rest : List UInt8) : skipEscape (escape ++ rest) = .ok rest := by
  cases isCharacter with
  | plain plain => exact absurd rfl plain.unescaped
  | escape isEscape => simp [skipEscape, escapedByte?_eq_some_iff.2 isEscape]
  | unit number =>
    simp only [List.cons_append, List.nil_append, skipEscape, escapedByte?_unit, beq_self_eq_true,
      if_true, takeHex_written number]
    rfl

/-- What is passed over behind a backslash is an escape. -/
theorem written_of_skipEscape (skipped : skipEscape text = .ok rest) :
    ∃ escape, CharacterText (0x5C :: escape) ∧ text = escape ++ rest := by
  unfold skipEscape at skipped
  split at skipped
  · cases skipped
  · rename_i letter text
    split at skipped
    · rename_i stands
      cases skipped
      exact ⟨[letter], .escape (escapedByte?_eq_some_iff.1 stands), rfl⟩
    · split at skipped
      · rename_i isUnit
        obtain rfl := eq_of_beq isUnit
        obtain ⟨⟨number, after⟩, taken, rfl⟩ := exists_of_map_ok skipped
        obtain ⟨a, b, c, d, number, rfl⟩ := written_of_takeHex taken
        exact ⟨[0x75, a, b, c, d], .unit number, rfl⟩
      · cases skipped

/-- The closing quote ends a string. -/
theorem skipString_quote (rest : List UInt8) : skipString (0x22 :: rest) = .ok rest := by
  rw [skipString]
  rfl

/-- A plain byte is passed over by itself. -/
theorem skipString_plain (plain : Plain byte) (text : List UInt8) :
    skipString (byte :: text) = skipString text := by
  rw [skipString]
  simp [plain.visible, plain.unquoted, plain.unescaped]

/-- An escape is passed over whole, so a quote in it does not end the string. -/
theorem skipString_escape (skipped : skipEscape text = .ok after) :
    skipString (0x5C :: text) = skipString after := by
  rw [skipString, if_neg (by decide), if_pos (by decide)]
  split
  · rename_i others escape
    rw [skipped] at escape
    cases escape
    rfl
  · rename_i fault escape
    rw [skipped] at escape
    cases escape

/-- By induction on the characters of the string. -/
theorem skipString_written {characters : List UInt8} (isString : StringText characters)
    (rest : List UInt8) : skipString (characters ++ 0x22 :: rest) = .ok rest := by
  induction isString with
  | empty => exact skipString_quote rest
  | more isCharacter _ ih =>
    rw [List.append_assoc]
    cases isCharacter with
    | plain plain => exact (skipString_plain plain _).trans ih
    | escape isEscape =>
      exact (skipString_escape (skipEscape_written (.escape isEscape) _)).trans ih
    | unit number => exact (skipString_escape (skipEscape_written (.unit number) _)).trans ih

/-- The induction follows the reader: it has passed over one character more each time it goes on. -/
theorem written_of_skipString (skipped : skipString text = .ok rest) :
    ∃ characters, StringText characters ∧ text = characters ++ 0x22 :: rest := by
  fun_induction skipString text with
  | case1 => cases skipped
  | case2 byte text isQuote =>
    obtain rfl := eq_of_beq isQuote
    cases skipped
    exact ⟨[], .empty, rfl⟩
  | case3 byte text _ isEscape after escape _ ih =>
    obtain rfl := eq_of_beq isEscape
    obtain ⟨characters, isString, rfl⟩ := ih skipped
    obtain ⟨character, isCharacter, rfl⟩ := written_of_skipEscape escape
    exact ⟨_, .more isCharacter isString, by simp⟩
  | case4 => cases skipped
  | case5 => cases skipped
  | case6 byte text notQuote notEscape visible ih =>
    obtain ⟨characters, isString, rfl⟩ := ih skipped
    have plain : Plain byte := ⟨visible, by simpa using notQuote, by simpa using notEscape⟩
    exact ⟨_, .more (.plain plain) isString, rfl⟩

/-! ### Strings and the bytes that they stand for -/

/-- The second half of a pair is introduced by the two bytes of a long escape and by nothing
else. -/
theorem takePairByte_eq_ok_iff {expected : UInt8} :
    takePairByte expected text = .ok rest ↔ text = expected :: rest := by
  cases text with
  | nil => simp [takePairByte]
  | cons byte text =>
    by_cases same : byte = expected
    · simp [takePairByte, same]
    · simp [takePairByte, same]

/-- A low surrogate is no high one. -/
theorem not_low_of_high {unit : Nat} (isHigh : isHighSurrogate unit) : isLowSurrogate unit = false := by
  simp only [isHighSurrogate, Bool.and_eq_true, decide_eq_true_eq] at isHigh
  simp only [isLowSurrogate, Bool.and_eq_false_iff, decide_eq_false_iff_not]
  omega

/-- Two surrogates in the right order stand for one code point. -/
theorem takeUnicode_written_pair {a b c d e f g h : UInt8} {high low : Nat}
    (first : hexNumber? a b c d = some high) (isHigh : isHighSurrogate high)
    (second : hexNumber? e f g h = some low) (isLow : isLowSurrogate low) (rest : List UInt8) :
    takeUnicode (a :: b :: c :: d :: 0x5C :: 0x75 :: e :: f :: g :: h :: rest) =
      .ok (codePointBytes (pairValue high low), rest) := by
  simp [takeUnicode, bind, Except.bind, takeHex_written first, takeHex_written second, takePairByte,
    not_low_of_high isHigh, isHigh, isLow]

/-- What is taken for a long escape is one code unit that is no surrogate, or a pair of surrogates.
A lone surrogate of either kind is refused. -/
theorem written_of_takeUnicode {bytes : List UInt8} (taken : takeUnicode text = .ok (bytes, rest)) :
    ∃ escape, CharacterMeaning (0x5C :: 0x75 :: escape) bytes ∧ text = escape ++ rest := by
  obtain ⟨⟨number, afterFirst⟩, first, judged⟩ := exists_of_bind_ok taken
  obtain ⟨a, b, c, d, stands, rfl⟩ := written_of_takeHex first
  dsimp only at judged
  split at judged
  · cases judged
  · rename_i notLow
    split at judged
    · rename_i isHigh
      obtain ⟨afterSlash, slash, slashed⟩ := exists_of_bind_ok judged
      obtain ⟨afterLetter, letter, lettered⟩ := exists_of_bind_ok slashed
      obtain ⟨⟨low, afterSecond⟩, second, paired⟩ := exists_of_bind_ok lettered
      obtain rfl := takePairByte_eq_ok_iff.1 slash
      obtain rfl := takePairByte_eq_ok_iff.1 letter
      obtain ⟨e, f, g, h, standsLow, rfl⟩ := written_of_takeHex second
      split at paired
      · rename_i isLow
        obtain ⟨rfl, rfl⟩ := Prod.mk.inj (Except.ok.inj paired)
        exact ⟨[a, b, c, d, 0x5C, 0x75, e, f, g, h], .pair stands isHigh standsLow isLow, rfl⟩
      · cases paired
    · rename_i notHigh
      cases judged
      exact ⟨[a, b, c, d], .unit stands (by simpa using notHigh) (by simpa using notLow), rfl⟩

/-- An escape is taken for the bytes that it stands for. -/
theorem takeEscape_written {escape bytes : List UInt8}
    (isCharacter : CharacterMeaning (0x5C :: escape) bytes) (rest : List UInt8) :
    takeEscape (escape ++ rest) = .ok (bytes, rest) := by
  cases isCharacter with
  | plain plain => exact absurd rfl plain.unescaped
  | escape isEscape => simp [takeEscape, escapedByte?_eq_some_iff.2 isEscape]
  | unit number notHigh notLow =>
    simp [takeEscape, escapedByte?_unit, takeUnicode, bind, Except.bind, takeHex_written number,
      notHigh, notLow]
  | pair first isHigh second isLow =>
    simpa [takeEscape, escapedByte?_unit] using takeUnicode_written_pair first isHigh second isLow rest

/-- Bytes that were taken for an escape are written as one. -/
theorem written_of_takeEscape {bytes : List UInt8} (taken : takeEscape text = .ok (bytes, rest)) :
    ∃ escape, CharacterMeaning (0x5C :: escape) bytes ∧ text = escape ++ rest := by
  unfold takeEscape at taken
  split at taken
  · cases taken
  · rename_i letter text
    split at taken
    · rename_i stands
      cases taken
      exact ⟨[letter], .escape (escapedByte?_eq_some_iff.1 stands), rfl⟩
    · split at taken
      · rename_i isUnit
        obtain rfl := eq_of_beq isUnit
        obtain ⟨escape, isCharacter, rfl⟩ := written_of_takeUnicode taken
        exact ⟨_, isCharacter, rfl⟩
      · cases taken

variable {taken : List UInt8}

/-- The closing quote ends the string. What was taken is kept backwards, so it is turned around
here. -/
theorem readCharacters_quote (taken rest : List UInt8) :
    readCharacters taken (0x22 :: rest) = .ok (taken.reverse, rest) := by
  rw [readCharacters]
  rfl

/-- A plain byte stands for itself. -/
theorem readCharacters_plain (plain : Plain byte) (taken text : List UInt8) :
    readCharacters taken (byte :: text) = readCharacters (byte :: taken) text := by
  rw [readCharacters]
  simp [plain.visible, plain.unquoted, plain.unescaped]

/-- An escape stands for the bytes that it was taken for. -/
theorem readCharacters_escape {bytes : List UInt8} (escape : takeEscape text = .ok (bytes, after))
    (taken : List UInt8) :
    readCharacters taken (0x5C :: text) = readCharacters (bytes.reverse ++ taken) after := by
  rw [readCharacters, if_neg (by decide), if_pos (by decide)]
  split
  · rename_i others rest found
    rw [escape] at found
    cases found
    rfl
  · rename_i fault found
    rw [escape] at found
    cases found

/-- By induction on the characters of the string, for any bytes that were taken before. -/
theorem readCharacters_written {characters meaning : List UInt8}
    (isString : StringMeaning characters meaning) (taken rest : List UInt8) :
    readCharacters taken (characters ++ 0x22 :: rest) = .ok (taken.reverse ++ meaning, rest) := by
  induction isString generalizing taken with
  | empty => simp [readCharacters_quote]
  | @more character bytes others meaning isCharacter _ ih =>
    have onward := ih (bytes.reverse ++ taken)
    rw [List.reverse_append, List.reverse_reverse, List.append_assoc] at onward
    rw [List.append_assoc]
    cases isCharacter with
    | plain plain => exact (readCharacters_plain plain _ _).trans onward
    | escape isEscape =>
      exact (readCharacters_escape (takeEscape_written (.escape isEscape) _) _).trans onward
    | unit number notHigh notLow =>
      exact (readCharacters_escape (takeEscape_written (.unit number notHigh notLow) _) _).trans onward
    | pair first isHigh second isLow =>
      exact (readCharacters_escape
        (takeEscape_written (.pair first isHigh second isLow) _) _).trans onward

/-- The induction follows the reader, with the bytes taken so far in front of those that are still
to come. -/
theorem written_of_readCharacters {bytes : List UInt8}
    (read : readCharacters taken text = .ok (bytes, rest)) :
    ∃ characters meaning, StringMeaning characters meaning ∧ bytes = taken.reverse ++ meaning ∧
      text = characters ++ 0x22 :: rest := by
  fun_induction readCharacters taken text with
  | case1 => cases read
  | case2 taken byte text isQuote =>
    obtain rfl := eq_of_beq isQuote
    cases read
    exact ⟨[], [], .empty, by simp, rfl⟩
  | case3 taken byte text _ isEscape bytes after escape _ ih =>
    obtain rfl := eq_of_beq isEscape
    obtain ⟨characters, meaning, isString, rfl, rfl⟩ := ih read
    obtain ⟨character, isCharacter, rfl⟩ := written_of_takeEscape escape
    exact ⟨_, _, .more isCharacter isString, by simp, by simp⟩
  | case4 => cases read
  | case5 => cases read
  | case6 taken byte text notQuote notEscape visible ih =>
    obtain ⟨characters, meaning, isString, rfl, rfl⟩ := ih read
    have plain : Plain byte := ⟨visible, by simpa using notQuote, by simpa using notEscape⟩
    exact ⟨_, _, .more (.plain plain) isString, by simp, rfl⟩

/-- A string is read as the bytes that it stands for. -/
theorem readString_written {characters meaning : List UInt8}
    (isString : StringMeaning characters meaning) (rest : List UInt8) :
    readString (characters ++ 0x22 :: rest) = .ok (meaning, rest) :=
  readCharacters_written isString [] rest

/-- A string that was read is one of the grammar, and has the meaning that was read. -/
theorem written_of_readString {meaning : List UInt8} (read : readString text = .ok (meaning, rest)) :
    ∃ characters, StringMeaning characters meaning ∧ text = characters ++ 0x22 :: rest := by
  obtain ⟨characters, meaning, isString, rfl, rfl⟩ := written_of_readCharacters read
  exact ⟨characters, isString, rfl⟩

end RecompilerAdapter.Json
