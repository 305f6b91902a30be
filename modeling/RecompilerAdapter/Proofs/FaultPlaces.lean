/-
Module: RecompilerAdapter.Proofs.FaultPlaces
Purpose: Where readers of JSON parts report faults. Every reader leaves no more than it was given, and
  reports its faults within what it was given; a fault that the text ends too early is reported at the
  end. The statement is the same for each reader, so readers that are put together keep it.
Trusted boundary: none
Main exports: Fault.Within, Stays, SkipsWithin
-/
import RecompilerAdapter.Json.Skip

namespace RecompilerAdapter.Json

/-- The fault lies within a text of the given size, and at its end if the text ends too early. A
fault knows how many bytes were left when its reader stopped. -/
structure Fault.Within (size : Nat) (fault : Fault) : Prop where
  inside : fault.left ≤ size
  atEnd : fault.cause.category = .endOfText → fault.left = 0

/-- What may come of reading a text of the given size: no more is left, or there is a fault within
the text. -/
inductive Stays {α : Type} (size : Nat) (left : α → List UInt8) : Except Fault α → Prop where
  | ok {value : α} : (left value).length ≤ size → Stays size left (.ok value)
  | error {fault : Fault} : fault.Within size → Stays size left (.error fault)

variable {α β : Type} {size limit : Nat} {cause : Cause} {text rest : List UInt8} {byte : UInt8}
  {left : α → List UInt8}

namespace Fault.Within

/-- A fault about the next byte, where there is none, is one about the end of the text. -/
theorem nextAtEnd : (atNext cause []).Within size :=
  ⟨Nat.zero_le size, fun _ => rfl⟩

/-- So is a fault about what was just taken, if it was taken from the end. -/
theorem takenAtEnd : (afterTaken cause []).Within size :=
  ⟨Nat.zero_le size, fun _ => rfl⟩

/-- A fault about the next byte that says anything but that the text ends lies within it. -/
theorem next (fits : rest.length ≤ size) (early : cause.category ≠ .endOfText) :
    (atNext cause rest).Within size :=
  ⟨Nat.le_trans (Nat.sub_le _ _) fits, fun isEnd => absurd isEnd early⟩

/-- A fault about what was just taken lies within the text, too. -/
theorem taken (fits : rest.length ≤ size) (early : cause.category ≠ .endOfText) :
    (afterTaken cause rest).Within size :=
  ⟨fits, fun isEnd => absurd isEnd early⟩

/-- What lies within a text lies within a longer one. -/
theorem mono {fault : Fault} (within : fault.Within size) (grows : size ≤ limit) :
    fault.Within limit :=
  ⟨Nat.le_trans within.inside grows, within.atEnd⟩

end Fault.Within

open Fault.Within

namespace Stays

/-- A reader that was given more than it needed has stayed within that, too. -/
theorem mono {result : Except Fault α} (stays : Stays size left result) (grows : size ≤ limit) :
    Stays limit left result := by
  cases stays with
  | ok fits => exact .ok (Nat.le_trans fits grows)
  | error within => exact .error (within.mono grows)

/-- A reader goes on with what the one before it left. -/
theorem bind {behind : β → List UInt8} {first : Except Fault α} {next : α → Except Fault β}
    (stays : Stays size left first)
    (onward : ∀ value, (left value).length ≤ size → Stays size behind (next value)) :
    Stays size behind (first >>= next) := by
  cases stays with
  | ok fits => exact onward _ fits
  | error within => exact .error within

/-- A result that is passed on in another form leaves the same behind. -/
theorem map {behind : β → List UInt8} {result : Except Fault α} {change : α → β}
    (stays : Stays size left result) (same : ∀ value, behind (change value) = left value) :
    Stays size behind (result.map change) := by
  cases stays with
  | ok fits => exact .ok (by rwa [same])
  | error within => exact .error within

end Stays

/-! ### Blanks, words and digits -/

/-- No more is left where bytes are dropped as long as they satisfy a test. -/
theorem dropWhile_fits (fits : text.length ≤ size) (holds : UInt8 → Bool) :
    (text.dropWhile holds).length ≤ size :=
  Nat.le_trans (List.dropWhile_sublist holds).length_le fits

theorem drop_fits (fits : text.length ≤ size) : (text.drop 1).length ≤ size :=
  Nat.le_trans (List.drop_sublist 1 text).length_le fits

/-- No more is left behind blanks. -/
theorem skipBlanks_fits (fits : text.length ≤ size) : (skipBlanks text).length ≤ size :=
  dropWhile_fits fits isBlank

/-- What begins behind blanks is no longer than the text, and what follows its first byte
neither. -/
theorem fits_of_skipBlanks (fits : text.length ≤ size) (skipped : skipBlanks text = byte :: rest) :
    (byte :: rest).length ≤ size ∧ rest.length ≤ size := by
  have whole := skipBlanks_fits fits
  rw [skipped] at whole
  exact ⟨whole, Nat.le_of_succ_le whole⟩

/-- A word that is cut short is at fault at the end of the text, and another word at its first byte
that differs. -/
theorem takeWord_stays (word : List UInt8) (fits : text.length ≤ size) :
    Stays size id (takeWord word text) := by
  induction word generalizing text with
  | nil => exact .ok fits
  | cons expected word ih =>
    cases text with
    | nil => exact .error takenAtEnd
    | cons byte text =>
      have fits := Nat.le_of_succ_le fits
      unfold takeWord
      split
      · exact ih fits
      · exact .error (taken fits (by decide))

/-- Digits that are absorbed are taken from the text. -/
theorem absorb_fits (value : Nat) (fits : text.length ≤ size) :
    (absorb limit value text).2.length ≤ size := by
  induction text generalizing value with
  | nil => exact fits
  | cons byte text ih =>
    unfold absorb
    split
    · exact ih _ (Nat.le_of_succ_le fits)
    · exact fits

/-! ### Numbers -/

section Numbers

variable {negative down : Bool} {significand : Nat} {start : Int}

/-- A number is finished without taking anything. -/
theorem finish_stays (fits : text.length ≤ size) :
    Stays size Prod.snd (finish negative significand start text) := by
  unfold finish
  split
  · exact .ok fits
  · exact .error (taken fits (by decide))

/-- An exponent may be too large, which is a fault about the digit just taken. -/
theorem readExponentDigits_stays (fits : text.length ≤ size) :
    Stays size Prod.snd (readExponentDigits negative significand start down text) := by
  cases text with
  | nil => exact .error takenAtEnd
  | cons byte text =>
    have fits := Nat.le_of_succ_le fits
    have absorbed : (absorb exponentLimit (digitValue byte) text).2.length ≤ size :=
      absorb_fits _ fits
    rw [readExponentDigits]
    split
    · generalize absorb exponentLimit (digitValue byte) text = result at absorbed
      obtain ⟨exponent, after⟩ := result
      dsimp only
      split
      · split
        · exact .error (taken (drop_fits absorbed) (by decide))
        · exact .ok (dropWhile_fits absorbed isDigit)
      · exact finish_stays absorbed
    · exact .error (taken fits (by decide))

theorem readExponent_stays (fits : text.length ≤ size) :
    Stays size Prod.snd (readExponent negative significand start text) := by
  unfold readExponent
  split
  · exact readExponentDigits_stays (Nat.le_of_succ_le fits)
  · exact readExponentDigits_stays (Nat.le_of_succ_le fits)
  · exact readExponentDigits_stays fits

theorem readScale_stays (fits : text.length ≤ size) :
    Stays size Prod.snd (readScale negative significand start text) := by
  unfold readScale
  split
  · exact readExponent_stays (drop_fits fits)
  · exact finish_stays fits

theorem readFraction_stays (fits : text.length ≤ size) :
    Stays size Prod.snd (readFraction negative significand start text) := by
  have absorbed : (absorb significandLimit significand text).2.length ≤ size :=
    absorb_fits _ fits
  unfold readFraction
  generalize absorb significandLimit significand text = result at absorbed
  obtain ⟨significand, after⟩ := result
  dsimp only
  split
  · exact readScale_stays (dropWhile_fits absorbed isDigit)
  · split
    · cases after with
      | nil => exact .error nextAtEnd
      | cons => exact .error (next absorbed (by decide))
    · exact readScale_stays absorbed

theorem readTail_stays {beyond : Nat} (fits : text.length ≤ size) :
    Stays size Prod.snd (readTail negative significand beyond text) := by
  unfold readTail
  split
  · exact readFraction_stays (Nat.le_of_succ_le fits)
  · split
    · exact readExponent_stays (drop_fits fits)
    · split
      · exact finish_stays fits
      · split
        · exact .ok fits
        · split
          · exact .ok fits
          · exact finish_stays fits

/-- A number without sign may lack its digits, or may begin with a zero that is followed by another
digit. -/
theorem readUnsigned_stays (fits : text.length ≤ size) :
    Stays size Prod.snd (readUnsigned negative text) := by
  cases text with
  | nil => exact .error takenAtEnd
  | cons byte text =>
    have fits := Nat.le_of_succ_le fits
    have absorbed : (absorb significandLimit (digitValue byte) text).2.length ≤ size :=
      absorb_fits _ fits
    rw [readUnsigned]
    split
    · split
      · exact .error (next fits (by decide))
      · exact readTail_stays fits
    · split
      · exact readTail_stays (dropWhile_fits absorbed isDigit)
      · exact .error (taken fits (by decide))

/-- So all faults of numbers are within the text, in this reading and in the one below that only
checks their form. -/
theorem readNumber_stays (fits : text.length ≤ size) : Stays size Prod.snd (readNumber text) := by
  unfold readNumber
  split
  · exact readUnsigned_stays (Nat.le_of_succ_le fits)
  · exact readUnsigned_stays fits

end Numbers

theorem skipExponentDigits_stays (fits : text.length ≤ size) :
    Stays size id (skipExponentDigits text) := by
  cases text with
  | nil => exact .error takenAtEnd
  | cons byte text =>
    have fits := Nat.le_of_succ_le fits
    rw [skipExponentDigits]
    split
    · exact .ok (dropWhile_fits fits isDigit)
    · exact .error (taken fits (by decide))

theorem skipExponent_stays (fits : text.length ≤ size) : Stays size id (skipExponent text) := by
  unfold skipExponent
  split
  · exact skipExponentDigits_stays (Nat.le_of_succ_le fits)
  · exact skipExponentDigits_stays (Nat.le_of_succ_le fits)
  · exact skipExponentDigits_stays fits

theorem skipScale_stays (fits : text.length ≤ size) : Stays size id (skipScale text) := by
  unfold skipScale
  split
  · exact skipExponent_stays (drop_fits fits)
  · exact .ok fits

theorem skipTail_stays (fits : text.length ≤ size) : Stays size id (skipTail text) := by
  unfold skipTail
  split
  · have fits := Nat.le_of_succ_le fits
    split
    · exact skipScale_stays (dropWhile_fits fits isDigit)
    · exact .error (next fits (by decide))
  · exact skipScale_stays fits

theorem skipUnsigned_stays (fits : text.length ≤ size) : Stays size id (skipUnsigned text) := by
  cases text with
  | nil => exact .error takenAtEnd
  | cons byte text =>
    have fits := Nat.le_of_succ_le fits
    rw [skipUnsigned]
    split
    · split
      · exact .error (next fits (by decide))
      · exact skipTail_stays fits
    · split
      · exact skipTail_stays (dropWhile_fits fits isDigit)
      · exact .error (taken fits (by decide))

theorem skipNumber_stays (fits : text.length ≤ size) : Stays size id (skipNumber text) := by
  unfold skipNumber
  split
  · exact skipUnsigned_stays (Nat.le_of_succ_le fits)
  · exact skipUnsigned_stays fits

/-! ### Strings -/

/-- Four digits may be cut short by the end of the text, and then the fault is there. -/
theorem takeHex_stays (fits : text.length ≤ size) : Stays size Prod.snd (takeHex text) := by
  unfold takeHex
  split
  · rename_i a b c d rest
    have fits : rest.length ≤ size := by
      simp only [List.length_cons] at fits
      omega
    split
    · exact .ok fits
    · exact .error (taken fits (by decide))
  · exact .error takenAtEnd

theorem takePairByte_stays (expected : UInt8) (fits : text.length ≤ size) :
    Stays size id (takePairByte expected text) := by
  cases text with
  | nil => exact .error takenAtEnd
  | cons byte text =>
    have fits := Nat.le_of_succ_le fits
    rw [takePairByte]
    split
    · exact .ok fits
    · exact .error (taken fits (by decide))

/-- A lone surrogate is a fault about what was just taken. -/
theorem takeUnicode_stays (fits : text.length ≤ size) : Stays size Prod.snd (takeUnicode text) := by
  refine (takeHex_stays fits).bind fun reading fits => ?_
  obtain ⟨unit, rest⟩ := reading
  dsimp only
  split
  · exact .error (taken fits (by decide))
  · split
    · refine (takePairByte_stays 0x5C fits).bind fun rest fits => ?_
      refine (takePairByte_stays 0x75 fits).bind fun rest fits => ?_
      refine (takeHex_stays fits).bind fun reading fits => ?_
      obtain ⟨low, rest⟩ := reading
      dsimp only
      split
      · exact .ok fits
      · exact .error (taken fits (by decide))
    · exact .ok fits

/-- An unknown escape is a fault about the letter behind the backslash. -/
theorem takeEscape_stays (fits : text.length ≤ size) : Stays size Prod.snd (takeEscape text) := by
  cases text with
  | nil => exact .error takenAtEnd
  | cons letter text =>
    have fits := Nat.le_of_succ_le fits
    rw [takeEscape]
    split
    · exact .ok fits
    · split
      · exact takeUnicode_stays fits
      · exact .error (taken fits (by decide))

theorem skipEscape_stays (fits : text.length ≤ size) : Stays size id (skipEscape text) := by
  cases text with
  | nil => exact .error takenAtEnd
  | cons letter text =>
    have fits := Nat.le_of_succ_le fits
    rw [skipEscape]
    split
    · exact .ok fits
    · split
      · exact (takeHex_stays fits).map fun _ => rfl
      · exact .error (taken fits (by decide))

/-- A string without a closing quote is at fault at the end of the text. -/
theorem readCharacters_stays (taken : List UInt8) (fits : text.length ≤ size) :
    Stays size Prod.snd (readCharacters taken text) := by
  fun_induction readCharacters taken text with
  | case1 => exact .error takenAtEnd
  | case2 => exact .ok (Nat.le_of_succ_le fits)
  | case3 taken byte rest _ _ bytes after escape shorter ih =>
    exact ih (by simp only [List.length_cons] at fits; omega)
  | case4 taken byte rest _ _ fault escape =>
    have stays := takeEscape_stays (Nat.le_of_succ_le fits)
    rw [escape] at stays
    cases stays with
    | error within => exact .error within
  | case5 => exact .error (.taken (Nat.le_of_succ_le fits) (by decide))
  | case6 taken byte rest _ _ _ ih => exact ih (Nat.le_of_succ_le fits)

theorem readString_stays (fits : text.length ≤ size) : Stays size Prod.snd (readString text) :=
  readCharacters_stays [] fits

theorem skipString_stays (fits : text.length ≤ size) : Stays size id (skipString text) := by
  fun_induction skipString text with
  | case1 => exact .error takenAtEnd
  | case2 => exact .ok (Nat.le_of_succ_le fits)
  | case3 byte rest _ _ after escape shorter ih =>
    exact ih (by simp only [List.length_cons] at fits; omega)
  | case4 byte rest _ _ fault escape =>
    have stays := skipEscape_stays (Nat.le_of_succ_le fits)
    rw [escape] at stays
    cases stays with
    | error within => exact .error within
  | case5 => exact .error (taken fits (by decide))
  | case6 byte rest _ _ _ ih => exact ih (Nat.le_of_succ_le fits)

/-! ### Values that are passed over -/

/-- Behind a key a colon is due. -/
theorem takeColon_stays (fits : text.length ≤ size) : Stays size id (takeColon text) := by
  unfold takeColon
  split
  · exact .error nextAtEnd
  · rename_i skipped
    obtain ⟨fits, fitsBehind⟩ := fits_of_skipBlanks fits skipped
    split
    · exact .ok fitsBehind
    · exact .error (next fits (by decide))

/-- Only maps have keys, so nothing is passed over in lists. -/
theorem skipKey_stays (container : Container) (fits : text.length ≤ size) :
    Stays size id (skipKey container text) := by
  unfold skipKey
  split
  · exact .ok fits
  · split
    · exact .error nextAtEnd
    · rename_i skipped
      obtain ⟨fits, fitsBehind⟩ := fits_of_skipBlanks fits skipped
      split
      · exact (skipString_stays fitsBehind).bind fun _ fits => takeColon_stays fits
      · exact .error (next fits (by decide))

/-- The first byte of a value decides which form is due. -/
theorem skipScalar_stays (fits : (byte :: text).length ≤ size) :
    Stays size id (skipScalar byte text) := by
  have fitsBehind := Nat.le_of_succ_le fits
  unfold skipScalar
  split
  · exact takeWord_stays _ fitsBehind
  · split
    · exact takeWord_stays _ fitsBehind
    · split
      · exact takeWord_stays _ fitsBehind
      · split
        · exact skipNumber_stays fits
        · split
          · exact skipString_stays fitsBehind
          · exact .error (next fits (by decide))

/-- With a bound on the steps, values and entries are passed over within the text. As with the
grammar, the three readers are treated together. -/
structure SkipsWithin (bound : Nat) : Prop where
  value : ∀ size text, text.length ≤ size → Stays size id (skipValueWithin bound text)
  opened : ∀ size container text, text.length ≤ size →
    Stays size id (skipOpenedWithin bound container text)
  entries : ∀ size container text, text.length ≤ size →
    Stays size id (skipEntriesWithin bound container text)

namespace SkipsWithin

variable {bound : Nat} (within : SkipsWithin bound)

include within

/-- A value, given that all readers stay within the text for a smaller bound. Containers are opened
after a byte was taken, so what they are given is less. -/
theorem value_succ (fits : text.length ≤ size) :
    Stays size id (skipValueWithin (bound + 1) text) := by
  unfold skipValueWithin
  split
  · exact .error nextAtEnd
  · rename_i skipped
    obtain ⟨fits, fitsBehind⟩ := fits_of_skipBlanks fits skipped
    split
    · exact within.opened size _ _ fitsBehind
    · split
      · exact within.opened size _ _ fitsBehind
      · exact skipScalar_stays fits

/-- A container may be empty. -/
theorem opened_succ (container : Container) (fits : text.length ≤ size) :
    Stays size id (skipOpenedWithin (bound + 1) container text) := by
  unfold skipOpenedWithin
  split
  · exact .error nextAtEnd
  · rename_i skipped
    obtain ⟨fits, fitsBehind⟩ := fits_of_skipBlanks fits skipped
    split
    · exact .ok fitsBehind
    · exact within.entries size _ _ fits

/-- Behind an entry, the container is closed or another entry is due. -/
theorem entries_succ (container : Container) (fits : text.length ≤ size) :
    Stays size id (skipEntriesWithin (bound + 1) container text) := by
  unfold skipEntriesWithin
  refine (skipKey_stays container fits).bind fun value fits => ?_
  refine (within.value size value fits).bind fun after fits => ?_
  split
  · exact .error nextAtEnd
  · rename_i skipped
    obtain ⟨fits, fitsBehind⟩ := fits_of_skipBlanks fits skipped
    split
    · exact within.entries size _ _ fitsBehind
    · split
      · exact .ok fitsBehind
      · exact .error (next fits (by cases container <;> decide))

end SkipsWithin

/-- By induction on the bound, for the three readers at once, because they call each other. -/
theorem skipsWithin (bound : Nat) : SkipsWithin bound := by
  induction bound with
  | zero =>
    constructor
    case value => exact fun _ _ fits => .error (next fits (by decide))
    case opened => exact fun _ _ _ fits => .error (next fits (by decide))
    case entries => exact fun _ _ _ fits => .error (next fits (by decide))
  | succ bound within =>
    exact ⟨fun _ _ => within.value_succ, fun _ container _ => within.opened_succ container,
      fun _ container _ => within.entries_succ container⟩

/-- So passing over a value stays within the text. -/
theorem skipValue_stays (fits : text.length ≤ size) : Stays size id (skipValue text) :=
  (skipsWithin _).value size text fits

end RecompilerAdapter.Json
