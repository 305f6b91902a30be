/-
Module: RecompilerAdapter.Proofs.FaultPositions
Purpose: Where a rejected text of tunables is at fault. The place is the end of some first bytes of the
  text: its line is counted by the line feeds among them, its column by the bytes behind the last line
  feed. If the text ends too early, the place is its end.
Trusted boundary: none
Main exports: Behind, FaultPlace, readBytes_within, exists_lastLine
-/
import RecompilerAdapter.Proofs.FaultPlaces
import RecompilerAdapter.Proofs.OptionObjects

namespace RecompilerAdapter.Options

open Json Fault.Within

variable {size : Nat} {text rest : List UInt8} {byte : UInt8} {first : Bool}

/-! ### Flags -/

/-- A value of the wrong kind is read as far as it takes to say what was found. -/
theorem readFound_stays (fits : text.length ≤ size) : Stays size Prod.snd (readFound text) := by
  cases text with
  | nil => exact .error nextAtEnd
  | cons byte text =>
    have fitsBehind := Nat.le_of_succ_le fits
    rw [readFound]
    split
    · exact (takeWord_stays _ fitsBehind).map fun _ => rfl
    · split
      · exact (takeWord_stays _ fitsBehind).map fun _ => rfl
      · split
        · exact (takeWord_stays _ fitsBehind).map fun _ => rfl
        · split
          · exact readNumber_stays fits
          · split
            · exact (readString_stays fitsBehind).map fun _ => rfl
            · split
              · exact .ok fits
              · split
                · exact .ok fits
                · exact .error (next fits (by decide))

/-- A value of the wrong kind is at fault behind it, unless it is malformed itself. -/
theorem wrongType_within (expected : Expected) (fits : text.length ≤ size) :
    (wrongType expected text).Within size := by
  have stays := readFound_stays fits
  unfold wrongType
  cases read : readFound text with
  | error fault =>
    rw [read] at stays
    cases stays with
    | error within => exact within
  | ok reading =>
    rw [read] at stays
    cases stays with
    | ok fitsBehind => exact taken fitsBehind (fun isEnd => by cases isEnd)

theorem readFlag_stays (fits : text.length ≤ size) : Stays size Prod.snd (readFlag text) := by
  unfold readFlag
  split
  · exact .error nextAtEnd
  · rename_i skipped
    obtain ⟨fits, fitsBehind⟩ := fits_of_skipBlanks fits skipped
    split
    · exact (takeWord_stays _ fitsBehind).map fun _ => rfl
    · split
      · exact (takeWord_stays _ fitsBehind).map fun _ => rfl
      · exact .error (wrongType_within _ fits)

/-! ### Objects -/

/-- Between two members the reader expects a comma or the end. Either fault lies within the text,
and at its end if the text is over. -/
theorem nextMember_stays (fits : text.length ≤ size) :
    Stays size Prod.snd (nextMember first text) := by
  unfold nextMember
  split
  · exact .error nextAtEnd
  · rename_i skipped
    obtain ⟨fits, fitsBehind⟩ := fits_of_skipBlanks fits skipped
    split
    · exact .ok fitsBehind
    · split
      · split
        · exact .ok fitsBehind
        · exact .error (next fits (by decide))
      · split
        · split
          · exact .error nextAtEnd
          · rename_i skipped
            obtain ⟨fits, fitsBehind⟩ := fits_of_skipBlanks fitsBehind skipped
            split
            · exact .ok fitsBehind
            · split
              · exact .error (next fits (by decide))
              · exact .error (next fits (by decide))
        · exact .error (next fits (by decide))

/-- To find a member takes at least one byte. -/
theorem nextMember_shorter {further : Bool} (found : nextMember first text = .ok (further, rest)) :
    rest.length < text.length := by
  rcases written_of_nextMember found with
    ⟨-, before, -, rfl⟩ | ⟨-, lead, before, -, -, rfl⟩
  · simp only [List.length_append, List.length_cons]
    omega
  · simp only [List.length_append, List.length_cons]
    omega

/-- A tunable that is stated twice is a fault about what comes behind its second name. -/
theorem duplicate_within (name : OptionName) (fits : text.length ≤ size) :
    (duplicate name text).Within size := by
  have fitsBehind := skipBlanks_fits fits
  unfold duplicate
  split
  · rename_i skipped
    rw [skipped] at fitsBehind
    exact taken (Nat.le_of_succ_le fitsBehind) (fun isEnd => by cases isEnd)
  · exact taken fitsBehind (fun isEnd => by cases isEnd)

/-- The bound on the members is never reached, since each of them takes at least one byte. By
induction on the bound, with the text as the measure. -/
theorem readMembers_stays {bound : Nat} {seen : List (OptionName × Bool)}
    (enough : text.length < bound) (fits : text.length ≤ size) :
    Stays size Prod.snd (readMembers bound first seen text) := by
  induction bound generalizing size first seen text with
  | zero => cases enough
  | succ bound ih =>
    have stays : Stays size Prod.snd (nextMember first text) := nextMember_stays fits
    rw [readMembers]
    cases found : nextMember first text with
    | error fault =>
      rw [found] at stays
      cases stays with
      | error within => exact .error within
    | ok reading =>
      obtain ⟨further, opened⟩ := reading
      have shorter := nextMember_shorter found
      cases further with
      | false => exact .ok (Nat.le_trans (Nat.le_of_lt shorter) fits)
      | true =>
        have smaller : opened.length < bound := by omega
        refine Stays.mono ?_ (Nat.le_trans (Nat.le_of_lt shorter) fits)
        refine (readString_stays (Nat.le_refl opened.length)).bind fun reading fits => ?_
        obtain ⟨key, afterKey⟩ := reading
        dsimp only
        split
        · refine (takeColon_stays fits).bind fun atValue fits => ?_
          refine (skipValue_stays fits).bind fun behind fits => ?_
          exact ih (Nat.lt_of_le_of_lt fits smaller) fits
        · split
          · exact .error (duplicate_within _ fits)
          · refine (takeColon_stays fits).bind fun atValue fits => ?_
            refine (readFlag_stays fits).bind fun reading fits => ?_
            obtain ⟨value, behind⟩ := reading
            exact ih (Nat.lt_of_le_of_lt fits smaller) fits

theorem readObject_stays (fits : text.length ≤ size) : Stays size Prod.snd (readObject text) :=
  (readMembers_stays (Nat.lt_succ_self _) fits).map fun _ => rfl

/-! ### Lists -/

theorem nextElement_stays (fits : text.length ≤ size) :
    Stays size Prod.snd (nextElement first text) := by
  unfold nextElement
  split
  · exact .error nextAtEnd
  · rename_i skipped
    obtain ⟨fits, fitsBehind⟩ := fits_of_skipBlanks fits skipped
    split
    · exact .ok fits
    · split
      · exact .ok fits
      · split
        · split
          · exact .error nextAtEnd
          · rename_i skipped
            obtain ⟨fits, fitsBehind⟩ := fits_of_skipBlanks fitsBehind skipped
            split
            · exact .error (next fits (by decide))
            · exact .ok fits
        · exact .error (next fits (by decide))

/-- A list that is too long is a fault about the element that is too much. -/
theorem endList_stays (fits : text.length ≤ size) : Stays size id (endList text) := by
  unfold endList
  split
  · exact .error nextAtEnd
  · rename_i skipped
    obtain ⟨fits, fitsBehind⟩ := fits_of_skipBlanks fits skipped
    split
    · exact .ok fitsBehind
    · split
      · have fits := skipBlanks_fits fitsBehind
        split
        · rename_i skipped
          rw [skipped] at fits
          exact .error (next fits (by decide))
        · exact .error (next fits (by decide))
      · exact .error (next fits (by decide))

theorem readElements_stays {options : Options} {names : List OptionName}
    (fits : text.length ≤ size) : Stays size Prod.snd (readElements options first names text) := by
  induction names generalizing options first text with
  | nil => exact (endList_stays fits).map fun _ => rfl
  | cons name names ih =>
    rw [readElements]
    refine (nextElement_stays fits).bind fun reading fits => ?_
    obtain ⟨further, start⟩ := reading
    cases further with
    | false => exact (endList_stays fits).map fun _ => rfl
    | true =>
      refine (readFlag_stays fits).bind fun reading fits => ?_
      obtain ⟨value, behind⟩ := reading
      exact ih fits

/-! ### Whole texts -/

/-- Whether an object, a list or something else is read, faults stay within the text. -/
theorem readValue_stays (fits : text.length ≤ size) : Stays size Prod.snd (readValue text) := by
  unfold readValue
  split
  · exact .error nextAtEnd
  · rename_i skipped
    obtain ⟨fits, fitsBehind⟩ := fits_of_skipBlanks fits skipped
    split
    · exact readElements_stays fitsBehind
    · split
      · exact readObject_stays fitsBehind
      · exact .error (wrongType_within _ fits)

theorem readBytes_stays (text : List UInt8) : Stays text.length (fun _ => []) (readBytes text) := by
  refine (readValue_stays (Nat.le_refl text.length)).bind fun reading fits => ?_
  obtain ⟨options, rest⟩ := reading
  have fits := skipBlanks_fits fits
  dsimp only
  split
  · exact .ok (Nat.zero_le _)
  · exact .error (next fits (by decide))

/-- Every fault of a text lies within it. -/
theorem readBytes_within {fault : Fault} (rejected : readBytes text = .error fault) :
    fault.Within text.length := by
  have stays := readBytes_stays text
  rw [rejected] at stays
  cases stays with
  | error within => exact within

/-! ### Lines and columns -/

/-- A position behind some bytes: one line more than there are line feeds among them, and as many
columns as there are bytes behind the last of these. -/
structure Behind (passed : List UInt8) (position : TextPosition) : Prop where
  line : position.line = 1 + passed.count 0x0A
  column : ∃ before last, passed = before ++ last ∧ 0x0A ∉ last ∧
    (before = [] ∨ ∃ earlier, before = earlier ++ [0x0A]) ∧ position.column = last.length

/-- The bytes behind the last line feed are those that are counted from the end up to it. -/
theorem exists_lastLine (passed : List UInt8) : ∃ before last, passed = before ++ last ∧
    0x0A ∉ last ∧ (before = [] ∨ ∃ earlier, before = earlier ++ [0x0A]) ∧
    (passed.reverse.takeWhile (· != 0x0A)).length = last.length := by
  refine ⟨(passed.reverse.dropWhile (· != 0x0A)).reverse,
    (passed.reverse.takeWhile (· != 0x0A)).reverse, ?_, ?_, ?_, List.length_reverse.symm⟩
  · rw [← List.reverse_append, List.takeWhile_append_dropWhile, List.reverse_reverse]
  · intro isMember
    have apart := List.all_eq_true.1 List.all_takeWhile _ (List.mem_reverse.1 isMember)
    cases apart
  · cases found : passed.reverse.dropWhile (· != 0x0A) with
    | nil => exact .inl rfl
    | cons byte earlier =>
      have isFeed := List.head?_dropWhile_not (· != 0x0A) passed.reverse
      rw [found] at isFeed
      have isFeed : byte = 0x0A := by simpa using isFeed
      exact .inr ⟨earlier.reverse, by rw [List.reverse_cons, isFeed]⟩

/-- The place of a fault is computed by counting in the bytes before it. -/
theorem behind_after (text : List UInt8) (count : Nat) :
    Behind (text.take count) (.after text count) where
  line := Nat.add_comm _ _
  column := exists_lastLine (text.take count)

/-- The place of a fault: the end of some first bytes of the text, where its reader stopped. Line
and column are counted over these bytes alone. -/
structure FaultPlace (text : List UInt8) (fault : OptionsFault) (count : Nat) : Prop where
  inside : count ≤ text.length
  stopped : readBytes text = .error ⟨fault.cause, text.length - count⟩
  position : Behind (text.take count) fault.position
  atEnd : fault.category = .endOfText → count = text.length

/-- Whenever a text of tunables is rejected, the reported position points into the text, and at its
end if the text ends too early. -/
theorem faultPositions (text : String) (fault : OptionsFault)
    (rejected : ofJson text = .error fault) :
    ∃ count, FaultPlace text.toUTF8.toList fault count := by
  rw [ofJson, ofBytes] at rejected
  cases found : readBytes text.toUTF8.toList with
  | ok options =>
    rw [found] at rejected
    cases rejected
  | error raw =>
    rw [found] at rejected
    obtain rfl := Except.error.inj rejected
    have within := readBytes_within found
    refine ⟨text.toUTF8.toList.length - raw.left, Nat.sub_le _ _, ?_, behind_after _ _, ?_⟩
    · rw [found, Nat.sub_sub_self within.inside]
      rfl
    · intro isEnd
      rw [within.atEnd isEnd, Nat.sub_zero]

/-- An object that is not closed is at fault at its end, in column zero of the second line. -/
theorem faultPositions_openObject :
    ofJson "\x7b\n" = .error ⟨.endInObject, 2, 0⟩ ∧
      ∃ count, FaultPlace "\x7b\n".toUTF8.toList ⟨.endInObject, 2, 0⟩ count := by
  have rejected : ofJson "\x7b\n" = .error ⟨.endInObject, 2, 0⟩ := by
    have bytes : "\x7b\n".toUTF8.toList = [0x7B, 0x0A] := by decide +kernel
    rw [ofJson, bytes]
    rfl
  exact ⟨rejected, faultPositions _ _ rejected⟩

end RecompilerAdapter.Options
