/-
Module: RecompilerAdapter.Proofs.SkippedValues
Purpose: Values that are passed over, against the grammar. A value that is passed over is a value of the
  grammar, and a value of the grammar is passed over whole, however deep it is nested: the bound that the
  length of the text gives is never reached.
Trusted boundary: none
Main exports: SkipsWritten, skipValue_written, written_of_skipValue
-/
import RecompilerAdapter.Proofs.JsonLeaves

namespace RecompilerAdapter.Json

variable {text rest after before : List UInt8} {byte : UInt8} {container : Container}

/-! ### Keys and scalars -/

/-- A colon is taken behind any blanks. -/
theorem takeColon_written (blank : Blanks before) (rest : List UInt8) :
    takeColon (before ++ 0x3A :: rest) = .ok rest := by
  rw [takeColon, skipBlanks_written blank rfl]
  rfl

/-- What was taken is blanks and a colon. -/
theorem written_of_takeColon (taken : takeColon text = .ok rest) :
    ∃ before, Blanks before ∧ text = before ++ 0x3A :: rest := by
  unfold takeColon at taken
  split at taken
  · cases taken
  · rename_i byte others skipped
    split at taken
    · rename_i isColon
      cases taken
      rw [eq_of_beq isColon] at skipped
      exact written_of_skipBlanks skipped
    · cases taken

/-- A key is passed over up to blanks, which the value behind it passes over anyway. -/
theorem skipKey_written {key : List UInt8} (isKey : KeyText container key)
    (starts : skipBlanks text = skipBlanks (key ++ rest)) :
    ∃ value, skipKey container text = .ok value ∧ skipBlanks value = skipBlanks rest := by
  cases isKey with
  | element => exact ⟨text, rfl, starts⟩
  | member blankBefore isString blankAfter =>
    refine ⟨rest, ?_, rfl⟩
    simp only [List.append_assoc, List.cons_append, List.nil_append] at starts
    rw [skipBlanks_written blankBefore rfl] at starts
    simp only [skipKey, starts, beq_self_eq_true, if_true, skipString_written isString]
    exact takeColon_written blankAfter rest

/-- What was passed over in front of a value is a key of the grammar, or nothing in a list. -/
theorem written_of_skipKey (skipped : skipKey container text = .ok rest) :
    ∃ key, KeyText container key ∧ text = key ++ rest := by
  unfold skipKey at skipped
  split at skipped
  · cases skipped
    exact ⟨[], .element, rfl⟩
  · split at skipped
    · cases skipped
    · rename_i byte others blanks
      split at skipped
      · rename_i isQuote
        rw [eq_of_beq isQuote] at blanks
        obtain ⟨before, blankBefore, rfl⟩ := written_of_skipBlanks blanks
        obtain ⟨behind, string, colon⟩ := exists_of_bind_ok skipped
        obtain ⟨key, isString, rfl⟩ := written_of_skipString string
        obtain ⟨after, blankAfter, rfl⟩ := written_of_takeColon colon
        exact ⟨_, .member blankBefore isString blankAfter, by simp⟩
      · cases skipped

/-- What was passed over as a scalar is a value of the grammar. The first byte decides of which kind
it is. -/
theorem written_of_skipScalar (skipped : skipScalar byte text = .ok rest) :
    ∃ value, ValueText value ∧ byte :: text = value ++ rest := by
  unfold skipScalar at skipped
  split at skipped
  · rename_i isNull
    obtain rfl := eq_of_beq isNull
    exact ⟨_, .nullWord, by rw [takeWord_eq_ok_iff.1 skipped]; rfl⟩
  · split at skipped
    · rename_i isTrue
      obtain rfl := eq_of_beq isTrue
      exact ⟨_, .trueWord, by rw [takeWord_eq_ok_iff.1 skipped]; rfl⟩
    · split at skipped
      · rename_i isFalse
        obtain rfl := eq_of_beq isFalse
        exact ⟨_, .falseWord, by rw [takeWord_eq_ok_iff.1 skipped]; rfl⟩
      · split at skipped
        · obtain ⟨number, isNumber, same⟩ := written_of_skipNumber skipped
          exact ⟨number, .number isNumber, same⟩
        · split at skipped
          · rename_i isQuote
            obtain rfl := eq_of_beq isQuote
            obtain ⟨characters, isString, rfl⟩ := written_of_skipString skipped
            exact ⟨_, .string isString, by simp⟩
          · cases skipped

/-! ### Values of the grammar are passed over -/

/-- A value that opens no container is passed over as a scalar. -/
theorem skipValueWithin_scalar {bound : Nat} (starts : skipBlanks text = byte :: after)
    (notList : byte ≠ 0x5B) (notMap : byte ≠ 0x7B) :
    skipValueWithin (bound + 1) text = skipScalar byte after := by
  simp [skipValueWithin, starts, notList, notMap]

/-- An opening bracket or brace leads into a container. -/
theorem skipValueWithin_opener {bound : Nat} (starts : skipBlanks text = container.opener :: after) :
    skipValueWithin (bound + 1) text = skipOpenedWithin bound container after := by
  cases container <;> simp [skipValueWithin, starts, Container.opener]

/-- A number is recognised by its first byte. -/
theorem skipScalar_number {number : List UInt8} (isNumber : NumberText number)
    (same : number ++ rest = byte :: after) (ends : EndsNumber rest) :
    byte ≠ 0x5B ∧ byte ≠ 0x7B ∧ skipScalar byte after = .ok rest := by
  obtain ⟨first, others, rfl, begins⟩ := isNumber.begins
  obtain ⟨rfl, rfl⟩ := List.cons.inj same
  have skipped := skipNumber_written isNumber ends
  refine ⟨ne_of_begins begins _ rfl, ne_of_begins begins _ rfl, ?_⟩
  simpa [skipScalar, ne_of_begins begins 0x6E rfl,
    ne_of_begins begins 0x74 rfl, ne_of_begins begins 0x66 rfl, begins]
    using skipped

/-- No value begins with a blank, so none of its bytes is lost to blanks. -/
theorem ValueText.skipBlanks_append {value : List UInt8} (isValue : ValueText value)
    (rest : List UInt8) : skipBlanks (value ++ rest) = value ++ rest := by
  obtain ⟨first, others, rfl, solid, -⟩ := isValue.begins
  exact skipBlanks_cons solid _

/-- A number ends where its container does. -/
theorem EndsNumber.closer (container : Container) (rest : List UInt8) :
    EndsNumber (container.closer :: rest) := by
  cases container <;> exact .cons rfl

/-- The entries of a container do not look like its end. -/
theorem EntriesText.begins {entries : List UInt8} (isEntries : EntriesText container entries)
    (rest : List UInt8) :
    ∃ first others, skipBlanks (entries ++ rest) = first :: others ∧ first ≠ container.closer := by
  have key_value {key before value tail : List UInt8} (isKey : KeyText container key)
      (blank : Blanks before) (isValue : ValueText value) :
      ∃ first others, skipBlanks (key ++ (before ++ (value ++ tail))) = first :: others ∧
        first ≠ container.closer := by
    cases isKey with
    | element =>
      obtain ⟨first, others, rfl, solid, notCloser⟩ := isValue.begins
      exact ⟨first, _, skipBlanks_written blank solid _, notCloser .list⟩
    | member blankBefore =>
      rw [List.append_assoc]
      exact ⟨0x22, _, skipBlanks_written blankBefore rfl _, by decide⟩
  cases isEntries with
  | last isKey blank isValue =>
    simp only [List.append_assoc]
    exact key_value isKey blank isValue
  | more isKey blank isValue =>
    simp only [List.append_assoc]
    exact key_value isKey blank isValue

mutual

/-- By induction on the grammar. A bound of three times the length is enough, since each byte of a
value is worth three steps at most: into a value, into a container, into an entry. -/
theorem skipValueWithin_written {text rest value : List UInt8} (isValue : ValueText value)
    {bound : Nat} (enough : 3 * value.length ≤ bound) (starts : skipBlanks text = value ++ rest)
    (ends : EndsNumber rest) : skipValueWithin bound text = .ok rest := by
  cases bound with
  | zero =>
    have := isValue.length_pos
    omega
  | succ bound =>
    cases isValue with
    | nullWord =>
      rw [skipValueWithin_scalar starts (by decide) (by decide)]
      exact takeWord_eq_ok_iff.2 rfl
    | trueWord =>
      rw [skipValueWithin_scalar starts (by decide) (by decide)]
      exact takeWord_eq_ok_iff.2 rfl
    | falseWord =>
      rw [skipValueWithin_scalar starts (by decide) (by decide)]
      exact takeWord_eq_ok_iff.2 rfl
    | string isString =>
      rw [List.cons_append, List.append_assoc] at starts
      rw [skipValueWithin_scalar starts (by decide) (by decide)]
      exact skipString_written isString rest
    -- A number has no end of its own. It is the one value for which it matters what follows.
    | number isNumber =>
      obtain ⟨first, others, rfl, -⟩ := isNumber.begins
      obtain ⟨notList, notMap, skipped⟩ := skipScalar_number isNumber rfl ends
      exact (skipValueWithin_scalar starts notList notMap).trans skipped
    | empty container blank =>
      rw [List.cons_append, List.append_assoc] at starts
      rw [skipValueWithin_opener starts]
      simp only [List.length_cons, List.length_append, List.length_nil] at enough
      obtain ⟨bound, rfl⟩ := Nat.exists_eq_add_of_le' (show 1 ≤ bound by omega)
      simp [skipOpenedWithin, skipBlanks_written blank container.closer_solid]
    -- The reader looks for the closing byte before it reads entries, and entries do not begin with
    -- one.
    | filled container isEntries =>
      rw [List.cons_append, List.append_assoc] at starts
      rw [skipValueWithin_opener starts]
      simp only [List.length_cons, List.length_append, List.length_nil] at enough
      obtain ⟨bound, rfl⟩ := Nat.exists_eq_add_of_le' (show 1 ≤ bound by omega)
      obtain ⟨first, others, found, notCloser⟩ := isEntries.begins ([container.closer] ++ rest)
      simp only [skipOpenedWithin, found, beq_iff_eq, notCloser, if_false]
      apply skipEntriesWithin_written isEntries (by omega)
      rw [skipBlanks_cons (solid_of_skipBlanks found), ← found]
      rfl
termination_by bound

/-- The entries of a container, which leave one step for the container itself. By induction on the
entries, mutually with the values inside them. -/
theorem skipEntriesWithin_written {text rest entries : List UInt8} {container : Container}
    (isEntries : EntriesText container entries) {bound : Nat}
    (enough : 3 * entries.length + 1 ≤ bound)
    (starts : skipBlanks text = skipBlanks (entries ++ container.closer :: rest)) :
    skipEntriesWithin bound container text = .ok rest := by
  obtain ⟨bound, rfl⟩ := Nat.exists_eq_add_of_le' (show 1 ≤ bound by omega)
  cases isEntries with
  | last isKey blankBefore isValue blankAfter =>
    simp only [List.append_assoc] at starts
    simp only [List.length_append] at enough
    obtain ⟨beforeValue, key, atValue⟩ := skipKey_written isKey starts
    have solid := container.closer_solid
    rw [skipBlanks_append blankBefore, isValue.skipBlanks_append] at atValue
    have value : skipValueWithin bound beforeValue = _ :=
      skipValueWithin_written isValue (by omega) atValue (.blanks blankAfter (.closer container rest))
    simp only [skipEntriesWithin, key, bind, Except.bind, value,
      skipBlanks_written blankAfter solid]
    cases container <;> rfl
  | more isKey blankBefore isValue blankAfter isOthers =>
    simp only [List.append_assoc, List.cons_append] at starts
    simp only [List.length_append, List.length_cons] at enough
    obtain ⟨beforeValue, key, atValue⟩ := skipKey_written isKey starts
    rw [skipBlanks_append blankBefore, isValue.skipBlanks_append] at atValue
    have value : skipValueWithin bound beforeValue = _ :=
      skipValueWithin_written isValue (by omega) atValue (.blanks blankAfter (.cons rfl))
    simp only [skipEntriesWithin, key, bind, Except.bind, value,
      skipBlanks_written blankAfter (show isBlank 0x2C = false from rfl), beq_self_eq_true, if_true]
    exact skipEntriesWithin_written isOthers (by omega) rfl
termination_by bound

end

/-- A value of the grammar that stands behind blanks is passed over with them. -/
theorem skipValue_written {value : List UInt8} (blank : Blanks before) (isValue : ValueText value)
    (ends : EndsNumber rest) : skipValue (before ++ (value ++ rest)) = .ok rest := by
  apply skipValueWithin_written isValue _ _ ends
  · simp only [List.length_append]
    omega
  · rw [skipBlanks_append blank, isValue.skipBlanks_append]

/-! ### What is passed over is a value of the grammar -/

/-- With a bound on the steps, only values and entries of the grammar are passed over. The three
readers call each other, so the three statements are proved together, by induction on the bound. -/
structure SkipsWritten (bound : Nat) : Prop where
  value : ∀ text rest, skipValueWithin bound text = .ok rest →
    ∃ before value, Blanks before ∧ ValueText value ∧ text = before ++ (value ++ rest)
  opened : ∀ container text rest, skipOpenedWithin bound container text = .ok rest →
    ∃ inside, ValueText (container.opener :: (inside ++ [container.closer])) ∧
      text = inside ++ container.closer :: rest
  entries : ∀ container text rest, skipEntriesWithin bound container text = .ok rest →
    ∃ entries, EntriesText container entries ∧ text = entries ++ container.closer :: rest

/-- What a value is found to be when one more step is allowed. -/
theorem SkipsWritten.value_succ {bound : Nat} (written : SkipsWritten bound)
    (skipped : skipValueWithin (bound + 1) text = .ok rest) :
    ∃ before value, Blanks before ∧ ValueText value ∧ text = before ++ (value ++ rest) := by
  unfold skipValueWithin at skipped
  split at skipped
  · cases skipped
  · rename_i byte others blanks
    obtain ⟨before, blank, rfl⟩ := written_of_skipBlanks blanks
    split at skipped
    · rename_i isList
      obtain rfl := eq_of_beq isList
      obtain ⟨inside, isValue, rfl⟩ := written.opened _ _ _ skipped
      exact ⟨before, _, blank, isValue, by simp [Container.opener]⟩
    · split at skipped
      · rename_i isMap
        obtain rfl := eq_of_beq isMap
        obtain ⟨inside, isValue, rfl⟩ := written.opened _ _ _ skipped
        exact ⟨before, _, blank, isValue, by simp [Container.opener]⟩
      · obtain ⟨value, isValue, same⟩ := written_of_skipScalar skipped
        exact ⟨before, value, blank, isValue, by rw [same]⟩

/-- What a container is found to be. -/
theorem SkipsWritten.opened_succ {bound : Nat} (written : SkipsWritten bound)
    (skipped : skipOpenedWithin (bound + 1) container text = .ok rest) :
    ∃ inside, ValueText (container.opener :: (inside ++ [container.closer])) ∧
      text = inside ++ container.closer :: rest := by
  unfold skipOpenedWithin at skipped
  split at skipped
  · cases skipped
  · rename_i byte others blanks
    obtain ⟨before, blank, rfl⟩ := written_of_skipBlanks blanks
    split at skipped
    · rename_i isCloser
      obtain rfl := eq_of_beq isCloser
      cases skipped
      exact ⟨before, .empty container blank, rfl⟩
    · obtain ⟨entries, isEntries, same⟩ := written.entries _ _ _ skipped
      refine ⟨before ++ entries, .filled container (isEntries.indent blank), ?_⟩
      rw [same, List.append_assoc]

/-- What entries are found to be: one of them, and those behind a comma if there is one. -/
theorem SkipsWritten.entries_succ {bound : Nat} (written : SkipsWritten bound)
    (skipped : skipEntriesWithin (bound + 1) container text = .ok rest) :
    ∃ entries, EntriesText container entries ∧ text = entries ++ container.closer :: rest := by
  unfold skipEntriesWithin at skipped
  obtain ⟨atValue, key, behindKey⟩ := exists_of_bind_ok skipped
  obtain ⟨behind, value, behindValue⟩ := exists_of_bind_ok behindKey
  obtain ⟨key, isKey, rfl⟩ := written_of_skipKey key
  obtain ⟨before, value, blankBefore, isValue, rfl⟩ := written.value _ _ value
  split at behindValue
  · cases behindValue
  · rename_i byte others blanks
    obtain ⟨after, blankAfter, rfl⟩ := written_of_skipBlanks blanks
    split at behindValue
    · rename_i isComma
      obtain rfl := eq_of_beq isComma
      obtain ⟨entries, isEntries, rfl⟩ := written.entries _ _ _ behindValue
      exact ⟨_, .more isKey blankBefore isValue blankAfter isEntries, by simp⟩
    · split at behindValue
      · rename_i isCloser
        obtain rfl := eq_of_beq isCloser
        cases behindValue
        exact ⟨_, .last isKey blankBefore isValue blankAfter, by simp⟩
      · cases behindValue

/-- By induction on the bound, for all three at once. -/
theorem skipsWritten (bound : Nat) : SkipsWritten bound := by
  induction bound with
  | zero =>
    constructor
    case value => intro text rest skipped; cases skipped
    case opened => intro container text rest skipped; cases skipped
    case entries => intro container text rest skipped; cases skipped
  | succ bound written =>
    exact ⟨fun _ _ => written.value_succ, fun _ _ _ => written.opened_succ,
      fun _ _ _ => written.entries_succ⟩

/-- What is passed over as a value is one, with the blanks before it. -/
theorem written_of_skipValue (skipped : skipValue text = .ok rest) :
    ∃ before value, Blanks before ∧ ValueText value ∧ text = before ++ (value ++ rest) :=
  (skipsWritten _).value text rest skipped

end RecompilerAdapter.Json
