/-
Module: RecompilerAdapter.Proofs.OptionLists
Purpose: Which texts are accepted at all. Besides objects, the reader accepts lists of at most as many
  truth values as there are tunables, and takes them for the tunables in their order. So a text that is no
  object of the expected form is rejected exactly if it is no such list.
Trusted boundary: none
Main exports: ListText, withFlags, Acceptance, readBytes_list, list_of_readBytes
-/
import RecompilerAdapter.Proofs.OptionTexts

namespace RecompilerAdapter.Options

open Json

/-! ### The grammar -/

/-- Truth values behind one another, of which there is at least one. -/
inductive FlagsText : List Bool → List UInt8 → Prop where
  | last {flag : Bool} {before after : List UInt8} : Blanks before → Blanks after →
      FlagsText [flag] (before ++ (flagBytes flag ++ after))
  | more {flag : Bool} {flags : List Bool} {before after others : List UInt8} : Blanks before →
      Blanks after → FlagsText flags others →
      FlagsText (flag :: flags) (before ++ (flagBytes flag ++ (after ++ 0x2C :: others)))

/-- What stands between the brackets of a list of truth values. -/
inductive ElementsText : List Bool → List UInt8 → Prop where
  | none {text : List UInt8} : Blanks text → ElementsText [] text
  | some {flags : List Bool} {text : List UInt8} : FlagsText flags text → ElementsText flags text

/-- A text that is one list of truth values, surrounded by blanks only. Such texts are accepted as
well, if there are not more truth values than tunables. -/
inductive ListText : List Bool → List UInt8 → Prop where
  | brackets {flags : List Bool} {before inside after : List UInt8} : Blanks before →
      ElementsText flags inside → Blanks after →
      ListText flags (before ++ 0x5B :: (inside ++ 0x5D :: after))

/-- Tunables with some of them changed: those of the names, as far as there are values. The others
keep what they had. -/
def withFlags (options : Options) (names : List OptionName) (values : List Bool) : Options :=
  (names.zip values).foldl (fun options entry => options.set entry.1 entry.2) options

variable {text rest before after lead : List UInt8} {first flag : Bool} {flags : List Bool}
  {options result : Options} {names : List OptionName}

/-! ### Elements -/

theorem endList_closer (blank : Blanks before) (rest : List UInt8) :
    endList (before ++ 0x5D :: rest) = .ok rest := by
  rw [endList, skipBlanks_written blank rfl]
  rfl

theorem written_of_endList (ends : endList text = .ok rest) :
    ∃ before, Blanks before ∧ text = before ++ 0x5D :: rest := by
  unfold endList at ends
  split at ends
  · cases ends
  · rename_i byte others skipped
    split at ends
    · rename_i isCloser
      rw [eq_of_beq isCloser] at skipped
      cases ends
      exact written_of_skipBlanks skipped
    · split at ends
      · split at ends
        · cases ends
        · cases ends
      · cases ends

theorem nextElement_closer (blank : Blanks before) (rest : List UInt8) :
    nextElement first (before ++ 0x5D :: rest) = .ok (false, 0x5D :: rest) := by
  rw [nextElement, skipBlanks_written blank rfl]
  rfl

theorem nextElement_flag (isLead : Lead first lead) (blank : Blanks before) (flag : Bool)
    (rest : List UInt8) :
    nextElement first (lead ++ (before ++ (flagBytes flag ++ rest))) =
      .ok (true, flagBytes flag ++ rest) := by
  obtain ⟨byte, others, same, solid, notCloser⟩ := (flagBytes_isValue flag).begins
  have notCloser : byte ≠ 0x5D := notCloser .list
  rw [same, List.cons_append]
  cases isLead with
  | first =>
    rw [List.nil_append, nextElement, skipBlanks_written blank solid]
    simp [notCloser]
  | comma blankBefore =>
    rw [List.append_assoc, List.cons_append, List.nil_append, nextElement,
      skipBlanks_written blankBefore rfl]
    simp [skipBlanks_written blank solid, notCloser]

/-- What the reader has passed over on its way to the next element or to the end. -/
theorem written_of_nextElement {further : Bool}
    (found : nextElement first text = .ok (further, rest)) : ∃ before, Blanks before ∧
      ((further = false ∧ text = before ++ rest) ∨
        (further = true ∧ ∃ lead, Lead first lead ∧ text = lead ++ (before ++ rest))) := by
  unfold nextElement at found
  split at found
  · cases found
  · rename_i byte others skipped
    obtain ⟨before, blank, rfl⟩ := written_of_skipBlanks skipped
    split at found
    · cases found
      exact ⟨before, blank, .inl ⟨rfl, rfl⟩⟩
    · split at found
      -- The first element has no comma before it. Behind the comma of any other, the closing
      -- bracket must not follow.
      · rename_i isFirst
        subst isFirst
        cases found
        exact ⟨before, blank, .inr ⟨rfl, [], .first, rfl⟩⟩
      · rename_i notFirst
        obtain rfl := Bool.eq_false_iff.2 notFirst
        split at found
        · rename_i isComma
          obtain rfl := eq_of_beq isComma
          split at found
          · cases found
          · rename_i byte behind skipped
            obtain ⟨after, blankAfter, rfl⟩ := written_of_skipBlanks skipped
            split at found
            · cases found
            · cases found
              exact ⟨after, blankAfter, .inr ⟨rfl, _, .comma blank, by simp⟩⟩
        · cases found

/-- At its closing bracket a list ends, however many tunables it has not given. -/
theorem readElements_closer (blank : Blanks before) (names : List OptionName) (rest : List UInt8) :
    readElements options first names (before ++ 0x5D :: rest) = .ok (options, rest) := by
  cases names with
  | nil =>
    rw [readElements, endList_closer blank]
    rfl
  | cons name names =>
    rw [readElements, nextElement_closer blank]
    exact congrArg (Except.map fun after => (options, after)) (endList_closer .nil rest)

/-- Truth values are given to the names in their order, if there are enough names. Names that are
left over keep what they had. -/
theorem readElements_written (isLead : Lead first lead) (isFlags : FlagsText flags text)
    (enough : flags.length ≤ names.length) (rest : List UInt8) :
    readElements options first names (lead ++ (text ++ 0x5D :: rest)) =
      .ok (withFlags options names flags, rest) := by
  induction isFlags generalizing first lead options names with
  | @last flag before after blankBefore blankAfter =>
    cases names with
    | nil => cases enough
    | cons name names =>
      simp only [List.append_assoc]
      rw [readElements, nextElement_flag isLead blankBefore]
      have read := readFlag_flag .nil flag (after ++ 0x5D :: rest)
      simp only [List.nil_append] at read
      simp only [bind, Except.bind, read]
      rw [readElements_closer blankAfter]
      cases names <;> rfl
  | @more flag flags before after others blankBefore blankAfter isFlags ih =>
    cases names with
    | nil => cases enough
    | cons name names =>
      simp only [List.append_assoc, List.cons_append]
      rw [readElements, nextElement_flag isLead blankBefore]
      have read := readFlag_flag .nil flag (after ++ 0x2C :: (others ++ 0x5D :: rest))
      have onward : readElements (options.set name flag) false names _ = _ :=
        ih (.comma blankAfter) (Nat.le_of_succ_le_succ enough)
      simp only [List.nil_append] at read
      simp only [List.append_assoc, List.cons_append, List.nil_append] at onward
      simp only [bind, Except.bind, read]
      exact onward

/-- What is read as the rest of a list is its end, or further truth values and its end. By induction
on the names that are left, since the reader takes one for each element. -/
theorem written_of_readElements
    (read : readElements options first names text = .ok (result, rest)) :
    (∃ before, Blanks before ∧ text = before ++ 0x5D :: rest) ∨
      ∃ flags lead inside, Lead first lead ∧ FlagsText flags inside ∧
        flags.length ≤ names.length ∧ text = lead ++ (inside ++ 0x5D :: rest) := by
  induction names generalizing options first text with
  | nil =>
    rw [readElements] at read
    obtain ⟨after, ends, same⟩ := exists_of_map_ok read
    obtain ⟨-, rfl⟩ := Prod.mk.inj same
    exact .inl (written_of_endList ends)
  | cons name names ih =>
    rw [readElements] at read
    obtain ⟨⟨further, start⟩, found, behindFound⟩ := exists_of_bind_ok read
    obtain ⟨before, blank, ⟨rfl, rfl⟩ | ⟨rfl, lead, isLead, rfl⟩⟩ := written_of_nextElement found
    · obtain ⟨after, ends, same⟩ := exists_of_map_ok behindFound
      obtain ⟨-, rfl⟩ := Prod.mk.inj same
      obtain ⟨others, blankOthers, rfl⟩ := written_of_endList ends
      exact .inl ⟨before ++ others, blank.append blankOthers, by simp⟩
    · obtain ⟨⟨flag, behind⟩, isFlag, onward⟩ := exists_of_bind_ok behindFound
      obtain ⟨ahead, blankAhead, rfl⟩ := written_of_readFlag isFlag
      have blankBefore := blank.append blankAhead
      rcases ih onward with
        ⟨after, blankAfter, rfl⟩ | ⟨flags, comma, inside, isComma, isFlags, enough, rfl⟩
      · exact .inr ⟨[flag], lead, _, isLead, .last blankBefore blankAfter, by simp, by simp⟩
      · cases isComma with
        | comma blankAfter =>
          exact .inr ⟨flag :: flags, lead, _, isLead, .more blankBefore blankAfter isFlags,
            by simpa using enough, by simp⟩

/-! ### Whole texts -/

/-- A list of at most as many truth values as there are tunables is accepted. -/
theorem readBytes_list (isList : ListText flags text)
    (enough : flags.length ≤ OptionName.all.length) :
    readBytes text = .ok (withFlags default OptionName.all flags) := by
  obtain ⟨blankBefore, isElements, blankAfter⟩ := isList
  refine readBytes_eq_ok_iff.2 ⟨_, ?_, blankAfter⟩
  rw [readValue, skipBlanks_written blankBefore rfl]
  cases isElements with
  | none blank => exact readElements_closer blank _ _
  | some isFlags => exact readElements_written .first isFlags enough _

/-- A text that begins with a bracket is read only if it is such a list. -/
theorem list_of_readBytes (starts : skipBlanks text = 0x5B :: rest)
    (read : readBytes text = .ok options) :
    ∃ flags, ListText flags text ∧ flags.length ≤ OptionName.all.length := by
  obtain ⟨after, readsValue, blankAfter⟩ := readBytes_eq_ok_iff.1 read
  have readsElements : readElements default true OptionName.all rest = .ok (options, after) := by
    rw [readValue, starts] at readsValue
    exact readsValue
  obtain ⟨before, blankBefore, rfl⟩ := written_of_skipBlanks starts
  rcases written_of_readElements readsElements with
    ⟨blanks, blank, rfl⟩ | ⟨flags, lead, inside, isLead, isFlags, enough, rfl⟩
  · exact ⟨[], .brackets blankBefore (.none blank) blankAfter, Nat.zero_le _⟩
  · cases isLead
    exact ⟨flags, .brackets blankBefore (.some isFlags) blankAfter, enough⟩

/-- What is read begins with a brace or a bracket. -/
theorem begins_of_readBytes (read : readBytes text = .ok options) :
    ∃ byte rest, skipBlanks text = byte :: rest ∧ (byte = 0x7B ∨ byte = 0x5B) := by
  obtain ⟨after, readsValue, -⟩ := readBytes_eq_ok_iff.1 read
  unfold readValue at readsValue
  split at readsValue
  · cases readsValue
  · rename_i byte rest starts
    refine ⟨byte, rest, starts, ?_⟩
    split at readsValue
    · rename_i isList
      exact .inr (eq_of_beq isList)
    · split at readsValue
      · rename_i isMap
        exact .inl (eq_of_beq isMap)
      · cases readsValue

theorem readBytes_eq_ok_iff_texts : readBytes text = .ok options ↔
    (∃ members, ObjectText members text ∧ Acceptable members ∧ Means members options) ∨
      ∃ flags, ListText flags text ∧ flags.length ≤ OptionName.all.length ∧
        options = withFlags default OptionName.all flags := by
  constructor
  · intro read
    obtain ⟨byte, rest, starts, rfl | rfl⟩ := begins_of_readBytes read
    · obtain ⟨members, isObject⟩ := object_of_readBytes starts read
      exact .inl ⟨members, isObject, (readBytes_object isObject).1 read⟩
    · obtain ⟨flags, isList, enough⟩ := list_of_readBytes starts read
      rw [readBytes_list isList enough] at read
      exact .inr ⟨flags, isList, enough, (Except.ok.inj read).symm⟩
  · rintro (⟨members, isObject, means⟩ | ⟨flags, isList, enough, rfl⟩)
    · exact (readBytes_object isObject).2 means
    · exact readBytes_list isList enough

/-- Which texts are accepted, and which of the texts that are no object of the expected form are
rejected. -/
structure Acceptance (text : String) : Prop where
  /-- Accepted are the objects of the expected form and the short lists of truth values. -/
  accepted : ∀ options, ofJson text = .ok options ↔
    (∃ members, ObjectText members text.toUTF8.toList ∧ Acceptable members ∧
      Means members options) ∨
    ∃ flags, ListText flags text.toUTF8.toList ∧ flags.length ≤ OptionName.all.length ∧
      options = withFlags default OptionName.all flags
  /-- A text that does not begin with a brace is rejected, unless it is such a list. -/
  rejected : ¬ BeginsWith 0x7B text.toUTF8.toList →
    ((∃ fault, ofJson text = .error fault) ↔
      ∀ flags, ListText flags text.toUTF8.toList → OptionName.all.length < flags.length)

theorem ObjectText.beginsWith {members : List Member} (isObject : ObjectText members text) :
    BeginsWith 0x7B text := by
  obtain ⟨blankBefore, -, -⟩ := isObject
  exact ⟨_, _, blankBefore, rfl, rfl⟩

/-- The accepted texts are known one by one: an object's members decide, or a list's length. A text
of either kind is read from its first byte on, so no third kind is left. -/
theorem acceptance (text : String) : Acceptance text where
  accepted := by
    intro options
    rw [ofJson_eq_ok_iff, readBytes_eq_ok_iff_texts]
  rejected := by
    intro notBrace
    constructor
    · rintro ⟨fault, isFault⟩ flags isList
      rcases Nat.lt_or_ge OptionName.all.length flags.length with long | short
      · exact long
      · have read := ofJson_eq_ok_iff.2 (readBytes_list isList short)
        rw [isFault] at read
        cases read
    · intro long
      cases result : ofJson text with
      | error fault => exact ⟨fault, rfl⟩
      | ok options =>
        rcases readBytes_eq_ok_iff_texts.1 (ofJson_eq_ok_iff.1 result) with
          ⟨members, isObject, -⟩ | ⟨flags, isList, short, -⟩
        · exact absurd isObject.beginsWith notBrace
        · have := long flags isList
          omega

/-- The empty list is accepted, though it is no object. -/
theorem emptyList_accepted :
    ¬ BeginsWith 0x7B "[]".toUTF8.toList ∧ ofJson "[]" = .ok default := by
  have bytes : "[]".toUTF8.toList = [0x5B, 0x5D] := by decide +kernel
  constructor
  · rw [bytes]
    rintro ⟨blanks, rest, blank, -, same⟩
    have opens : skipBlanks [0x5B, 0x5D] = 0x7B :: rest := by
      rw [same, skipBlanks_written blank rfl]
    cases opens
  · rw [ofJson_eq_ok_iff, bytes]
    rfl

end RecompilerAdapter.Options
