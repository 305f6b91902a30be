/-
Module: RecompilerAdapter.Proofs.OptionObjects
Purpose: Objects of tunables, as texts. An object is written as members between braces, with blanks around
  its parts; the key of a member is any string that stands for some bytes, its value any value of the
  grammar. Reading such a text goes through its members in their order, and a text that begins with a
  brace is read only if it is such a text. So what is accepted, and what it yields, depends on the members
  alone.
Trusted boundary: none
Main exports: MemberText, ObjectText, readObject_eq_ok_iff, readBytes_object, object_of_readBytes
-/
import RecompilerAdapter.Options.Text
import RecompilerAdapter.Proofs.OptionMembers

namespace RecompilerAdapter.Options

open Json

/-! ### The grammar -/

/-- A member as it is written, with the blanks around its parts. Blanks may stand before the key, on
both sides of the colon, and after the value. -/
inductive MemberText : Member → List UInt8 → Prop where
  | parts {before written key after ahead value behind : List UInt8} : Blanks before →
      StringMeaning written key → Blanks after → Blanks ahead → ValueText value → Blanks behind →
      MemberText ⟨key, value⟩
        (before ++ 0x22 :: (written ++ 0x22 :: (after ++ 0x3A :: (ahead ++ (value ++ behind)))))

/-- The members of an object as they are written, of which there is at least one. -/
inductive MembersText : List Member → List UInt8 → Prop where
  | last {member : Member} {text : List UInt8} : MemberText member text → MembersText [member] text
  | more {member : Member} {members : List Member} {text others : List UInt8} :
      MemberText member text → MembersText members others →
      MembersText (member :: members) (text ++ 0x2C :: others)

/-- What stands between the braces of an object. -/
inductive ContentText : List Member → List UInt8 → Prop where
  | none {text : List UInt8} : Blanks text → ContentText [] text
  | some {members : List Member} {text : List UInt8} : MembersText members text →
      ContentText members text

/-- A text that is one object, surrounded by blanks only. Nothing is said of the members here, so
the object may have any keys and values. -/
inductive ObjectText : List Member → List UInt8 → Prop where
  | braces {members : List Member} {before inside after : List UInt8} : Blanks before →
      ContentText members inside → Blanks after →
      ObjectText members (before ++ 0x7B :: (inside ++ 0x7D :: after))

/-- What precedes a member: nothing before the first one, a comma before any other. The reader looks
for it when it begins a member, not when it ends one. -/
inductive Lead : Bool → List UInt8 → Prop where
  | first : Lead true []
  | comma {blanks : List UInt8} : Blanks blanks → Lead false (blanks ++ [0x2C])

variable {text rest before after lead value : List UInt8} {byte : UInt8} {first flag : Bool}
  {seen collected : List (OptionName × Bool)} {member : Member} {members : List Member}

/-- Members of an object of tunables are entries of a map, whatever their keys stand for. -/
theorem MembersText.isEntries (isMembers : MembersText members text) : EntriesText .map text := by
  induction isMembers with
  | last isMember =>
    obtain ⟨blankBefore, isString, blankAfter, blankAhead, isValue, blankBehind⟩ := isMember
    have entry := EntriesText.last (.member blankBefore isString.isString blankAfter) blankAhead
      isValue blankBehind
    simpa using entry
  | more isMember _ isOthers =>
    obtain ⟨blankBefore, isString, blankAfter, blankAhead, isValue, blankBehind⟩ := isMember
    have entry := EntriesText.more (.member blankBefore isString.isString blankAfter) blankAhead
      isValue blankBehind isOthers
    simpa using entry

/-- An object of members is a value of the grammar, surrounded by blanks only. -/
theorem ObjectText.isValue (isObject : ObjectText members text) : ∃ before value after,
    Blanks before ∧ ValueText value ∧ Blanks after ∧ text = before ++ (value ++ after) := by
  obtain ⟨blankBefore, isContent, blankAfter⟩ := isObject
  rename_i before inside after
  have isMap : ValueText (0x7B :: (inside ++ [0x7D])) := by
    cases isContent with
    | none blank => exact .empty .map blank
    | some isMembers => exact .filled .map isMembers.isEntries
  exact ⟨before, _, after, blankBefore, isMap, blankAfter, by simp⟩

/-! ### Flags -/

/-- A truth value is a value of the grammar. -/
theorem flagBytes_isValue (flag : Bool) : ValueText (flagBytes flag) := by
  cases flag with
  | true => exact .trueWord
  | false => exact .falseWord

/-- A value is a truth value, or begins with another letter than those two. -/
theorem flag_or_other (isValue : ValueText value) : (∃ flag, value = flagBytes flag) ∨
    ∃ first others, value = first :: others ∧ isBlank first = false ∧ first ≠ 0x74 ∧ first ≠ 0x66 := by
  cases isValue with
  | trueWord => exact .inl ⟨true, rfl⟩
  | falseWord => exact .inl ⟨false, rfl⟩
  | nullWord => exact .inr ⟨_, _, rfl, rfl, by decide, by decide⟩
  | string => exact .inr ⟨_, _, rfl, rfl, by decide, by decide⟩
  | empty container => cases container <;> exact .inr ⟨_, _, rfl, rfl, by decide, by decide⟩
  | filled container => cases container <;> exact .inr ⟨_, _, rfl, rfl, by decide, by decide⟩
  | number isNumber =>
    obtain ⟨first, others, same, begins⟩ := isNumber.begins
    exact .inr ⟨first, others, same, solid_of_begins begins, ne_of_begins begins _ rfl,
      ne_of_begins begins _ rfl⟩

/-- A truth value is read behind any blanks. -/
theorem readFlag_flag (blank : Blanks before) (flag : Bool) (rest : List UInt8) :
    readFlag (before ++ (flagBytes flag ++ rest)) = .ok (flag, rest) := by
  cases flag with
  | true =>
    rw [readFlag, flagBytes, List.cons_append, skipBlanks_written blank rfl]
    simp [takeWord_eq_ok_iff.2, Except.map]
  | false =>
    rw [readFlag, flagBytes, List.cons_append, skipBlanks_written blank rfl]
    simp [takeWord_eq_ok_iff.2, Except.map]

/-- What was read as a truth value is one. -/
theorem written_of_readFlag (read : readFlag text = .ok (flag, rest)) :
    ∃ before, Blanks before ∧ text = before ++ (flagBytes flag ++ rest) := by
  unfold readFlag at read
  split at read
  · cases read
  · rename_i byte others skipped
    obtain ⟨before, blank, rfl⟩ := written_of_skipBlanks skipped
    split at read
    · rename_i isTrue
      obtain rfl := eq_of_beq isTrue
      obtain ⟨after, taken, same⟩ := exists_of_map_ok read
      obtain ⟨rfl, rfl⟩ := Prod.mk.inj same
      exact ⟨before, blank, by rw [takeWord_eq_ok_iff.1 taken]; rfl⟩
    · split at read
      · rename_i isFalse
        obtain rfl := eq_of_beq isFalse
        obtain ⟨after, taken, same⟩ := exists_of_map_ok read
        obtain ⟨rfl, rfl⟩ := Prod.mk.inj same
        exact ⟨before, blank, by rw [takeWord_eq_ok_iff.1 taken]; rfl⟩
      · cases read

/-- A value that begins otherwise is no truth value. -/
theorem flag?_other {others : List UInt8} (notTrue : byte ≠ 0x74) (notFalse : byte ≠ 0x66) :
    flag? (byte :: others) = none := by
  rw [Option.eq_none_iff_forall_ne_some]
  intro flag found
  have same := flag?_eq_some_iff.1 found
  cases flag with
  | true => exact notTrue (List.cons.inj same).1
  | false => exact notFalse (List.cons.inj same).1

/-- Of the values of the grammar, exactly the truth values are read as such. -/
theorem readFlag_written (blank : Blanks before) (isValue : ValueText value) (rest : List UInt8) :
    (readFlag (before ++ (value ++ rest))).toOption = (flag? value).map fun flag => (flag, rest) := by
  rcases flag_or_other isValue with ⟨flag, rfl⟩ | ⟨first, others, rfl, solid, notTrue, notFalse⟩
  · rw [readFlag_flag blank, flag?_eq_some_iff.2 rfl]
    rfl
  · rw [flag?_other notTrue notFalse, readFlag, List.cons_append, skipBlanks_written blank solid]
    simp [notTrue, notFalse, Except.toOption]

/-! ### Members -/

/-- A quote leads into the next member, behind a comma if it is not the first one. -/
theorem nextMember_quote (isLead : Lead first lead) (blank : Blanks before) (rest : List UInt8) :
    nextMember first (lead ++ (before ++ 0x22 :: rest)) = .ok (true, rest) := by
  cases isLead with
  | first =>
    rw [List.nil_append, nextMember, skipBlanks_written blank rfl]
    rfl
  | comma blankBefore =>
    rw [List.append_assoc, List.cons_append, List.nil_append, nextMember,
      skipBlanks_written blankBefore rfl]
    simp [skipBlanks_written blank (show isBlank 0x22 = false from rfl)]

/-- A brace ends the object. -/
theorem nextMember_brace (blank : Blanks before) (rest : List UInt8) :
    nextMember first (before ++ 0x7D :: rest) = .ok (false, rest) := by
  rw [nextMember, skipBlanks_written blank rfl]
  rfl

/-- What the reader has passed over on its way to the next member or to the end. Only in front of
the first member there is no comma. -/
theorem written_of_nextMember {further : Bool} (found : nextMember first text = .ok (further, rest)) :
    (further = false ∧ ∃ before, Blanks before ∧ text = before ++ 0x7D :: rest) ∨
      (further = true ∧ ∃ lead before, Lead first lead ∧ Blanks before ∧
        text = lead ++ (before ++ 0x22 :: rest)) := by
  unfold nextMember at found
  split at found
  · cases found
  · rename_i byte others skipped
    obtain ⟨before, blank, rfl⟩ := written_of_skipBlanks skipped
    split at found
    · rename_i isBrace
      obtain rfl := eq_of_beq isBrace
      cases found
      exact .inl ⟨rfl, before, blank, rfl⟩
    · split at found
      · rename_i isFirst
        subst isFirst
        split at found
        · rename_i isQuote
          obtain rfl := eq_of_beq isQuote
          cases found
          exact .inr ⟨rfl, [], before, .first, blank, rfl⟩
        · cases found
      · rename_i notFirst
        obtain rfl := Bool.eq_false_iff.2 notFirst
        split at found
        · rename_i isComma
          obtain rfl := eq_of_beq isComma
          split at found
          · cases found
          · rename_i byte behind skipped
            obtain ⟨after, blankAfter, rfl⟩ := written_of_skipBlanks skipped
            split at found
            · rename_i isQuote
              obtain rfl := eq_of_beq isQuote
              cases found
              exact .inr ⟨rfl, before ++ [0x2C], after, .comma blank, blankAfter, by simp⟩
            · split at found
              · cases found
              · cases found
        · cases found

/-- Reading one member, and what is left behind its value. The blanks behind the value are left to
the next member. -/
theorem readMembers_member (isLead : Lead first lead) (isMember : MemberText member text)
    (ends : EndsNumber rest) : ∃ behind, Blanks behind ∧ ∀ bound seen,
      (readMembers (bound + 1) first seen (lead ++ (text ++ rest))).toOption =
        (accept? seen member).bind fun next =>
          (readMembers bound false next (behind ++ rest)).toOption := by
  obtain ⟨blankBefore, isString, blankAfter, blankAhead, isValue, blankBehind⟩ := isMember
  rename_i before written key after ahead value behind
  refine ⟨behind, blankBehind, fun bound seen => ?_⟩
  simp only [List.append_assoc, List.cons_append]
  have endsValue : EndsNumber (behind ++ rest) := .blanks blankBehind ends
  have colon := takeColon_written blankAfter (ahead ++ (value ++ (behind ++ rest)))
  have skipped := skipValue_written blankAhead isValue endsValue
  have read := readFlag_written blankAhead isValue (behind ++ rest)
  rw [readMembers, nextMember_quote isLead blankBefore, accept?]
  simp only [bind, Except.bind, readString_written isString]
  -- An unknown key has its value passed over; a known one is read as a truth value, unless it was
  -- seen before.
  cases named : OptionName.ofBytes? key with
  | none => simp only [colon, skipped, Option.bind_some]
  | some name =>
    dsimp only
    rw [← isSeen]
    cases isSeen seen name with
    | true => rfl
    | false =>
      simp only [Bool.false_eq_true, if_false, colon]
      cases isFlag : flag? value with
      | none =>
        rw [isFlag] at read
        cases found : readFlag (ahead ++ (value ++ (behind ++ rest))) with
        | error fault => rfl
        | ok reading =>
          rw [found] at read
          cases read
      | some flag =>
        obtain rfl := flag?_eq_some_iff.1 isFlag
        rw [readFlag_flag blankAhead]
        rfl

/-- Behind the last member the object ends. -/
theorem readMembers_brace (blank : Blanks before) (bound : Nat) (rest : List UInt8) :
    readMembers (bound + 1) first seen (before ++ 0x7D :: rest) = .ok (seen, rest) := by
  rw [readMembers, nextMember_brace blank]
  rfl

/-- The members of the grammar are collected in their order. The text does not matter any more:
whether they are accepted is decided by the members alone. -/
theorem readMembers_written (isLead : Lead first lead) (isMembers : MembersText members text)
    (seen : List (OptionName × Bool)) (rest : List UInt8) (bound : Nat)
    (enough : members.length < bound) :
    (readMembers bound first seen (lead ++ (text ++ 0x7D :: rest))).toOption =
      (collect? seen members).map fun collected => (collected, rest) := by
  induction isMembers generalizing first lead bound seen with
  | @last member text isMember =>
    obtain ⟨bound, rfl⟩ := Nat.exists_eq_add_of_le' (show 2 ≤ bound from enough)
    have ends : EndsNumber (0x7D :: rest) := .cons rfl
    obtain ⟨behind, blank, read⟩ := readMembers_member isLead isMember ends
    rw [read, collect?_cons]
    simp only [readMembers_brace blank]
    cases accept? seen member <;> rfl
  | @more member members text others isMember isOthers ih =>
    rw [List.length_cons] at enough
    obtain ⟨bound, rfl⟩ := Nat.exists_eq_add_of_le' (show 1 ≤ bound by omega)
    have ends : EndsNumber (0x2C :: (others ++ 0x7D :: rest)) := .cons rfl
    obtain ⟨behind, blank, read⟩ := readMembers_member isLead isMember ends
    rw [List.append_assoc, List.cons_append, read, collect?_cons]
    cases accept? seen member with
    | none => rfl
    | some next =>
      have onward := ih (.comma blank) next bound (by omega)
      simpa using onward

/-- What is read as the rest of an object is its end, or further members and its end. By induction
on the bound, member by member. -/
theorem written_of_readMembers {bound : Nat}
    (read : readMembers bound first seen text = .ok (collected, rest)) :
    (∃ before, Blanks before ∧ text = before ++ 0x7D :: rest) ∨
      ∃ members lead inside, Lead first lead ∧ MembersText members inside ∧
        text = lead ++ (inside ++ 0x7D :: rest) := by
  induction bound generalizing first seen text with
  | zero => cases read
  | succ bound ih =>
    rw [readMembers] at read
    obtain ⟨⟨further, opened⟩, found, afterFound⟩ := exists_of_bind_ok read
    rcases written_of_nextMember found with ⟨rfl, isEnd⟩ | ⟨rfl, lead, before, isLead, blank, rfl⟩
    · cases afterFound
      exact .inl isEnd
    · obtain ⟨⟨key, afterKey⟩, string, named⟩ := exists_of_bind_ok afterFound
      obtain ⟨written, isString, rfl⟩ := written_of_readString string
      -- Whatever the key, a value follows, and behind it the object goes on.
      have value : ∃ after ahead value behind next, Blanks after ∧ Blanks ahead ∧ ValueText value ∧
          afterKey = after ++ 0x3A :: (ahead ++ (value ++ behind)) ∧
          readMembers bound false next behind = .ok (collected, rest) := by
        dsimp only at named
        split at named
        · obtain ⟨atValue, colon, afterColon⟩ := exists_of_bind_ok named
          obtain ⟨behind, skipped, onward⟩ := exists_of_bind_ok afterColon
          obtain ⟨after, blankAfter, rfl⟩ := written_of_takeColon colon
          obtain ⟨ahead, value, blankAhead, isValue, rfl⟩ := written_of_skipValue skipped
          exact ⟨after, ahead, value, behind, _, blankAfter, blankAhead, isValue, rfl, onward⟩
        · split at named
          · cases named
          · obtain ⟨atValue, colon, afterColon⟩ := exists_of_bind_ok named
            obtain ⟨⟨flag, behind⟩, isFlag, onward⟩ := exists_of_bind_ok afterColon
            obtain ⟨after, blankAfter, rfl⟩ := written_of_takeColon colon
            obtain ⟨ahead, blankAhead, rfl⟩ := written_of_readFlag isFlag
            exact ⟨after, ahead, _, behind, _, blankAfter, blankAhead, flagBytes_isValue flag, rfl,
              onward⟩
      obtain ⟨after, ahead, value, behind, next, blankAfter, blankAhead, isValue, rfl, onward⟩ := value
      have isMember {behind : List UInt8} (blankBehind : Blanks behind) :=
        MemberText.parts blank isString blankAfter blankAhead isValue blankBehind
      rcases ih onward with ⟨blanks, blankBehind, rfl⟩ | ⟨members, lead, inside, isComma, isOthers, rfl⟩
      · exact .inr ⟨_, _, _, isLead, .last (isMember blankBehind), by simp⟩
      · cases isComma with
        | comma blankBehind =>
          exact .inr ⟨_, _, _, isLead, .more (isMember blankBehind) isOthers, by simp⟩

/-- A text has at least as many bytes as it has members, so the bound that the length gives is
enough for all of them. -/
theorem MembersText.length_le (isMembers : MembersText members text) :
    members.length ≤ text.length := by
  induction isMembers with
  | last isMember =>
    cases isMember
    simp only [List.length_append, List.length_cons, List.length_nil]
    omega
  | more isMember isOthers ih =>
    simp only [List.length_append, List.length_cons]
    omega

/-! ### Whole texts -/

/-- A reading that is looked at without its faults. -/
theorem toOption_eq_some_iff {ε α : Type} {result : Except ε α} {value : α} :
    result.toOption = some value ↔ result = .ok value := by
  cases result <;> simp [Except.toOption]

/-- Passing a result on in another form may be done before or after. -/
theorem toOption_map {ε α β : Type} (result : Except ε α) (change : α → β) :
    (result.map change).toOption = result.toOption.map change := by
  cases result <;> rfl

/-- An object whose members are written one behind the other is read as collecting them tells. -/
theorem readObject_written (isContent : ContentText members text) (rest : List UInt8) :
    (readObject (text ++ 0x7D :: rest)).toOption =
      ((collect? [] members).map ofMembers).map fun options => (options, rest) := by
  rw [readObject, toOption_map]
  cases isContent with
  | none blank =>
    rw [readMembers_brace blank]
    rfl
  | some isMembers =>
    have fewer := isMembers.length_le
    have read := readMembers_written .first isMembers [] rest ((text ++ 0x7D :: rest).length + 1) (by
      simp only [List.length_append, List.length_cons]
      omega)
    rw [List.nil_append] at read
    rw [read]
    cases collect? [] members <;> rfl

/-- An object is read if its members are acceptable, and yields their meaning. -/
theorem readObject_eq_ok_iff {options : Options} (isContent : ContentText members text) :
    readObject (text ++ 0x7D :: after) = .ok (options, rest) ↔
      (Acceptable members ∧ Means members options) ∧ after = rest := by
  rw [← toOption_eq_some_iff, readObject_written isContent, ← collect?_map_eq_some_iff,
    Option.map_eq_some_iff]
  constructor
  · rintro ⟨options, isResult, same⟩
    obtain ⟨rfl, rfl⟩ := Prod.mk.inj same
    exact ⟨isResult, rfl⟩
  · rintro ⟨isResult, rfl⟩
    exact ⟨options, isResult, rfl⟩

/-- What was read as an object is written as one. -/
theorem written_of_readObject {options : Options} (read : readObject text = .ok (options, rest)) :
    ∃ members inside, ContentText members inside ∧ text = inside ++ 0x7D :: rest := by
  obtain ⟨⟨collected, behind⟩, readsMembers, same⟩ := exists_of_map_ok read
  obtain ⟨-, rfl⟩ := Prod.mk.inj same
  rcases written_of_readMembers readsMembers with
    ⟨before, blank, rfl⟩ | ⟨members, lead, inside, isLead, isMembers, rfl⟩
  · exact ⟨[], before, .none blank, rfl⟩
  · cases isLead
    exact ⟨members, inside, .some isMembers, rfl⟩

/-- Nothing is left of blanks alone. -/
theorem skipBlanks_eq_nil_iff : skipBlanks text = [] ↔ Blanks text := by
  constructor
  · intro skipped
    obtain ⟨before, blank, rfl⟩ := written_of_skipBlanks skipped
    rwa [List.append_nil]
  · intro blank
    have skipped := skipBlanks_append blank []
    rwa [List.append_nil] at skipped

/-- Behind the tunables only blanks may stand. -/
theorem readBytes_eq_ok_iff {options : Options} :
    readBytes text = .ok options ↔ ∃ rest, readValue text = .ok (options, rest) ∧ Blanks rest := by
  constructor
  · intro read
    obtain ⟨⟨value, rest⟩, readsValue, ends⟩ := exists_of_bind_ok read
    dsimp only at ends
    split at ends
    · rename_i isEnd
      cases ends
      exact ⟨rest, readsValue, skipBlanks_eq_nil_iff.1 isEnd⟩
    · cases ends
  · rintro ⟨rest, readsValue, blank⟩
    simp only [readBytes, readsValue, bind, Except.bind, skipBlanks_eq_nil_iff.2 blank]

/-- A brace is what decides that an object is read. -/
theorem readValue_brace (starts : skipBlanks text = 0x7B :: rest) : readValue text = readObject rest := by
  rw [readValue, starts]
  rfl

/-- An object is accepted exactly if its members are, and yields their meaning. -/
theorem readBytes_object {options : Options} (isObject : ObjectText members text) :
    readBytes text = .ok options ↔ Acceptable members ∧ Means members options := by
  obtain ⟨blankBefore, isContent, blankAfter⟩ := isObject
  rw [readBytes_eq_ok_iff, readValue_brace (skipBlanks_written blankBefore rfl _)]
  constructor
  · rintro ⟨rest, read, blank⟩
    exact ((readObject_eq_ok_iff isContent).1 read).1
  · intro result
    exact ⟨_, (readObject_eq_ok_iff isContent).2 ⟨result, rfl⟩, blankAfter⟩

/-- A text that begins with a brace is read only if it is an object. -/
theorem object_of_readBytes {options : Options} (starts : skipBlanks text = 0x7B :: rest)
    (read : readBytes text = .ok options) : ∃ members, ObjectText members text := by
  obtain ⟨after, readsValue, blankAfter⟩ := readBytes_eq_ok_iff.1 read
  rw [readValue_brace starts] at readsValue
  obtain ⟨before, blankBefore, rfl⟩ := written_of_skipBlanks starts
  obtain ⟨members, inside, isContent, rfl⟩ := written_of_readObject readsValue
  exact ⟨members, .braces blankBefore isContent blankAfter⟩

end RecompilerAdapter.Options
