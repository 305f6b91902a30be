/-
Module: RecompilerAdapter.Proofs.OptionTexts
Purpose: What a text with an object says about tunables. The text is accepted exactly if it is an object
  whose members give each tunable at most one truth value, and then each tunable is as its member states,
  or as by default. So the order of the members, blanks, escapes in keys and members of other names have
  no influence, and the compact form of what was read reads back as the same.
Trusted boundary: none
Main exports: flags, BeginsWith, ObjectMeaning, toJson_isObject
-/
import RecompilerAdapter.Proofs.OptionObjects

namespace RecompilerAdapter.Options

open Json

/-! ### Bytes of texts -/

theorem toList_loop (bytes : ByteArray) (start : Nat) (before : List UInt8) :
    ByteArray.toList.loop bytes start before = before.reverse ++ bytes.data.toList.drop start := by
  fun_induction ByteArray.toList.loop bytes start before with
  | case1 start before inside ih =>
    have inside : start < bytes.data.toList.length := inside
    have next : bytes.get! start = bytes.data.toList[start] :=
      getElem!_pos bytes.data start inside
    rw [ih, List.reverse_cons, List.append_assoc, List.singleton_append, next,
      ← List.drop_eq_getElem_cons inside]
  | case2 start before outside =>
    have outside : bytes.data.toList.length ≤ start := Nat.not_lt.1 outside
    rw [List.drop_eq_nil_of_le outside, List.append_nil]

theorem toList_eq (bytes : ByteArray) : bytes.toList = bytes.data.toList := by
  rw [ByteArray.toList, toList_loop]
  rfl

theorem bytes_append (first second : String) :
    (first ++ second).toUTF8.toList = first.toUTF8.toList ++ second.toUTF8.toList := by
  simp [toList_eq]

/-! ### The compact form -/

/-- The member of the compact form that states a tunable. -/
def memberJson (options : Options) (name : OptionName) : String :=
  "\"" ++ name.text ++ "\":" ++ flagText (options.get name)

/-- The compact form is the members of all tunables in their fixed order, joined by commas. -/
theorem toJson_eq (options : Options) :
    options.toJson = "\x7b" ++ ",".intercalate (OptionName.all.map options.memberJson) ++ "\x7d" :=
  rfl

/-- The members of the compact form. -/
def flags (options : Options) (names : List OptionName) : List Member :=
  names.map fun name => Member.flag name (options.get name)

/-- Bytes that stand for themselves. -/
theorem stringMeaning_of_plain {bytes : List UInt8} (plain : ∀ byte ∈ bytes, Plain byte) :
    StringMeaning bytes bytes := by
  induction bytes with
  | nil => exact .empty
  | cons byte bytes ih =>
    obtain ⟨isPlain, plain⟩ := List.forall_mem_cons.1 plain
    exact .more (.plain isPlain) (ih plain)

/-- No name of a tunable needs an escape, so it is written as it is meant. -/
theorem OptionName.bytes_meaning (name : OptionName) : StringMeaning name.bytes name.bytes := by
  apply stringMeaning_of_plain
  have plain : name.bytes.all fun byte =>
      !decide (byte < 0x20) && byte != 0x22 && byte != 0x5C := by
    cases name <;> decide +kernel
  intro byte isMember
  have isPlain := List.all_eq_true.1 plain byte isMember
  simp only [Bool.and_eq_true, Bool.not_eq_true', decide_eq_false_iff_not, bne_iff_ne] at isPlain
  exact ⟨isPlain.1.1, isPlain.1.2, isPlain.2⟩

theorem bytes_flagText (flag : Bool) : (flagText flag).toUTF8.toList = flagBytes flag := by
  cases flag <;> decide +kernel

theorem memberJson_isMember (options : Options) (name : OptionName) :
    MemberText (Member.flag name (options.get name)) (options.memberJson name).toUTF8.toList := by
  have quote : "\"".toUTF8.toList = [0x22] := by decide +kernel
  have colon : "\":".toUTF8.toList = [0x22, 0x3A] := by decide +kernel
  have parts := MemberText.parts .nil (OptionName.bytes_meaning name) .nil .nil
    (flagBytes_isValue (options.get name)) .nil
  rw [memberJson, bytes_append, bytes_append, bytes_append, quote, colon, bytes_flagText]
  simpa [Member.flag, OptionName.bytes] using parts

/-- By induction on the names, what is joined by commas are members. -/
theorem intercalate_isMembers (options : Options) (name : OptionName) (names : List OptionName) :
    MembersText (options.flags (name :: names))
      (",".intercalate ((name :: names).map options.memberJson)).toUTF8.toList := by
  induction names generalizing name with
  | nil => exact .last (by simpa using memberJson_isMember options name)
  | cons next names ih =>
    have comma : ",".toUTF8.toList = [0x2C] := by decide +kernel
    have others := MembersText.more (memberJson_isMember options name) (ih next)
    rw [List.map_cons, List.map_cons, String.intercalate_cons_cons, bytes_append, bytes_append,
      comma, List.append_assoc]
    exact others

/-- The compact form is an object of all tunables. -/
theorem toJson_isObject (options : Options) :
    ObjectText (options.flags OptionName.all) options.toJson.toUTF8.toList := by
  have opening : "\x7b".toUTF8.toList = [0x7B] := by decide +kernel
  have closing : "\x7d".toUTF8.toList = [0x7D] := by decide +kernel
  have braces := ObjectText.braces .nil (.some (intercalate_isMembers options
    .enableFastDispatch OptionName.all.tail)) .nil
  rw [toJson_eq, bytes_append, bytes_append, opening, closing, List.append_assoc]
  exact braces

/-- Each tunable is stated once, with a truth value. -/
theorem flags_acceptable (options : Options) : Acceptable (options.flags OptionName.all) where
  once := by
    intro name
    rw [flags, List.countP_map]
    change OptionName.all.countP (fun other => other.bytes == name.bytes) ≤ 1
    cases name <;> decide +kernel
  literal := by
    intro name member isMember isFor
    obtain ⟨other, -, rfl⟩ := List.mem_map.1 isMember
    exact ⟨_, rfl⟩

/-- And they state just the options that were written. -/
theorem flags_means (options : Options) : Means (options.flags OptionName.all) options where
  stated := by
    intro name value isMember
    obtain ⟨other, -, same⟩ := List.mem_map.1 isMember
    obtain ⟨rfl, rfl⟩ := Member.flag_inj.1 same
    rfl
  missing := by
    intro name absent
    exact absurd rfl (absent _ (List.mem_map.2 ⟨name, name.mem_all, rfl⟩))

/-! ### Texts -/

/-- Texts are read as their bytes. -/
theorem ofJson_eq_ok_iff {text : String} {options : Options} :
    ofJson text = .ok options ↔ readBytes text.toUTF8.toList = .ok options := by
  rw [ofJson, ofBytes]
  cases readBytes text.toUTF8.toList with
  | error fault =>
    show (Except.error _ : Except OptionsFault Options) = _ ↔ _
    simp
  | ok value =>
    show (Except.ok value : Except OptionsFault Options) = _ ↔ _
    simp

/-- So what was written is read back as the same options. -/
theorem ofJson_toJson (options : Options) : ofJson options.toJson = .ok options :=
  ofJson_eq_ok_iff.2 ((readBytes_object options.toJson_isObject).2
    ⟨options.flags_acceptable, options.flags_means⟩)

/-- Whether the byte is the first of a text that is no blank. A text of blanks alone begins with no
byte. -/
def BeginsWith (byte : UInt8) (text : List UInt8) : Prop :=
  ∃ blanks rest, Blanks blanks ∧ isBlank byte = false ∧ text = blanks ++ byte :: rest

/-- What a text with an object says. -/
structure ObjectMeaning (text : String) : Prop where
  /-- A text that begins with a brace is accepted exactly if it is an object, and only blanks, with
  members that are acceptable. -/
  accepted : BeginsWith 0x7B text.toUTF8.toList →
    ((∃ options, ofJson text = .ok options) ↔
      ∃ members, ObjectText members text.toUTF8.toList ∧ Acceptable members)
  /-- An object is one well-formed value of the grammar, and only blanks. -/
  wellFormed : ∀ members, ObjectText members text.toUTF8.toList → ∃ before value after,
    Blanks before ∧ ValueText value ∧ Blanks after ∧
      text.toUTF8.toList = before ++ (value ++ after)
  /-- If it is accepted, each tunable is as its member states, or as by default. -/
  meant : ∀ members, ObjectText members text.toUTF8.toList →
    ∀ options, ofJson text = .ok options ↔ Acceptable members ∧ Means members options
  /-- Only the members for tunables count, in any order and however they are written. -/
  determined : ∀ (other : String) (members others : List Member),
    ObjectText members text.toUTF8.toList → ObjectText others other.toUTF8.toList →
    (members.filter Member.isNamed).Perm (others.filter Member.isNamed) →
    ∀ options, ofJson text = .ok options ↔ ofJson other = .ok options
  /-- The compact form of what was read reads back as the same. -/
  stable : ∀ options, ofJson text = .ok options → ofJson options.toJson = .ok options

/-- Acceptance and meaning of a text with an object, from the two directions of the reader and the
meaning of members. -/
theorem objectMeaning (text : String) : ObjectMeaning text where
  accepted := by
    rintro ⟨blanks, rest, blank, solid, starts⟩
    constructor
    · rintro ⟨options, read⟩
      have readsBytes := ofJson_eq_ok_iff.1 read
      -- Since the first byte that is no blank is a brace, the reader reads an object and no list.
      have opens : skipBlanks text.toUTF8.toList = 0x7B :: rest := by
        rw [starts, skipBlanks_written blank solid]
      obtain ⟨members, isObject⟩ := object_of_readBytes opens readsBytes
      exact ⟨members, isObject, ((readBytes_object isObject).1 readsBytes).1⟩
    · rintro ⟨members, isObject, acceptable⟩
      obtain ⟨options, means⟩ := acceptable.exists_means
      exact ⟨options, ofJson_eq_ok_iff.2 ((readBytes_object isObject).2 ⟨acceptable, means⟩)⟩
  wellFormed := by
    intro members isObject
    exact isObject.isValue
  meant := by
    intro members isObject options
    rw [ofJson_eq_ok_iff, readBytes_object isObject]
  determined := by
    intro other members others isObject isOther rearranged options
    rw [ofJson_eq_ok_iff, ofJson_eq_ok_iff, readBytes_object isObject, readBytes_object isOther]
    constructor
    · rintro ⟨acceptable, means⟩
      exact ⟨acceptable.permuted rearranged, means.permuted rearranged⟩
    · rintro ⟨acceptable, means⟩
      exact ⟨acceptable.permuted rearranged.symm, means.permuted rearranged.symm⟩
  stable := by
    intro options _
    exact ofJson_toJson options

end RecompilerAdapter.Options
