/-
Module: RecompilerAdapter.Proofs.EncodedInstructions
Purpose: Encoders and the decoder agree. What an assembler wrote for a coprocessor is what the decoder
  reads, operand by operand, from the word in its plain form and from the word in its second form.
Trusted boundary: none
Main exports: Assembly, Assembly.encode, Assembly.instruction, Assembly.decode_encode,
  Instruction.decode_encode_branch
-/
import RecompilerAdapter.Proofs.WordFields

namespace RecompilerAdapter

/-! ### Words in their second form -/

namespace Instruction

variable {word : UInt32} {position width : Nat} {two : Bool}

/-- The second form of a word differs from the plain one in its condition field only, which takes
the upper four bits. So every field below is the same. -/
theorem field_second (low : position + width ≤ 28) :
    field (Encoding.second word) position width = field word position width := by
  have kept : field 0x0FFFFFFF position width = 2 ^ width - 1 := by
    apply Nat.eq_of_testBit_eq
    intro i
    show ((2 ^ 28 - 1) / 2 ^ position % 2 ^ width).testBit i = _
    rw [Nat.testBit_mod_two_pow, Nat.testBit_div_two_pow, Nat.testBit_two_pow_sub_one,
      Nat.testBit_two_pow_sub_one]
    by_cases inside : i < width
    · have : i + position < 28 := by omega
      simp [inside, this]
    · simp [inside]
  have added : field 0xF0000000 position width = 0 := by
    show 15 * 2 ^ 28 / 2 ^ position % 2 ^ width = 0
    have shift : 28 = 28 - (position + width) + width + position := by omega
    rw [shift, Nat.pow_add, Nat.pow_add, ← Nat.mul_assoc, ← Nat.mul_assoc,
      Nat.mul_div_cancel _ (Nat.two_pow_pos _), Nat.mul_mod_left]
  rw [Encoding.second, field_or, field_and, kept, added, Nat.or_zero,
    Nat.and_two_pow_sub_one_eq_mod, Nat.mod_eq_of_lt field_lt]

/-- And the condition field says that it is the second form. -/
theorem isSecond_second : (Encoding.second word >>> 28 == 0xF) = true := by
  have top : field (Encoding.second word) 28 4 = 15 := by
    rw [Encoding.second, field_or, field_and]
    simp [field]
  rw [isSecond_eq, top]
  rfl

/-- Operands that name registers are read from either form. -/
theorem register_second {start : UInt32} (low : start.toNat + 4 ≤ 28) :
    register (Encoding.second word) start = register word start := by
  have inside : start.toNat < 32 := by omega
  apply Fin.ext
  rw [val_register inside, val_register inside, field_second low]

/-- So are flags. -/
theorem bit_second {start : UInt32} (low : start.toNat + 1 ≤ 28) :
    bit (Encoding.second word) start = bit word start := by
  have inside : start.toNat < 32 := by omega
  rw [bit_eq inside, bit_eq inside, field_second low]

/-- A mask that leaves out the condition field does not tell the two forms apart. -/
theorem second_and {mask : UInt32} (low : mask.toNat < 2 ^ 28) :
    Encoding.second word &&& mask = word &&& mask := by
  rw [← UInt32.toNat_inj, UInt32.toNat_and, UInt32.toNat_and,
    ← Nat.mod_eq_of_lt (Nat.and_lt_two_pow _ low),
    ← Nat.mod_eq_of_lt (Nat.and_lt_two_pow word.toNat low), Nat.and_mod_two_pow, Nat.and_mod_two_pow]
  have same : field (Encoding.second word) 0 28 = field word 0 28 := field_second (by decide)
  simp only [field, Nat.pow_zero, Nat.div_one] at same
  rw [same]

/-- So are immediates, whose masks are those of their widths. -/
theorem second_shiftRight_and {start mask : UInt32} (isMask : mask.toNat = 2 ^ width - 1)
    (low : start.toNat + width ≤ 28) :
    (Encoding.second word >>> start) &&& mask = (word >>> start) &&& mask := by
  have inside : start.toNat < 32 := by omega
  rw [← UInt32.toNat_inj, toNat_shiftRight_and inside isMask, toNat_shiftRight_and inside isMask,
    field_second low]

/-- Only the condition field tells the two forms apart. -/
theorem coprocessor?_second :
    coprocessor? (Encoding.second word) two = coprocessor? word two := by
  have three (start : UInt32) (low : start.toNat + 3 ≤ 28) :
      (Encoding.second word >>> start) &&& 0x7 = (word >>> start) &&& 0x7 :=
    second_shiftRight_and rfl low
  have four (start : UInt32) (low : start.toNat + 4 ≤ 28) :
      (Encoding.second word >>> start) &&& 0xF = (word >>> start) &&& 0xF :=
    second_shiftRight_and rfl low
  simp (disch := decide) only [coprocessor?, internalOperation, oneWord, twoWords, transferWords,
    unindexedOption, second_and, three, four, register_second, bit_second]

/-- The decoder leaves words of the coprocessor space to the coprocessor forms. -/
theorem decode_of_coprocessor? {instruction : CoprocessorInstruction}
    (space : 12 ≤ field word 24 4 ∧ field word 24 4 ≤ 14) (isTwo : (word >>> 28 == 0xF) = two)
    (form : coprocessor? word two = some instruction) :
    decode word = .coprocessor (register word 8) instruction := by
  have notIdle : ¬ (word = Encoding.nop ∨ word = 0) := by
    rintro (rfl | rfl)
    · exact absurd space (by decide)
    · exact absurd space (by decide)
  have notMasked (number : Nat) (pattern : UInt32) (isPattern : pattern.toNat = number * 2 ^ 24)
      (outside : ¬ (12 ≤ number ∧ number ≤ 14)) : (word &&& 0x0F000000 == pattern) = false := by
    rw [beq_eq_false_iff_ne]
    intro same
    rw [(and_eq_iff 24 4 rfl isPattern).1 same] at space
    exact outside space
  rw [decode, isTwo, if_neg notIdle, notMasked 10 _ rfl (by decide), notMasked 15 _ rfl (by decide)]
  simp only [Bool.and_false, Bool.false_eq_true, if_false, form]

end Instruction

/-! ### Instructions as an assembler writes them -/

/-- A coprocessor instruction as an assembler writes it. Registers and the coprocessor's operands
are in range by their types; the immediate of a memory transfer may be any word. -/
inductive Assembly where
  | cdp (coprocessor opc1 : Fin 16) (crd crn crm : CoprocessorRegister) (opc2 : Fin 8)
  | mcr (coprocessor : Fin 16) (opc1 : Fin 8) (rt : RegisterNumber) (crn crm : CoprocessorRegister)
      (opc2 : Fin 8)
  | mrc (coprocessor : Fin 16) (opc1 : Fin 8) (rt : RegisterNumber) (crn crm : CoprocessorRegister)
      (opc2 : Fin 8)
  | mcrr (coprocessor opc : Fin 16) (rt rt2 : RegisterNumber) (crm : CoprocessorRegister)
  | mrrc (coprocessor opc : Fin 16) (rt rt2 : RegisterNumber) (crm : CoprocessorRegister)
  | ldc (coprocessor : Fin 16) (crd : CoprocessorRegister) (rn : RegisterNumber) (imm8 : UInt32)
      (long unindexed : Bool)
  | stc (coprocessor : Fin 16) (crd : CoprocessorRegister) (rn : RegisterNumber) (imm8 : UInt32)
      (long unindexed : Bool)
deriving Repr, DecidableEq

namespace Assembly

/-- The word that the encoder yields. -/
def word : Assembly → UInt32
  | cdp coprocessor opc1 crd crn crm opc2 =>
    Encoding.cdp (operand 4 coprocessor) (operand 4 opc1) (operand 4 crd) (operand 4 crn)
      (operand 4 crm) (operand 3 opc2)
  | mcr coprocessor opc1 rt crn crm opc2 =>
    Encoding.mcr (operand 4 coprocessor) (operand 3 opc1) (operand 4 rt) (operand 4 crn)
      (operand 4 crm) (operand 3 opc2)
  | mrc coprocessor opc1 rt crn crm opc2 =>
    Encoding.mrc (operand 4 coprocessor) (operand 3 opc1) (operand 4 rt) (operand 4 crn)
      (operand 4 crm) (operand 3 opc2)
  | mcrr coprocessor opc rt rt2 crm =>
    Encoding.mcrr (operand 4 coprocessor) (operand 4 opc) (operand 4 rt) (operand 4 rt2)
      (operand 4 crm)
  | mrrc coprocessor opc rt rt2 crm =>
    Encoding.mrrc (operand 4 coprocessor) (operand 4 opc) (operand 4 rt) (operand 4 rt2)
      (operand 4 crm)
  | ldc coprocessor crd rn imm8 long unindexed =>
    Encoding.ldc (operand 4 coprocessor) (operand 4 crd) (operand 4 rn) imm8 long unindexed
  | stc coprocessor crd rn imm8 long unindexed =>
    Encoding.stc (operand 4 coprocessor) (operand 4 crd) (operand 4 rn) imm8 long unindexed

/-- The word in its plain or in its second form. -/
def encode (assembly : Assembly) (second : Bool) : UInt32 :=
  if second then Encoding.second assembly.word else assembly.word

/-- The coprocessor that the instruction is for. -/
def slot : Assembly → Fin 16
  | cdp coprocessor _ _ _ _ _ | mcr coprocessor _ _ _ _ _ | mrc coprocessor _ _ _ _ _
  | mcrr coprocessor _ _ _ _ | mrrc coprocessor _ _ _ _ | ldc coprocessor _ _ _ _ _
  | stc coprocessor _ _ _ _ _ => coprocessor

/-- What an unindexed memory transfer hands to the coprocessor. All other forms address memory by
themselves, so the coprocessor gets nothing. -/
def immediate (imm8 : UInt32) (unindexed : Bool) : Option UInt8 :=
  if unindexed then some (imm8 % 256).toUInt8 else none

/-- The instruction that the assembler means. -/
def instruction (second : Bool) : Assembly → CoprocessorInstruction
  | cdp _ opc1 crd crn crm opc2 =>
    .internalOperation second (operand 4 opc1) crd crn crm (operand 3 opc2)
  | mcr _ opc1 rt crn crm opc2 =>
    .sendOneWord second (operand 3 opc1) crn crm (operand 3 opc2) rt
  | mrc _ opc1 rt crn crm opc2 =>
    .getOneWord second (operand 3 opc1) crn crm (operand 3 opc2) rt
  | mcrr _ opc rt rt2 crm => .sendTwoWords second (operand 4 opc) crm rt rt2
  | mrrc _ opc rt rt2 crm => .getTwoWords second (operand 4 opc) crm rt rt2
  | ldc _ crd rn imm8 long unindexed =>
    .loadWords second long crd (immediate imm8 unindexed) rn
  | stc _ crd rn imm8 long unindexed =>
    .storeWords second long crd (immediate imm8 unindexed) rn

/-! ### The fields of encoded words -/

/-- An operand in the lowest field needs no moving. -/
theorem place_zero (value : UInt32) : Encoding.place value 0 = value := by
  simp [Encoding.place]

/-- A flag as an operand of one bit. -/
def flag (value : Bool) : Fin (2 ^ 1) :=
  if value then 1 else 0

/-- A flag is an operand of one bit. -/
theorem place_flag (value : Bool) (start : UInt32) :
    Encoding.place value.toUInt32 start = Encoding.place (operand 1 (flag value)) start := by
  cases value <;> rfl

/-- The fields of an instruction without a core register. Each of them is computed by the rules for
joining operands, one operand after the other. -/
theorem fields_cdp (coprocessor opc1 : Fin 16) (crd crn crm : CoprocessorRegister) (opc2 : Fin 8) :
    let word := (cdp coprocessor opc1 crd crn crm opc2).word
    field word 28 4 = 14 ∧ field word 24 4 = 14 ∧ field word 20 4 = opc1 ∧ field word 16 4 = crn ∧
      field word 12 4 = crd ∧ field word 8 4 = coprocessor ∧ field word 5 3 = opc2 ∧
      field word 4 1 = 0 ∧ field word 0 4 = crm := by
  simp only [Assembly.word, Encoding.cdp]
  rw [← place_zero (operand 4 crm)]
  simp (disch := decide) only [field_or, field_place, field_place_apart]
  simp [field]

/-- The fields of an instruction that sends one word. -/
theorem fields_mcr (coprocessor : Fin 16) (opc1 : Fin 8) (rt : RegisterNumber)
    (crn crm : CoprocessorRegister) (opc2 : Fin 8) :
    let word := (mcr coprocessor opc1 rt crn crm opc2).word
    field word 28 4 = 14 ∧ field word 24 4 = 14 ∧ field word 21 3 = opc1 ∧ field word 20 1 = 0 ∧
      field word 16 4 = crn ∧ field word 12 4 = rt ∧ field word 8 4 = coprocessor ∧
      field word 5 3 = opc2 ∧ field word 4 1 = 1 ∧ field word 0 4 = crm := by
  simp only [Assembly.word, Encoding.mcr]
  rw [← place_zero (operand 4 crm)]
  simp (disch := decide) only [field_or, field_place, field_place_apart]
  simp [field]

/-- The fields of an instruction that sends two words. -/
theorem fields_mcrr (coprocessor opc : Fin 16) (rt rt2 : RegisterNumber)
    (crm : CoprocessorRegister) :
    let word := (mcrr coprocessor opc rt rt2 crm).word
    field word 28 4 = 14 ∧ field word 24 4 = 12 ∧ field word 21 7 = 98 ∧ field word 20 1 = 0 ∧
      field word 16 4 = rt2 ∧ field word 12 4 = rt ∧ field word 8 4 = coprocessor ∧
      field word 4 4 = opc ∧ field word 0 4 = crm := by
  simp only [Assembly.word, Encoding.mcrr]
  rw [← place_zero (operand 4 crm)]
  simp (disch := decide) only [field_or, field_place, field_place_apart]
  simp [field]

/-- The bit that makes an instruction one that gets words does not touch the other fields. -/
theorem field_setLoad {word : UInt32} {position width : Nat}
    (apart : 21 ≤ position ∨ position + width ≤ 20) :
    field (word ||| Encoding.place 1 20) position width = field word position width := by
  have isPlace : Encoding.place 1 20 = Encoding.place (operand 1 1) 20 := rfl
  rw [field_or, isPlace, field_place_apart 1 (by decide) (by decide) apart, Nat.or_zero]

/-- The bit itself is set, if it was clear before. -/
theorem field_setLoad_self {word : UInt32} (clear : field word 20 1 = 0) :
    field (word ||| Encoding.place 1 20) 20 1 = 1 := by
  rw [field_or, clear]
  rfl

/-- The fields of a transfer of memory words, of either direction. The immediate is the only operand
that an encoder masks. -/
theorem fields_transfer (load : Bool) (coprocessor : Fin 16) (crd : CoprocessorRegister)
    (rn : RegisterNumber) (imm8 : UInt32) (long unindexed : Bool) :
    let word := Encoding.transferWords load (operand 4 coprocessor) (operand 4 crd) (operand 4 rn)
      imm8 long unindexed
    field word 28 4 = 14 ∧ field word 25 3 = 6 ∧ field word 24 1 = flag (!unindexed) ∧
      field word 23 1 = 1 ∧ field word 22 1 = flag long ∧ field word 21 1 = 0 ∧
      field word 20 1 = flag load ∧ field word 16 4 = rn ∧ field word 12 4 = crd ∧ field word 8 4 = coprocessor ∧
      field word 0 8 = imm8.toNat % 256 := by
  have isOffset : (if unindexed then 0 else Encoding.place 1 24) =
      Encoding.place (operand 1 (flag (!unindexed))) 24 := by
    cases unindexed <;> rfl
  have isByte : imm8.toNat % 256 &&& 255 = imm8.toNat % 256 := by
    show _ &&& 2 ^ 8 - 1 = _
    rw [Nat.and_two_pow_sub_one_eq_mod, Nat.mod_mod]
  simp only [Encoding.transferWords, isOffset, place_flag]
  simp (disch := decide) only [field_or, field_and, field_place, field_place_apart]
  simp [field, isByte]

/-! ### Reading encoded words -/

section

variable {word : UInt32} {start mask : UInt32} {width : Nat}

/-- An operand is read as the register whose number is in its field. -/
theorem register_eq {value : Fin 16} (inside : start.toNat < 32)
    (isField : field word start.toNat 4 = value) : Instruction.register word start = value :=
  Fin.ext ((Instruction.val_register inside).trans isField)

/-- An operand is read as the immediate in its field. -/
theorem shiftRight_and_eq {value : Fin (2 ^ width)} (inside : start.toNat < 32)
    (isMask : mask.toNat = 2 ^ width - 1) (fits : width ≤ 32)
    (isField : field word start.toNat width = value) :
    (word >>> start) &&& mask = operand width value := by
  rw [← UInt32.toNat_inj, Instruction.toNat_shiftRight_and inside isMask, isField,
    toNat_operand fits]

/-- A flag is read as the bit in its field. -/
theorem bit_eq_flag {value : Bool} (inside : start.toNat < 32)
    (isField : field word start.toNat 1 = flag value) : Instruction.bit word start = value := by
  rw [Instruction.bit_eq inside, isField]
  cases value <;> rfl

end

/-- A plain word of the coprocessor space, with the slot and the instruction read from it. `form`
speaks of both forms at once, since the second one differs in its condition bits only. -/
structure Reads (word : UInt32) (slot : Fin 16) (instruction : Bool → CoprocessorInstruction) :
    Prop where
  plain : field word 28 4 = 14
  space : 12 ≤ field word 24 4 ∧ field word 24 4 ≤ 14
  coprocessor : field word 8 4 = slot
  form : ∀ two, Instruction.coprocessor? word two = some (instruction two)

/-- An instruction without a core register is read as it was written, in both forms. -/
theorem reads_cdp (coprocessor opc1 : Fin 16) (crd crn crm : CoprocessorRegister) (opc2 : Fin 8) :
    Reads (cdp coprocessor opc1 crd crn crm opc2).word coprocessor fun two =>
      .internalOperation two (operand 4 opc1) crd crn crm (operand 3 opc2) := by
  have fields := fields_cdp coprocessor opc1 crd crn crm opc2
  generalize (cdp coprocessor opc1 crd crn crm opc2).word = word at fields ⊢
  obtain ⟨plain, kind, first, second, target, unit, last, low, third⟩ := fields
  refine ⟨plain, by omega, unit, fun two => ?_⟩
  rw [Instruction.coprocessor?_internalOperation kind low, Instruction.internalOperation,
    shiftRight_and_eq (by decide) rfl (by decide) first, register_eq (by decide) target,
    register_eq (by decide) second, register_eq (by decide) third,
    shiftRight_and_eq (by decide) rfl (by decide) last]

/-- So is one that sends one word. -/
theorem reads_mcr (coprocessor : Fin 16) (opc1 : Fin 8) (rt : RegisterNumber)
    (crn crm : CoprocessorRegister) (opc2 : Fin 8) :
    Reads (mcr coprocessor opc1 rt crn crm opc2).word coprocessor fun two =>
      .sendOneWord two (operand 3 opc1) crn crm (operand 3 opc2) rt := by
  have fields := fields_mcr coprocessor opc1 rt crn crm opc2
  generalize (mcr coprocessor opc1 rt crn crm opc2).word = word at fields ⊢
  obtain ⟨plain, kind, first, send, second, core, unit, last, low, third⟩ := fields
  refine ⟨plain, by omega, unit, fun two => ?_⟩
  have direction : Instruction.bit word 20 = false := bit_eq_flag (by decide) send
  rw [Instruction.coprocessor?_oneWord kind low, Instruction.oneWord, direction,
    shiftRight_and_eq (by decide) rfl (by decide) first, register_eq (by decide) second,
    register_eq (by decide) third, shiftRight_and_eq (by decide) rfl (by decide) last,
    register_eq (by decide) core]
  rfl

/-- One that gets one word differs in a single bit, so its fields are known already. -/
theorem reads_mrc (coprocessor : Fin 16) (opc1 : Fin 8) (rt : RegisterNumber)
    (crn crm : CoprocessorRegister) (opc2 : Fin 8) :
    Reads (mrc coprocessor opc1 rt crn crm opc2).word coprocessor fun two =>
      .getOneWord two (operand 3 opc1) crn crm (operand 3 opc2) rt := by
  have fields := fields_mcr coprocessor opc1 rt crn crm opc2
  have isLoad : (mrc coprocessor opc1 rt crn crm opc2).word =
      (mcr coprocessor opc1 rt crn crm opc2).word ||| Encoding.place 1 20 := rfl
  rw [isLoad]
  generalize (mcr coprocessor opc1 rt crn crm opc2).word = word at fields ⊢
  obtain ⟨plain, kind, first, send, second, core, unit, last, low, third⟩ := fields
  have get := field_setLoad_self send
  rw [← field_setLoad (by decide)] at plain kind first second core unit last low third
  refine ⟨plain, by omega, unit, fun two => ?_⟩
  have direction : Instruction.bit (word ||| Encoding.place 1 20) 20 = true :=
    bit_eq_flag (by decide) get
  rw [Instruction.coprocessor?_oneWord kind low, Instruction.oneWord, direction,
    shiftRight_and_eq (by decide) rfl (by decide) first, register_eq (by decide) second,
    register_eq (by decide) third, shiftRight_and_eq (by decide) rfl (by decide) last,
    register_eq (by decide) core]
  rfl

/-- An instruction that sends two words is read as it was written. -/
theorem reads_mcrr (coprocessor opc : Fin 16) (rt rt2 : RegisterNumber)
    (crm : CoprocessorRegister) :
    Reads (mcrr coprocessor opc rt rt2 crm).word coprocessor fun two =>
      .sendTwoWords two (operand 4 opc) crm rt rt2 := by
  have fields := fields_mcrr coprocessor opc rt rt2 crm
  generalize (mcrr coprocessor opc rt rt2 crm).word = word at fields ⊢
  obtain ⟨plain, space, kind, send, high, low, unit, first, second⟩ := fields
  refine ⟨plain, by omega, unit, fun two => ?_⟩
  have direction : Instruction.bit word 20 = false := bit_eq_flag (by decide) send
  rw [Instruction.coprocessor?_twoWords kind, Instruction.twoWords, direction,
    shiftRight_and_eq (by decide) rfl (by decide) first, register_eq (by decide) second,
    register_eq (by decide) low, register_eq (by decide) high]
  rfl

/-- One that gets two words differs in the same bit. -/
theorem reads_mrrc (coprocessor opc : Fin 16) (rt rt2 : RegisterNumber)
    (crm : CoprocessorRegister) :
    Reads (mrrc coprocessor opc rt rt2 crm).word coprocessor fun two =>
      .getTwoWords two (operand 4 opc) crm rt rt2 := by
  have fields := fields_mcrr coprocessor opc rt rt2 crm
  have isLoad : (mrrc coprocessor opc rt rt2 crm).word =
      (mcrr coprocessor opc rt rt2 crm).word ||| Encoding.place 1 20 := rfl
  rw [isLoad]
  generalize (mcrr coprocessor opc rt rt2 crm).word = word at fields ⊢
  obtain ⟨plain, space, kind, send, high, low, unit, first, second⟩ := fields
  have get := field_setLoad_self send
  rw [← field_setLoad (by decide)] at plain space kind high low unit first second
  refine ⟨plain, by omega, unit, fun two => ?_⟩
  have direction : Instruction.bit (word ||| Encoding.place 1 20) 20 = true :=
    bit_eq_flag (by decide) get
  rw [Instruction.coprocessor?_twoWords kind, Instruction.twoWords, direction,
    shiftRight_and_eq (by decide) rfl (by decide) first, register_eq (by decide) second,
    register_eq (by decide) low, register_eq (by decide) high]
  rfl

/-- A transfer of memory words is read as it was written. Its pattern overlaps with that of two
words, which is tried before; the indexing bits, not all clear, tell them apart. -/
theorem reads_transfer (load : Bool) (coprocessor : Fin 16) (crd : CoprocessorRegister)
    (rn : RegisterNumber) (imm8 : UInt32) (long unindexed : Bool) :
    Reads (Encoding.transferWords load (operand 4 coprocessor) (operand 4 crd) (operand 4 rn) imm8
      long unindexed) coprocessor fun two =>
        if load then .loadWords two long crd (immediate imm8 unindexed) rn
        else .storeWords two long crd (immediate imm8 unindexed) rn := by
  have fields := fields_transfer load coprocessor crd rn imm8 long unindexed
  generalize Encoding.transferWords load (operand 4 coprocessor) (operand 4 crd) (operand 4 rn) imm8
    long unindexed = word at fields ⊢
  obtain ⟨plain, kind, indexed, up, length, writeBack, direction, base, target, unit, low⟩ := fields
  have space : 12 ≤ field word 24 4 ∧ field word 24 4 ≤ 14 := by
    simp only [field, Nat.reducePow] at kind ⊢
    omega
  -- The two-word transfers have bit 23 clear.
  have notTwoWords : field word 21 7 ≠ 98 := by
    simp only [field, Nat.reducePow] at up ⊢
    omega
  have handed : Instruction.unindexedOption word = immediate imm8 unindexed := by
    have isIndexed : Instruction.bit word 24 = !unindexed := bit_eq_flag (by decide) indexed
    have isUp : Instruction.bit word 23 = true := bit_eq_flag (by decide) up
    have noWriteBack : Instruction.bit word 21 = false := bit_eq_flag (by decide) writeBack
    have byte : word &&& 0xFF = imm8 % 256 := by
      rw [← UInt32.toNat_inj, and_mask 0 8 rfl, low, UInt32.toNat_mod, Nat.pow_zero, Nat.mul_one]
      rfl
    rw [Instruction.unindexedOption, isIndexed, isUp, noWriteBack, byte, immediate]
    cases unindexed <;> rfl
  refine ⟨plain, space, unit, fun two => ?_⟩
  have isLoad : Instruction.bit word 20 = load := bit_eq_flag (by decide) direction
  have isLong : Instruction.bit word 22 = long := bit_eq_flag (by decide) length
  rw [Instruction.coprocessor?_transferWords kind notTwoWords, Instruction.transferWords, isLoad,
    isLong, handed, register_eq (by decide) target, register_eq (by decide) base]

/-- Every encoder writes a word from which its own operands are read. -/
theorem reads_word (assembly : Assembly) :
    Reads assembly.word assembly.slot fun two => assembly.instruction two := by
  cases assembly with
  | cdp coprocessor opc1 crd crn crm opc2 => exact reads_cdp coprocessor opc1 crd crn crm opc2
  | mcr coprocessor opc1 rt crn crm opc2 => exact reads_mcr coprocessor opc1 rt crn crm opc2
  | mrc coprocessor opc1 rt crn crm opc2 => exact reads_mrc coprocessor opc1 rt crn crm opc2
  | mcrr coprocessor opc rt rt2 crm => exact reads_mcrr coprocessor opc rt rt2 crm
  | mrrc coprocessor opc rt rt2 crm => exact reads_mrrc coprocessor opc rt rt2 crm
  | ldc coprocessor crd rn imm8 long unindexed =>
    exact reads_transfer true coprocessor crd rn imm8 long unindexed
  | stc coprocessor crd rn imm8 long unindexed =>
    exact reads_transfer false coprocessor crd rn imm8 long unindexed

/-- What an assembler writes is what the decoder reads. -/
theorem decode_encode (assembly : Assembly) (second : Bool) :
    Instruction.decode (assembly.encode second) =
      .coprocessor assembly.slot (assembly.instruction second) := by
  obtain ⟨plain, space, unit, form⟩ := assembly.reads_word
  cases second with
  | false =>
    have isPlain : (assembly.word >>> 28 == 0xF) = false := by
      rw [Instruction.isSecond_eq, plain]
      rfl
    rw [encode, if_neg Bool.false_ne_true,
      Instruction.decode_of_coprocessor? space isPlain (form false), register_eq (by decide) unit]
  | true =>
    have space : 12 ≤ field (Encoding.second assembly.word) 24 4 ∧
        field (Encoding.second assembly.word) 24 4 ≤ 14 := by
      rwa [Instruction.field_second (by decide)]
    have form : Instruction.coprocessor? (Encoding.second assembly.word) true =
        some (assembly.instruction true) := by
      rw [Instruction.coprocessor?_second, form]
    rw [encode, if_pos rfl, Instruction.decode_of_coprocessor? space Instruction.isSecond_second form,
      Instruction.register_second (by decide), register_eq (by decide) unit]

end Assembly

/-! ### Supervisor calls and branches -/

namespace Instruction

variable {word : UInt32}

/-- A word of a proper class is neither of the two words that do nothing. -/
theorem not_idle (kind : field word 24 4 ≠ 3 ∧ field word 24 4 ≠ 0) :
    ¬ (word = Encoding.nop ∨ word = 0) := by
  rintro (rfl | rfl)
  · exact kind.1 (by decide)
  · exact kind.2 (by decide)

/-- Supervisor calls and branches are told by their field alone, in the plain form. -/
theorem decode_supervisorCall (plain : field word 28 4 ≠ 15) (kind : field word 24 4 = 15) :
    decode word = .supervisorCall (word &&& 0x00FFFFFF) := by
  have isPlain : (word >>> 28 == 0xF) = false := by
    rw [isSecond_eq, decide_eq_false plain]
  have masked : word &&& 0x0F000000 = 0x0F000000 := (and_eq_iff 24 4 rfl rfl).2 kind
  rw [decode, if_neg (not_idle (by omega)), isPlain, masked]
  rfl

/-- A word of the branch class in its plain form is a branch. -/
theorem decode_branch (plain : field word 28 4 ≠ 15) (kind : field word 24 4 = 10) :
    decode word = .branch (branchOffset word) := by
  have isPlain : (word >>> 28 == 0xF) = false := by
    rw [isSecond_eq, decide_eq_false plain]
  have masked : word &&& 0x0F000000 = 0x0A000000 := (and_eq_iff 24 4 rfl rfl).2 kind
  rw [decode, if_neg (not_idle (by omega)), isPlain, masked]
  rfl

/-- Words outside the coprocessor space have no coprocessor form. -/
theorem coprocessor?_outside {two : Bool} (outside : ¬ (12 ≤ field word 24 4 ∧ field word 24 4 ≤ 14)) :
    coprocessor? word two = none := by
  have notFirst : field word 24 4 ≠ 14 := by omega
  have notTwo : word &&& 0x0FE00000 ≠ 0x0C400000 := by
    intro same
    have isTwo : field word 21 7 = 98 := (and_eq_iff 21 7 rfl rfl).1 same
    simp only [field, Nat.reducePow] at outside isTwo
    omega
  have notTransfer : word &&& 0x0E000000 ≠ 0x0C000000 := by
    intro same
    have isTransfer : field word 25 3 = 6 := (and_eq_iff 25 3 rfl rfl).1 same
    simp only [field, Nat.reducePow] at outside isTransfer
    omega
  rw [coprocessor?, if_neg (not_internal notFirst rfl), if_neg (not_internal notFirst rfl),
    if_neg notTwo, if_neg notTransfer]

/-- Their second forms are no instructions. -/
theorem decode_second (kind : field word 24 4 = 10 ∨ field word 24 4 = 15) :
    decode (Encoding.second word) = .undefined := by
  have noForm : coprocessor? word true = none := coprocessor?_outside (by omega)
  have idle : ¬ (Encoding.second word = Encoding.nop ∨ Encoding.second word = 0) := by
    rw [← field_second (by decide)] at kind
    exact not_idle (by omega)
  rw [decode, if_neg idle, isSecond_second, coprocessor?_second, noForm]
  rfl

/-- The fields of a supervisor call, whose number is masked to its width. -/
theorem fields_supervisorCall (number : UInt32) :
    let word := Encoding.supervisorCall number
    field word 28 4 = 14 ∧ field word 24 4 = 15 ∧ field word 0 24 = number.toNat % 2 ^ 24 := by
  have low : number.toNat % 2 ^ 24 &&& 2 ^ 24 - 1 = number.toNat % 2 ^ 24 := by
    rw [Nat.and_two_pow_sub_one_eq_mod, Nat.mod_mod]
  simp only [Encoding.supervisorCall, field_or, field_and]
  simpa [field] using low

/-- The number of a supervisor call is what fits into 24 bits. -/
theorem decode_encode_supervisorCall (number : UInt32) :
    decode (Encoding.supervisorCall number) = .supervisorCall (number % 0x1000000) := by
  obtain ⟨plain, kind, low⟩ := fields_supervisorCall number
  have cut : Encoding.supervisorCall number &&& 0x00FFFFFF = number % 0x1000000 := by
    rw [← UInt32.toNat_inj, and_mask 0 24 rfl, low, UInt32.toNat_mod, Nat.pow_zero, Nat.mul_one]
    rfl
  rw [decode_supervisorCall (by omega) kind, cut]

/-- An integer that is kept as a word is read back up to a multiple of the words. -/
theorem toInt_ofInt (number : Int) :
    (UInt32.ofInt number).toBitVec.toInt = number.bmod (2 ^ 32) := by
  have whole : 0 ≤ number % 2 ^ 32 := by omega
  have bound : (number % 2 ^ 32).toNat < 2 ^ 32 := by omega
  have isNat : (UInt32.ofInt number).toBitVec.toNat = (number % 2 ^ 32).toNat := by
    show (UInt32.ofNat (number % 2 ^ 32).toNat).toNat = _
    rw [UInt32.toNat_ofNat', Nat.mod_eq_of_lt bound]
  rw [BitVec.toInt_eq_toNat_bmod, isNat, Int.toNat_of_nonneg whole]
  simp only [Int.bmod_def]
  omega

/-- The distance of a branch is the signed number in the low 24 bits, in words. -/
theorem branchOffset_eq :
    branchOffset word = UInt32.ofInt (4 * (field word 0 24 : Int).bmod (2 ^ 24)) := by
  have shifted : (branchOffset word).toBitVec = (word.toBitVec <<< 8).sshiftRight 6 := rfl
  have isNat : word.toBitVec.toNat = word.toNat := rfl
  have bound := word.toNat_lt
  rw [← UInt32.toBitVec_inj, shifted]
  apply BitVec.eq_of_toInt_eq
  rw [BitVec.toInt_sshiftRight, BitVec.toInt_shiftLeft, toInt_ofInt, isNat]
  simp only [field, Int.bmod_def, Nat.shiftLeft_eq, Int.shiftRight_eq_div_pow, Nat.reducePow,
    Nat.div_one]
  omega

/-- The fields of a branch, whose offset is masked to its width. -/
theorem fields_branch (offsetWords : Int32) :
    let word := Encoding.branch offsetWords
    field word 28 4 = 14 ∧ field word 24 4 = 10 ∧
      field word 0 24 = offsetWords.toUInt32.toNat % 2 ^ 24 := by
  have low (number : Nat) : number % 2 ^ 24 &&& 2 ^ 24 - 1 = number % 2 ^ 24 := by
    rw [Nat.and_two_pow_sub_one_eq_mod, Nat.mod_mod]
  simp only [Encoding.branch, field_or, field_and]
  simpa [field] using low _

/-- The distance of a branch is what fits into 24 bits with its sign. -/
theorem decode_encode_branch (offsetWords : Int32) :
    decode (Encoding.branch offsetWords) =
      .branch (UInt32.ofInt (4 * offsetWords.toInt.bmod (2 ^ 24))) := by
  obtain ⟨plain, kind, low⟩ := fields_branch offsetWords
  have isNat : (offsetWords.toUInt32.toNat : Int) = offsetWords.toInt % 2 ^ 32 := by
    show (offsetWords.toBitVec.toNat : Int) = offsetWords.toBitVec.toInt % 2 ^ 32
    rw [BitVec.toInt_eq_toNat_bmod, Int.bmod_def]
    have bound := offsetWords.toBitVec.isLt
    omega
  have same : (field (Encoding.branch offsetWords) 0 24 : Int).bmod (2 ^ 24) =
      offsetWords.toInt.bmod (2 ^ 24) := by
    simp only [low, Int.bmod_def, Int.natCast_mod, isNat]
    omega
  rw [decode_branch (by omega) kind, branchOffset_eq, same]

end Instruction

end RecompilerAdapter
