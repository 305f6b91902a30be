/-
Module: RecompilerAdapter.Proofs.WordFields
Purpose: The fields of instruction words as numbers. An encoder joins operands that it has moved to their
  fields; the decoder cuts fields out of the word. Cutting a field goes through joining, and an operand of
  its own width is seen only by the fields that reach into its place, so every field of an encoded word
  can be computed part by part.
Trusted boundary: none
Main exports: operand, field, field_place, field_place_apart
-/
import Mathlib.Data.Nat.Bitwise
import RecompilerAdapter.Instruction.Decoding

namespace RecompilerAdapter

/-- A number that fits into a field, as an operand. -/
def operand (width : Nat) (value : Fin (2 ^ width)) : UInt32 :=
  UInt32.ofNat value.val

/-- The number in the bits of a word from `position` on. Encoders add fields up and decoders mask
and shift, and both are about numbers in this sense. -/
def field (word : UInt32) (position width : Nat) : Nat :=
  word.toNat / 2 ^ position % 2 ^ width

variable {word first second : UInt32} {position width size : Nat}

theorem field_lt : field word position width < 2 ^ width :=
  Nat.mod_lt _ (Nat.two_pow_pos width)

/-! ### Joining and cutting -/

@[simp] theorem field_or :
    field (first ||| second) position width =
      field first position width ||| field second position width := by
  simp only [field, UInt32.toNat_or, ← Nat.shiftRight_eq_div_pow, Nat.shiftRight_or_distrib,
    Nat.or_mod_two_pow]

@[simp] theorem field_and :
    field (first &&& second) position width =
      field first position width &&& field second position width := by
  simp only [field, UInt32.toNat_and, ← Nat.shiftRight_eq_div_pow, Nat.shiftRight_and_distrib,
    Nat.and_mod_two_pow]

/-- A mask of all bits of a field keeps the field. -/
theorem and_mask {mask : UInt32} (position width : Nat)
    (isMask : mask.toNat = (2 ^ width - 1) * 2 ^ position) :
    (word &&& mask).toNat = field word position width * 2 ^ position := by
  rw [UInt32.toNat_and, isMask, field]
  apply Nat.eq_of_testBit_eq
  intro i
  rw [← Nat.shiftLeft_eq, ← Nat.shiftLeft_eq, ← Nat.shiftRight_eq_div_pow]
  simp only [Nat.testBit_and, Nat.testBit_shiftLeft, Nat.testBit_two_pow_sub_one,
    Nat.testBit_mod_two_pow, Nat.testBit_shiftRight]
  by_cases inside : position ≤ i
  · simp [inside, Bool.and_comm]
  · simp [inside]

/-! ### Operands in their places -/

theorem toNat_operand (fits : size ≤ 32) (value : Fin (2 ^ size)) :
    (operand size value).toNat = value.val := by
  rw [operand, UInt32.toNat_ofNat', Nat.mod_eq_of_lt]
  exact value.isLt.trans_le (Nat.pow_le_pow_right (by decide) fits)

/-- An operand that stays inside the word keeps its value when it is moved to its place. -/
theorem toNat_place {start : UInt32} (value : Fin (2 ^ size)) (inside : start.toNat < 32)
    (fits : start.toNat + size ≤ 32) :
    (Encoding.place (operand size value) start).toNat = value.val * 2 ^ start.toNat := by
  have kept : (operand size value).toNat = value.val := toNat_operand (by omega) value
  have bound : value.val * 2 ^ start.toNat < 2 ^ 32 :=
    calc value.val * 2 ^ start.toNat < 2 ^ size * 2 ^ start.toNat :=
          Nat.mul_lt_mul_of_pos_right value.isLt (Nat.two_pow_pos _)
      _ = 2 ^ (start.toNat + size) := by rw [← Nat.pow_add, Nat.add_comm]
      _ ≤ 2 ^ 32 := Nat.pow_le_pow_right (by decide) fits
  rw [Encoding.place, UInt32.toNat_shiftLeft, kept, Nat.mod_eq_of_lt inside, Nat.shiftLeft_eq,
    Nat.mod_eq_of_lt bound]

/-- A field that covers the place of an operand shows the operand. -/
theorem field_place {start : UInt32} (value : Fin (2 ^ size)) (inside : start.toNat < 32)
    (fits : start.toNat + size ≤ 32) (after : position ≤ start.toNat)
    (covers : start.toNat + size ≤ position + width) :
    field (Encoding.place (operand size value) start) position width =
      value.val * 2 ^ (start.toNat - position) := by
  have shift : start.toNat = start.toNat - position + position := by omega
  have bound : value.val * 2 ^ (start.toNat - position) < 2 ^ width :=
    calc value.val * 2 ^ (start.toNat - position)
        < 2 ^ size * 2 ^ (start.toNat - position) :=
          Nat.mul_lt_mul_of_pos_right value.isLt (Nat.two_pow_pos _)
      _ = 2 ^ (size + (start.toNat - position)) := (Nat.pow_add ..).symm
      _ ≤ 2 ^ width := Nat.pow_le_pow_right (by decide) (by omega)
  rw [field, toNat_place value inside fits, shift, Nat.pow_add, ← Nat.mul_assoc,
    Nat.mul_div_cancel _ (Nat.two_pow_pos _), Nat.add_sub_cancel, Nat.mod_eq_of_lt bound]

/-- A field beside the place of an operand does not show it. -/
theorem field_place_apart {start : UInt32} (value : Fin (2 ^ size)) (inside : start.toNat < 32)
    (fits : start.toNat + size ≤ 32)
    (apart : start.toNat + size ≤ position ∨ position + width ≤ start.toNat) :
    field (Encoding.place (operand size value) start) position width = 0 := by
  rw [field, toNat_place value inside fits]
  rcases apart with below | above
  · have bound : value.val * 2 ^ start.toNat < 2 ^ position :=
      calc value.val * 2 ^ start.toNat < 2 ^ size * 2 ^ start.toNat :=
            Nat.mul_lt_mul_of_pos_right value.isLt (Nat.two_pow_pos _)
        _ = 2 ^ (start.toNat + size) := by rw [← Nat.pow_add, Nat.add_comm]
        _ ≤ 2 ^ position := Nat.pow_le_pow_right (by decide) below
    rw [Nat.div_eq_of_lt bound, Nat.zero_mod]
  · have shift : start.toNat = start.toNat - (position + width) + width + position := by omega
    rw [shift, Nat.pow_add, Nat.pow_add, ← Nat.mul_assoc, ← Nat.mul_assoc,
      Nat.mul_div_cancel _ (Nat.two_pow_pos _), Nat.mul_mod_left]

/-! ### What the decoder looks at -/

namespace Instruction

theorem val_register {start : UInt32} (inside : start.toNat < 32) :
    (register word start).val = field word start.toNat 4 := by
  simp only [register, CoprocessorRegister.ofBits, Fin.val_ofNat, UInt32.toNat_shiftRight, field,
    Nat.mod_eq_of_lt inside, Nat.shiftRight_eq_div_pow]
  rfl

/-- A number read from the bits of a word. -/
theorem toNat_shiftRight_and {start mask : UInt32} (inside : start.toNat < 32)
    (isMask : mask.toNat = 2 ^ width - 1) :
    ((word >>> start) &&& mask).toNat = field word start.toNat width := by
  rw [UInt32.toNat_and, isMask, Nat.and_two_pow_sub_one_eq_mod, UInt32.toNat_shiftRight,
    Nat.mod_eq_of_lt inside, Nat.shiftRight_eq_div_pow, field]

theorem bit_eq {start : UInt32} (inside : start.toNat < 32) :
    bit word start = decide (field word start.toNat 1 ≠ 0) := by
  have single : ((word >>> start) &&& 1).toNat = field word start.toNat 1 :=
    toNat_shiftRight_and inside rfl
  rw [bit, bne, Bool.eq_iff_iff]
  simp [← UInt32.toNat_inj, single]

/-- A word has a pattern in the bits of a mask if it has it in the field that is masked. -/
theorem and_eq_iff {mask pattern : UInt32} {number : Nat} (position width : Nat)
    (isMask : mask.toNat = (2 ^ width - 1) * 2 ^ position)
    (isPattern : pattern.toNat = number * 2 ^ position) :
    word &&& mask = pattern ↔ field word position width = number := by
  rw [← UInt32.toNat_inj, and_mask position width isMask, isPattern]
  exact Nat.mul_left_inj (Nat.two_pow_pos position).ne'

theorem isSecond_eq : (word >>> 28 == 0xF) = decide (field word 28 4 = 15) := by
  have top : (word >>> 28).toNat = field word 28 4 := by
    have bound := word.toNat_lt
    rw [UInt32.toNat_shiftRight, Nat.shiftRight_eq_div_pow, field]
    simp
    omega
  rw [Bool.eq_iff_iff]
  simp [← UInt32.toNat_inj, top]

/-- The first two forms of coprocessor instructions are told by two fields at once. -/
theorem toNat_and_form :
    (word &&& 0x0F000010).toNat = 2 ^ 24 * field word 24 4 + field word 4 1 * 2 ^ 4 := by
  have low : field word 4 1 * 2 ^ 4 < 2 ^ 24 := by
    have bound : field word 4 1 < 2 ^ 1 := field_lt
    omega
  have mask : (0x0F000010 : UInt32).toNat = (0x0F000000 : UInt32).toNat ||| (0x10 : UInt32).toNat :=
    rfl
  rw [UInt32.toNat_and, mask, Nat.and_or_distrib_left, ← UInt32.toNat_and, ← UInt32.toNat_and,
    and_mask 24 4 rfl, and_mask 4 1 rfl, Nat.two_pow_add_eq_or_of_lt low, Nat.mul_comm]

variable {two : Bool}

/-- The forms are told apart by a few bits: the two with the highest class by their lowest bit above
the operand. -/
theorem coprocessor?_internalOperation (kind : field word 24 4 = 14) (low : field word 4 1 = 0) :
    coprocessor? word two = some (internalOperation word two) := by
  have form : word &&& 0x0F000010 = 0x0E000000 := by
    rw [← UInt32.toNat_inj, toNat_and_form, kind, low]
    rfl
  rw [coprocessor?, if_pos form]

theorem coprocessor?_oneWord (kind : field word 24 4 = 14) (low : field word 4 1 = 1) :
    coprocessor? word two = some (oneWord word two) := by
  have form : word &&& 0x0F000010 = 0x0E000010 := by
    rw [← UInt32.toNat_inj, toNat_and_form, kind, low]
    rfl
  rw [coprocessor?, form, if_neg (by decide), if_pos rfl]

/-- A word of another class does not match the pattern of the first two forms, which look at one
more bit. -/
theorem not_internal {pattern : UInt32} (kind : field word 24 4 ≠ 14)
    (isPattern : pattern.toNat / 2 ^ 24 = 14) : word &&& 0x0F000010 ≠ pattern := by
  intro same
  have bound : field word 4 1 < 2 ^ 1 := field_lt
  have number : (word &&& 0x0F000010).toNat = 2 ^ 24 * field word 24 4 + field word 4 1 * 2 ^ 4 :=
    toNat_and_form
  rw [same] at number
  omega

/-- The two-word transfers are tried before the memory transfers, whose pattern they are a hole
in. -/
theorem coprocessor?_twoWords (kind : field word 21 7 = 98) :
    coprocessor? word two = some (twoWords word two) := by
  have other : field word 24 4 ≠ 14 := by
    simp only [field, Nat.reducePow] at kind ⊢
    omega
  have form : word &&& 0x0FE00000 = 0x0C400000 :=
    (and_eq_iff 21 7 rfl rfl).2 kind
  rw [coprocessor?, if_neg (not_internal other rfl), if_neg (not_internal other rfl), if_pos form]

/-- So a word of that pattern is a memory transfer only outside the hole. -/
theorem coprocessor?_transferWords (kind : field word 25 3 = 6) (other : field word 21 7 ≠ 98) :
    coprocessor? word two = some (transferWords word two) := by
  have notFirst : field word 24 4 ≠ 14 := by
    simp only [field, Nat.reducePow] at kind ⊢
    omega
  have notTwo : word &&& 0x0FE00000 ≠ 0x0C400000 :=
    fun same => other ((and_eq_iff 21 7 rfl rfl).1 same)
  have form : word &&& 0x0E000000 = 0x0C000000 :=
    (and_eq_iff 25 3 rfl rfl).2 kind
  rw [coprocessor?, if_neg (not_internal notFirst rfl), if_neg (not_internal notFirst rfl),
    if_neg notTwo, if_pos form]

end Instruction

end RecompilerAdapter
