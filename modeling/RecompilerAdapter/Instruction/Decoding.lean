/-
Module: RecompilerAdapter.Instruction.Decoding
Purpose: Reading an instruction word. The forms are tried in a fixed order, because some of their bit
  patterns overlap: the two-word transfers are a hole inside the memory transfers. A branch or supervisor
  call exists in the first form only, so the same pattern with condition field `0xF` is left to the
  coprocessor forms and then undefined.
Trusted boundary: the definitions of this module
Main exports: CoprocessorInstruction, Instruction, Instruction.coprocessor?, Instruction.decode
-/
import RecompilerAdapter.Coprocessor.Request
import RecompilerAdapter.Instruction.Encoding

namespace RecompilerAdapter

/-- A core register number. -/
abbrev RegisterNumber : Type :=
  Fin 16

/-- A coprocessor instruction: what the coprocessor is asked, and the core registers involved. -/
inductive CoprocessorInstruction where
  | internalOperation (two : Bool) (opc1 : UInt32) (crd crn crm : CoprocessorRegister)
      (opc2 : UInt32)
  | sendOneWord (two : Bool) (opc1 : UInt32) (crn crm : CoprocessorRegister) (opc2 : UInt32)
      (source : RegisterNumber)
  | getOneWord (two : Bool) (opc1 : UInt32) (crn crm : CoprocessorRegister) (opc2 : UInt32)
      (target : RegisterNumber)
  | sendTwoWords (two : Bool) (opc : UInt32) (crm : CoprocessorRegister)
      (lowSource highSource : RegisterNumber)
  | getTwoWords (two : Bool) (opc : UInt32) (crm : CoprocessorRegister)
      (lowTarget highTarget : RegisterNumber)
  | loadWords (two long : Bool) (crd : CoprocessorRegister) (option : Option UInt8)
      (base : RegisterNumber)
  | storeWords (two long : Bool) (crd : CoprocessorRegister) (option : Option UInt8)
      (base : RegisterNumber)
deriving Repr, DecidableEq

/-- The request that compiling the instruction makes. -/
def CoprocessorInstruction.request : CoprocessorInstruction → CompileRequest
  | internalOperation two opc1 crd crn crm opc2 => .internalOperation two opc1 crd crn crm opc2
  | sendOneWord two opc1 crn crm opc2 _ => .sendOneWord two opc1 crn crm opc2
  | getOneWord two opc1 crn crm opc2 _ => .getOneWord two opc1 crn crm opc2
  | sendTwoWords two opc crm _ _ => .sendTwoWords two opc crm
  | getTwoWords two opc crm _ _ => .getTwoWords two opc crm
  | loadWords two long crd option _ => .loadWords two long crd option
  | storeWords two long crd option _ => .storeWords two long crd option

/-- An instruction as the stepping engine sees it. -/
inductive Instruction where
  | idle
  | branch (offset : UInt32)
  | supervisorCall (number : UInt32)
  | coprocessor (slot : Fin 16) (instruction : CoprocessorInstruction)
  | undefined
deriving Repr, DecidableEq

namespace Instruction

/-- Whether bit `position` of the word is set. -/
def bit (word : UInt32) (position : UInt32) : Bool :=
  (word >>> position) &&& 1 != 0

/-- The register number in the four bits from `position` on. -/
def register (word : UInt32) (position : UInt32) : Fin 16 :=
  CoprocessorRegister.ofBits (word >>> position)

/-- Reads the operands of an internal operation. -/
def internalOperation (word : UInt32) (two : Bool) : CoprocessorInstruction :=
  .internalOperation two ((word >>> 20) &&& 0xF) (register word 12) (register word 16)
    (register word 0) ((word >>> 5) &&& 0x7)

/-- Reads the operands of a one-word transfer; bit 20 tells its direction. -/
def oneWord (word : UInt32) (two : Bool) : CoprocessorInstruction :=
  let opc1 := (word >>> 21) &&& 0x7
  let opc2 := (word >>> 5) &&& 0x7
  if bit word 20 then
    .getOneWord two opc1 (register word 16) (register word 0) opc2 (register word 12)
  else
    .sendOneWord two opc1 (register word 16) (register word 0) opc2 (register word 12)

/-- Reads the operands of a two-word transfer; bit 20 tells its direction. -/
def twoWords (word : UInt32) (two : Bool) : CoprocessorInstruction :=
  let opc := (word >>> 4) &&& 0xF
  if bit word 20 then
    .getTwoWords two opc (register word 0) (register word 12) (register word 16)
  else
    .sendTwoWords two opc (register word 0) (register word 12) (register word 16)

/-- The immediate that an unindexed memory transfer hands to the coprocessor. The form is
unindexed if bit 24 is clear, bit 23 set and bit 21 clear. -/
def unindexedOption (word : UInt32) : Option UInt8 :=
  if !bit word 24 && bit word 23 && !bit word 21 then some (word &&& 0xFF).toUInt8 else none

/-- Reads the operands of a memory transfer; bit 20 tells its direction. -/
def transferWords (word : UInt32) (two : Bool) : CoprocessorInstruction :=
  let long := bit word 22
  if bit word 20 then
    .loadWords two long (register word 12) (unindexedOption word) (register word 16)
  else
    .storeWords two long (register word 12) (unindexedOption word) (register word 16)

/-- The coprocessor instruction that a word encodes, if it encodes one. -/
def coprocessor? (word : UInt32) (two : Bool) : Option CoprocessorInstruction :=
  if word &&& 0x0F000010 = 0x0E000000 then some (internalOperation word two)
  else if word &&& 0x0F000010 = 0x0E000010 then some (oneWord word two)
  else if word &&& 0x0FE00000 = 0x0C400000 then some (twoWords word two)
  else if word &&& 0x0E000000 = 0x0C000000 then some (transferWords word two)
  else none

/-- The distance of a branch in bytes: the low 24 bits, sign-extended and counted in words. -/
def branchOffset (word : UInt32) : UInt32 :=
  ((word <<< 8).toInt32 >>> 6).toUInt32

/-- Reads an instruction word. -/
def decode (word : UInt32) : Instruction :=
  let two := word >>> 28 == 0xF
  if word = Encoding.nop ∨ word = 0 then .idle
  else if !two && word &&& 0x0F000000 == 0x0A000000 then .branch (branchOffset word)
  else if !two && word &&& 0x0F000000 == 0x0F000000 then .supervisorCall (word &&& 0x00FFFFFF)
  else match coprocessor? word two with
    | some instruction => .coprocessor (register word 8) instruction
    | none => .undefined

end Instruction

end RecompilerAdapter
