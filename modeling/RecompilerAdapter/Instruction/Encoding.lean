/-
Module: RecompilerAdapter.Instruction.Encoding
Purpose: Encoders for the instruction words that the stepping engine understands. Each yields the
  unconditional form (condition field `0xE`); `second` turns a word into its second form (condition field
  `0xF`). Operands are placed, not masked, unless the encoder says otherwise, so an operand that is too
  large for its field spills into the fields above it.
Trusted boundary: the definitions of this module
Main exports: place, second, branch, supervisorCall, cdp, mcr, mrc, mcrr, mrrc, ldc, stc
-/

namespace RecompilerAdapter.Encoding

/-- An operand moved to its field. Bits that leave the word are lost. -/
def place (operand position : UInt32) : UInt32 :=
  operand <<< position

/-- The canonical instruction that does nothing. -/
def nop : UInt32 :=
  0xE320F000

/-- A branch to itself. -/
def branchToSelf : UInt32 :=
  0xEAFFFFFE

/-- The permanently undefined instruction. -/
def permanentlyUndefined : UInt32 :=
  0xE7F000F0

/-- The second form of an instruction word. -/
def second (word : UInt32) : UInt32 :=
  (word &&& 0x0FFFFFFF) ||| 0xF0000000

/-- A branch by a number of words, counted from the address eight bytes ahead. The offset is cut to
24 bits. -/
def branch (offsetWords : Int32) : UInt32 :=
  0xEA000000 ||| (offsetWords.toUInt32 &&& 0x00FFFFFF)

/-- A supervisor call. The number is cut to 24 bits. -/
def supervisorCall (number : UInt32) : UInt32 :=
  0xEF000000 ||| (number &&& 0x00FFFFFF)

/-- An internal operation of a coprocessor. -/
def cdp (coprocessor opc1 crd crn crm opc2 : UInt32) : UInt32 :=
  0xEE000000 ||| place opc1 20 ||| place crn 16 ||| place crd 12 ||| place coprocessor 8 |||
    place opc2 5 ||| crm

/-- A transfer of one word to a coprocessor. -/
def mcr (coprocessor opc1 rt crn crm opc2 : UInt32) : UInt32 :=
  0xEE000010 ||| place opc1 21 ||| place crn 16 ||| place rt 12 ||| place coprocessor 8 |||
    place opc2 5 ||| crm

/-- A transfer of one word from a coprocessor. -/
def mrc (coprocessor opc1 rt crn crm opc2 : UInt32) : UInt32 :=
  mcr coprocessor opc1 rt crn crm opc2 ||| place 1 20

/-- A transfer of two words to a coprocessor. -/
def mcrr (coprocessor opc rt rt2 crm : UInt32) : UInt32 :=
  0xEC400000 ||| place rt2 16 ||| place rt 12 ||| place coprocessor 8 ||| place opc 4 ||| crm

/-- A transfer of two words from a coprocessor. -/
def mrrc (coprocessor opc rt rt2 crm : UInt32) : UInt32 :=
  mcrr coprocessor opc rt rt2 crm ||| place 1 20

/-- A transfer between memory and a coprocessor. The immediate is cut to eight bits. The unindexed
form leaves the base register alone and gives the immediate to the coprocessor; the other form adds
it to the base. -/
def transferWords (load : Bool) (coprocessor crd rn imm8 : UInt32) (long unindexed : Bool) :
    UInt32 :=
  0xEC800000 ||| (if unindexed then 0 else place 1 24) ||| place long.toUInt32 22 |||
    place load.toUInt32 20 ||| place rn 16 ||| place crd 12 ||| place coprocessor 8 |||
    (imm8 &&& 0xFF)

/-- A transfer from memory to a coprocessor. -/
def ldc (coprocessor crd rn imm8 : UInt32) (long unindexed : Bool) : UInt32 :=
  transferWords true coprocessor crd rn imm8 long unindexed

/-- A transfer from a coprocessor to memory. -/
def stc (coprocessor crd rn imm8 : UInt32) (long unindexed : Bool) : UInt32 :=
  transferWords false coprocessor crd rn imm8 long unindexed

end RecompilerAdapter.Encoding
