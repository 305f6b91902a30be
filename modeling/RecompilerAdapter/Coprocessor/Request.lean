/-
Module: RecompilerAdapter.Coprocessor.Request
Purpose: What an engine asks a coprocessor while it compiles: one request per instruction form, with the
  operands of the instruction.
Trusted boundary: the definitions of this module
Main exports: CoprocessorRegister, CompileKind, CompileRequest, CompileAnswer
-/
import RecompilerAdapter.WordStore

namespace RecompilerAdapter

/-- A coprocessor register operand, C0 to C15. -/
abbrev CoprocessorRegister : Type :=
  Fin 16

namespace CoprocessorRegister

/-- The register named by the low four bits of a field. -/
def ofBits (bits : UInt32) : CoprocessorRegister :=
  Fin.ofNat 16 bits.toNat

/-- The assembler name of the register. -/
def name (register : CoprocessorRegister) : String :=
  "C" ++ toString register.val

end CoprocessorRegister

/-- The seven instruction forms that a coprocessor may implement. -/
inductive CompileKind where
  | internalOperation
  | sendOneWord
  | sendTwoWords
  | getOneWord
  | getTwoWords
  | loadWords
  | storeWords
deriving Repr, DecidableEq

namespace CompileKind

/-- The assembler mnemonic of the form. -/
def mnemonic : CompileKind → String
  | internalOperation => "cdp"
  | sendOneWord => "mcr"
  | sendTwoWords => "mcrr"
  | getOneWord => "mrc"
  | getTwoWords => "mrrc"
  | loadWords => "ldc"
  | storeWords => "stc"

end CompileKind

/-- A compile request. `two` tells the unconditional second form of an instruction from the
first; `option` is there for the unindexed addressing form only. -/
inductive CompileRequest where
  | internalOperation (two : Bool) (opc1 : UInt32) (crd crn crm : CoprocessorRegister)
      (opc2 : UInt32)
  | sendOneWord (two : Bool) (opc1 : UInt32) (crn crm : CoprocessorRegister) (opc2 : UInt32)
  | sendTwoWords (two : Bool) (opc : UInt32) (crm : CoprocessorRegister)
  | getOneWord (two : Bool) (opc1 : UInt32) (crn crm : CoprocessorRegister) (opc2 : UInt32)
  | getTwoWords (two : Bool) (opc : UInt32) (crm : CoprocessorRegister)
  | loadWords (two long : Bool) (crd : CoprocessorRegister) (option : Option UInt8)
  | storeWords (two long : Bool) (crd : CoprocessorRegister) (option : Option UInt8)
deriving Repr, DecidableEq

namespace CompileRequest

/-- The instruction form that the request is for. -/
def kind : CompileRequest → CompileKind
  | internalOperation .. => .internalOperation
  | sendOneWord .. => .sendOneWord
  | sendTwoWords .. => .sendTwoWords
  | getOneWord .. => .getOneWord
  | getTwoWords .. => .getTwoWords
  | loadWords .. => .loadWords
  | storeWords .. => .storeWords

end CompileRequest

/-- An answer to a compile request without the function that it may hold. -/
inductive CompileAnswer where
  | unsupported
  | deferred (userArgument : UInt64)
  | direct (locations : List Location)
deriving Repr, DecidableEq

end RecompilerAdapter
