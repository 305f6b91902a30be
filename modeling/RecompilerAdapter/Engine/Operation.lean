/-
Module: RecompilerAdapter.Engine.Operation
Purpose: The operations that a scripted engine performs, one after the other, and what each of them
  yields. A compile operation leaves its answer behind for the operations that use it.
Trusted boundary: the definitions of this module
Main exports: AnswerUse, EngineOperation, OperationResult
-/
import RecompilerAdapter.Callback.Request
import RecompilerAdapter.Coprocessor.Request
import RecompilerAdapter.Handle
import RecompilerAdapter.WordStore

namespace RecompilerAdapter

/-- A use of the last compile answer. -/
inductive AnswerUse where
  /-- Calls the deferred operation that the answer holds. -/
  | call (first second : UInt32)
  /-- Loads the words that the answer grants. -/
  | load
  /-- Stores into the words that the answer grants, the first one first. -/
  | store (first second : UInt32)
deriving Repr, DecidableEq

/-- One operation of a scripted engine. -/
inductive EngineOperation where
  /-- Asks the host. -/
  | request (request : HostRequest)
  /-- Asks for instructions to be interpreted. -/
  | fallback (pc : UInt32) (instructions : UInt64)
  /-- Asks the coprocessor in a slot. -/
  | compile (slot : Nat) (request : CompileRequest)
  /-- Uses the last compile answer. -/
  | use (use : AnswerUse)
deriving Repr, DecidableEq

/-- What an operation yields. -/
inductive OperationResult where
  | done
  | flag (value : Bool)
  | number (value : UInt64)
  | noCoprocessor
  | absent
  | unsupported
  | bound (userArgument : UInt64) (handle : Handle)
  | locations (locations : List Location)
  | words (words : List UInt32)
  | notApplicable
deriving Repr, DecidableEq

end RecompilerAdapter
