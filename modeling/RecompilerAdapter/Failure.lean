/-
Module: RecompilerAdapter.Failure
Purpose: The two tiers of failure. An `AdapterError` is reported to the caller, who may go on. A fatal
  condition has no recovery: it ends everything.
Trusted boundary: the definitions of this module
Main exports: EngineError, AdapterError, Fatal
-/
import RecompilerAdapter.Options.Text

namespace RecompilerAdapter

/-- An engine's reason for refusing to be constructed. -/
structure EngineError where
  reason : String
deriving Repr, DecidableEq

/-- The wording of an engine error. -/
def EngineError.message (error : EngineError) : String :=
  "engine construction failed: " ++ error.reason

/-- Failures that are reported to the caller. -/
inductive AdapterError where
  | engineConstruction (error : EngineError)
  | alreadyRunning
  | invalidCoprocessorSlot (slot : Nat)
  | invalidOptions (fault : OptionsFault)
deriving Repr, DecidableEq

namespace AdapterError

/-- The wording of a failure. -/
def message : AdapterError → String
  | engineConstruction error => error.message
  | alreadyRunning => "run() re-entered while the engine is already running"
  | invalidCoprocessorSlot slot =>
    "coprocessor slot " ++ toString slot ++ " is out of range (0-15)"
  | invalidOptions fault => "invalid engine options: " ++ fault.message

/-- The name of the failure. -/
def name : AdapterError → String
  | engineConstruction _ => "EngineConstruction"
  | alreadyRunning => "AlreadyRunning"
  | invalidCoprocessorSlot _ => "InvalidCoprocessorSlot"
  | invalidOptions _ => "InvalidOptions"

/-- The developer's view of a rejected slot number. -/
def inspectSlot (slot : Nat) : String :=
  "InvalidCoprocessorSlot(" ++ toString slot ++ ")"

end AdapterError

/-- Conditions without recovery. -/
inductive Fatal where
  | interpreterFallback (pc : UInt32) (instructions : UInt64)
  | unboundHandle
  | constructionFailed
  | reentrantRun
deriving Repr, DecidableEq

namespace Fatal

/-- The wording of a condition. -/
def message : Fatal → String
  | interpreterFallback pc instructions =>
    "interpreter fallback requested at 0x" ++ Text.paddedHexadecimal 8 pc.toNat ++ " for " ++
      toString instructions.toNat ++ " instruction(s)"
  | unboundHandle => "callback invoked before the wrapper handle was bound"
  | constructionFailed => "engine construction failed"
  | reentrantRun => "run() re-entered from a callback"

/-- The developer's view of a condition. -/
def inspect : Fatal → String
  | interpreterFallback pc instructions =>
    "InterpreterFallback \x7b pc: " ++ toString pc.toNat ++ ", num_instructions: " ++
      toString instructions.toNat ++ " \x7d"
  | unboundHandle => "UnboundHandle"
  | constructionFailed => "ConstructionFailed"
  | reentrantRun => "ReentrantRun"

end Fatal

end RecompilerAdapter
