/-
Module: RecompilerAdapter.Action
Purpose: What a caller may do with a wrapper through its handle, and what it learns from it. Every action
  is there on both surfaces; they differ only in how a run that cannot start fails.
Trusted boundary: the definitions of this module
Main exports: Action, Reply, Surface, UserData, RunState
-/
import RecompilerAdapter.Engine.Operation
import RecompilerAdapter.Failure

namespace RecompilerAdapter

/-- The two surfaces on which a wrapper is used. The direct one reports a run that cannot start, the
foreign one ends everything. -/
inductive Surface where
  | direct
  | foreign
deriving Repr, DecidableEq

/-- The caller's opaque context of a wrapper: a number, or one of the caller's host objects. -/
inductive UserData where
  | word (value : UInt64)
  | object (tag : UInt64)
deriving Repr, DecidableEq

namespace UserData

/-- The developer's view of the context. -/
def inspect : UserData → String
  | word value => "0x" ++ Text.hexadecimal value.toNat
  | object tag => "host:" ++ toString tag.toNat

/-- The context as a value. -/
def text : UserData → String
  | word value => toString value.toNat
  | object tag => "host:" ++ toString tag.toNat

end UserData

/-- The life of a wrapper: never run, inside a run, or run at least once and not inside a run. -/
inductive RunState where
  | constructed
  | running
  | halted
deriving Repr, DecidableEq

/-- The name of a run state. -/
def RunState.name : RunState → String
  | constructed => "Constructed"
  | running => "Running"
  | halted => "Halted"

/-- The number of core registers. -/
abbrev registerCount : Nat :=
  16

/-- The number of extension registers. -/
abbrev extensionRegisterCount : Nat :=
  64

/-- The core registers. -/
abbrev Registers : Type :=
  Vector UInt32 registerCount

/-- The extension registers. -/
abbrev ExtensionRegisters : Type :=
  Vector UInt32 extensionRegisterCount

/-- One use of a wrapper. A run may bring a new script, which the next run of a scripted engine
takes. An action carries data only, and what a wrapper is built from holds callbacks; so what a
caller builds or deletes inside a callback is arranged beforehand, and the action names its
number. -/
inductive Action where
  | run (script : Option (List EngineOperation))
  | halt
  | state
  | userData
  | describe
  | registers
  | setRegister (number : Fin registerCount) (value : UInt32)
  | extensionRegisters
  | setExtensionRegister (number : Fin extensionRegisterCount) (value : UInt32)
  | programStatus
  | setProgramStatus (value : UInt32)
  | floatingPointStatus
  | setFloatingPointStatus (value : UInt32)
  /-- Builds or deletes a wrapper, as the caller has arranged it under the number. -/
  | arrange (number : Nat)
deriving Repr, DecidableEq

/-- What an action yields. -/
inductive Reply where
  | done
  | finished
  | alreadyRunning
  | state (state : RunState)
  | userData (data : UserData)
  | description (data : UserData) (state : RunState)
  | registers (registers : Registers)
  | extensionRegisters (registers : ExtensionRegisters)
  | word (value : UInt32)
  | built (handle : Handle)
  | refused (error : AdapterError)
deriving Repr, DecidableEq

namespace Reply

/-- The developer's view of a wrapper. -/
def inspectWrapper (data : UserData) (state : RunState) : String :=
  "JitWrapper \x7b user_data: " ++ data.inspect ++ ", state: " ++ state.name ++ ", .. \x7d"

/-- The registers that are not zero, with their numbers. -/
def nonZero (registers : ExtensionRegisters) : List (Nat × UInt32) :=
  registers.toList.zipIdx.filterMap fun (value, number) =>
    if value = 0 then none else some (number, value)

end Reply

end RecompilerAdapter
