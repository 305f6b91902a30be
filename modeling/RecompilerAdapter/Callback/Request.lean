/-
Module: RecompilerAdapter.Callback.Request
Purpose: What an engine asks its host while it executes: memory accesses, traps and tick accounting. Each
  request has its own type of answer.
Trusted boundary: the definitions of this module
Main exports: ExceptionKind, HostRequest, HostRequest.Answer, HostRequest.report
-/
import RecompilerAdapter.Word.Width

namespace RecompilerAdapter

/-- The conditions that an engine reports. -/
inductive ExceptionKind where
  | undefinedInstruction
  | unpredictableInstruction
  | decodeError
  | sendEvent
  | sendEventLocal
  | waitForInterrupt
  | waitForEvent
  | yield
  | breakpoint
  | preloadData
  | preloadDataWithIntentToWrite
  | preloadInstruction
  | noExecuteFault
deriving Repr, DecidableEq

namespace ExceptionKind

/-- All conditions in the order of their codes. -/
def all : List ExceptionKind :=
  [undefinedInstruction, unpredictableInstruction, decodeError, sendEvent, sendEventLocal,
    waitForInterrupt, waitForEvent, yield, breakpoint, preloadData, preloadDataWithIntentToWrite,
    preloadInstruction, noExecuteFault]

/-- The condition's number on the wire. -/
def code : ExceptionKind → UInt32
  | undefinedInstruction => 0
  | unpredictableInstruction => 1
  | decodeError => 2
  | sendEvent => 3
  | sendEventLocal => 4
  | waitForInterrupt => 5
  | waitForEvent => 6
  | yield => 7
  | breakpoint => 8
  | preloadData => 9
  | preloadDataWithIntentToWrite => 10
  | preloadInstruction => 11
  | noExecuteFault => 12

/-- The condition with the given number. -/
def ofCode? (code : Nat) : Option ExceptionKind :=
  all[code]?

/-- The condition's name. -/
def name : ExceptionKind → String
  | undefinedInstruction => "UndefinedInstruction"
  | unpredictableInstruction => "UnpredictableInstruction"
  | decodeError => "DecodeError"
  | sendEvent => "SendEvent"
  | sendEventLocal => "SendEventLocal"
  | waitForInterrupt => "WaitForInterrupt"
  | waitForEvent => "WaitForEvent"
  | yield => "Yield"
  | breakpoint => "Breakpoint"
  | preloadData => "PreloadData"
  | preloadDataWithIntentToWrite => "PreloadDataWithIntentToWrite"
  | preloadInstruction => "PreloadInstruction"
  | noExecuteFault => "NoExecuteFault"

end ExceptionKind

/-- A request of an engine to its host. -/
inductive HostRequest where
  | read (width : Width) (vaddr : UInt32)
  | write (width : Width) (vaddr : UInt32) (value : BitVec width.bits)
  | isReadOnly (vaddr : UInt32)
  | supervisorCall (number : UInt32)
  | exceptionRaised (pc : UInt32) (condition : ExceptionKind)
  | addTicks (ticks : UInt64)
  | ticksRemaining
deriving Repr, DecidableEq

namespace HostRequest

/-- The type of answers to a request. -/
abbrev Answer : HostRequest → Type
  | read width _ => BitVec width.bits
  | write .. => Unit
  | isReadOnly _ => Bool
  | supervisorCall _ => Unit
  | exceptionRaised .. => Unit
  | addTicks _ => Unit
  | ticksRemaining => UInt64

end HostRequest

/-- An answer without the type that depends on its request. -/
inductive HostAnswer where
  | nothing
  | flag (value : Bool)
  | number (value : Nat)
deriving Repr, DecidableEq

/-- Forgets the request that an answer belongs to. -/
def HostRequest.report : (request : HostRequest) → request.Answer → HostAnswer
  | .read .., value => .number value.toNat
  | .write .., _ => .nothing
  | .isReadOnly _, value => .flag value
  | .supervisorCall _, _ => .nothing
  | .exceptionRaised .., _ => .nothing
  | .addTicks _, _ => .nothing
  | .ticksRemaining, value => .number value.toNat

end RecompilerAdapter
