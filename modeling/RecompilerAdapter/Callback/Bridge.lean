/-
Module: RecompilerAdapter.Callback.Bridge
Purpose: Forwarding an engine's requests to the caller's callback table. Forwarding is exact: each request
  calls its own entry once, with the handle of the wrapper and the operands as they are. The handle is
  fetched first, so a request on an unbound slot reaches no entry.
Trusted boundary: the definitions of this module
Main exports: CallbackBridge.forward, CallbackBridge.fallback
-/
import RecompilerAdapter.Adapter.World

namespace RecompilerAdapter.CallbackBridge

variable {σ ν : Type}

/-- What a request yields if its entry is missing. Only the read-only query has one. -/
def withoutEntry : (request : HostRequest) → Exec σ ν request.Answer
  | .isReadOnly _ => pure false
  | .read .. => pure 0
  | .write .. => pure ()
  | .supervisorCall _ => pure ()
  | .exceptionRaised .. => pure ()
  | .addTicks _ => pure ()
  | .ticksRemaining => pure 0

/-- Forwards a request and yields its answer. -/
def forward (perform : Performer σ ν) (bridge : CallbackBridge σ ν) (request : HostRequest) :
    Exec σ ν request.Answer := do
  let entry? := bridge.table.entry? request
  Exec.emit (.calling bridge.slot request entry?.isSome)
  match entry? with
  | none => withoutEntry request
  | some entry => do
    let handle ← Exec.boundHandle bridge.slot
    Exec.emit (.requested handle request)
    let answer ← (entry handle).exec perform
    Exec.emit (.answered handle request (request.report answer))
    return answer

/-- There is no interpreter to fall back to. -/
def fallback (bridge : CallbackBridge σ ν) (pc : UInt32) (instructions : UInt64) :
    Exec σ ν Unit := do
  Exec.emit (.fallingBack bridge.slot pc instructions)
  Exec.abort (.interpreterFallback pc instructions)

end RecompilerAdapter.CallbackBridge
