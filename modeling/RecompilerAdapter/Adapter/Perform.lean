/-
Module: RecompilerAdapter.Adapter.Perform
Purpose: Acting on wrappers. A wrapper that is inside a run rejects another run: the direct surface
  reports it, the foreign surface ends everything. All other actions are possible at any time, also from
  inside the wrapper's own callbacks.
Trusted boundary: the definitions of this module
Main exports: Wrapper.run, Wrapper.performWith, Performer.recording, perform
-/
import RecompilerAdapter.Engine.Scripted
import RecompilerAdapter.Engine.Stepping

/-!
Running a wrapper may call the caller, who may run other wrappers, and so on. `perform` bounds the
depth of this nesting and the number of turns of a stepping engine by one number; reaching the bound
is an outcome of its own.
-/

namespace RecompilerAdapter

namespace Exec

variable {σ ν : Type}

/-- Enters a run state. -/
def setState (handle : Handle) (state : RunState) : Exec σ ν Unit :=
  modifyWrapper handle fun wrapper => { wrapper with state := state }

end Exec

namespace Wrapper

variable {σ ν : Type}

/-- Lets the engine run. -/
def runEngine (perform : Performer σ ν) (turns : Nat) (handle : Handle) : Exec σ ν Unit := do
  match (← Exec.engine handle).mode with
  | .stepping _ => Stepping.run perform handle turns
  | .scripted .. => Scripted.run perform handle

/-- Runs a wrapper until its engine stops; false, and nothing else, if it is inside a run. -/
def run (perform : Performer σ ν) (turns : Nat) (handle : Handle) : Exec σ ν Bool := do
  let wrapper ← Exec.wrapper handle
  if wrapper.state = .running then
    return false
  Exec.setState handle .running
  Exec.emit (.runEntered handle)
  Exec.emit (.log (.engineRun wrapper.userData))
  runEngine perform turns handle
  Exec.setState handle .halted
  Exec.emit (.runLeft handle)
  Exec.emit (.log (.engineReturned wrapper.userData))
  return true

/-- Replaces the script by what a run brings along. It stays until a scripted engine takes it, so a
rejected run leaves its script to the next one. -/
def schedule : Option (List EngineOperation) → Exec σ ν Unit
  | some operations => Exec.setScript operations
  | none => pure ()

/-- Carries out one action. The caller has made no arrangements. -/
def performWith (perform : Performer σ ν) (turns : Nat) : Performer σ ν
  | surface, handle, .run script => do
    schedule script
    if ← run perform turns handle then
      return .finished
    match surface with
    | .direct => return .alreadyRunning
    | .foreign => Exec.abort .reentrantRun
  | _, handle, .halt => do
    Exec.modifyEngine handle fun engine => { engine with haltRequested := true }
    return .done
  | _, handle, .state => return .state (← Exec.wrapper handle).state
  | _, handle, .userData => return .userData (← Exec.wrapper handle).userData
  | _, handle, .describe => do
    let wrapper ← Exec.wrapper handle
    return .description wrapper.userData wrapper.state
  | _, handle, .registers => return .registers (← Exec.engine handle).registers
  | _, handle, .setRegister number value => do
    Exec.modifyEngine handle fun engine => engine.withRegister number value
    return .done
  | _, handle, .extensionRegisters =>
    return .extensionRegisters (← Exec.engine handle).extensionRegisters
  | _, handle, .setExtensionRegister number value => do
    Exec.modifyEngine handle fun engine => engine.withExtensionRegister number value
    return .done
  | _, handle, .programStatus => return .word (← Exec.engine handle).programStatus
  | _, handle, .setProgramStatus value => do
    Exec.modifyEngine handle fun engine => { engine with programStatus := value }
    return .done
  | _, handle, .floatingPointStatus => return .word (← Exec.engine handle).floatingPointStatus
  | _, handle, .setFloatingPointStatus value => do
    Exec.modifyEngine handle fun engine => { engine with floatingPointStatus := value }
    return .done
  | _, _, .arrange number => throw (.unknownNumber number)

end Wrapper

/-- Records that an action begins and what it yields. -/
def Performer.recording {σ ν : Type} (perform : Performer σ ν) : Performer σ ν :=
  fun surface handle action => do
    Exec.emit (.acting surface handle action)
    let reply ← perform surface handle action
    Exec.emit (.acted surface handle action reply)
    return reply

/-- Carries out an action, with a bound on the nesting of runs and on the turns of each. -/
def perform {σ ν : Type} : (bound : Nat) → Performer σ ν
  | 0, _, _, _ => throw .outOfFuel
  | bound + 1, surface, handle, action =>
    Performer.recording
      (Wrapper.performWith (fun surface handle action => perform bound surface handle action) bound)
      surface handle action

end RecompilerAdapter
