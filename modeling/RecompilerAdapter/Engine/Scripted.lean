/-
Module: RecompilerAdapter.Engine.Scripted
Purpose: The scripted engine. A run takes the whole script, of which there is one for all engines,
  performs its operations in their order and records what each of them yields. Before each operation it
  looks for a halt request; if there is one it takes it and leaves the rest of the script. It has no
  quota.
Trusted boundary: the definitions of this module
Main exports: Scripted.execute, Scripted.probe, Scripted.runOperations, Scripted.run
-/
import RecompilerAdapter.Callback.Bridge
import RecompilerAdapter.Coprocessor.Bridge

namespace RecompilerAdapter.Scripted

variable {σ ν : Type}

/-- The last compile answer of an engine. -/
abbrev Last (σ ν : Type) : Type :=
  Option (Compiled (DeferredFunction σ ν))

/-- What an operation yields for a transfer answer, given what it yields for direct access. -/
def describeTransfer {F A : Type} (access : A → OperationResult) : Transfer F A → OperationResult
  | .unsupported => .unsupported
  | .callback callback => .bound callback.userArgument callback.handle
  | .access location => access location

/-- What a compile operation yields for an answer. -/
def describe {F : Type} : Compiled F → OperationResult
  | .operation none => .absent
  | .operation (some callback) => .bound callback.userArgument callback.handle
  | .oneWord answer => describeTransfer (fun location => .locations [location]) answer
  | .twoWords answer => describeTransfer (fun (low, high) => .locations [low, high]) answer

/-- The deferred operation that a compile answer holds. -/
def callback? {F : Type} : Compiled F → Option (Callback F)
  | .operation answer => answer
  | .oneWord (.callback callback) => some callback
  | .twoWords (.callback callback) => some callback
  | _ => none

/-- The locations that a compile answer grants. -/
def locations {F : Type} : Compiled F → List Location
  | .oneWord (.access location) => [location]
  | .twoWords (.access (low, high)) => [low, high]
  | _ => []

/-- What an operation yields for the answer of a request. -/
def describeAnswer : HostAnswer → OperationResult
  | .nothing => .done
  | .flag value => .flag value
  | .number value => .number (UInt64.ofNat value)

/-- Uses the last compile answer, if it is of the kind that the use needs. -/
def useAnswer (perform : Performer σ ν) (last : Last σ ν) : AnswerUse → Exec σ ν OperationResult
  | .call first second => do
    match last.bind callback? with
    | some callback => return .number (← callback.run perform first second)
    | none => return .notApplicable
  | .load => do
    match (last.map locations).getD [] with
    | [] => return .notApplicable
    | granted => return .words (← granted.mapM Exec.loadWord)
  | .store first second => do
    match (last.map locations).getD [] with
    | [] => return .notApplicable
    | granted =>
      (granted.zip [first, second]).forM fun (location, word) => Exec.storeWord location word
      return .done

/-- Performs one operation. Only a compile operation that finds a coprocessor changes the last
answer. -/
def execute (perform : Performer σ ν) (configuration : EngineConfiguration σ ν) (last : Last σ ν) :
    EngineOperation → Exec σ ν (OperationResult × Last σ ν)
  | .request request => do
    let answer ← configuration.callbacks.forward perform request
    return (describeAnswer (request.report answer), last)
  | .fallback pc instructions => do
    configuration.callbacks.fallback pc instructions
    return (.done, last)
  | .compile slot request => do
    match configuration.coprocessors[slot]?.join with
    | some bridge =>
      let compiled ← bridge.compile perform request
      return (describe compiled, some compiled)
    | none => return (.noCoprocessor, last)
  | .use use => return (← useAnswer perform last use, last)

/-- Performs operations while the engine is being constructed, when nothing can halt it. -/
def probe (perform : Performer σ ν) (configuration : EngineConfiguration σ ν) :
    Last σ ν → List EngineOperation → Exec σ ν (Last σ ν)
  | last, [] => return last
  | last, operation :: rest => do
    let (result, last) ← execute perform configuration last operation
    Exec.emit (.performed operation result)
    probe perform configuration last rest

/-- The last compile answer. -/
def lastAnswer (engine : Engine σ ν) : Last σ ν :=
  match engine.mode with
  | .scripted last => last
  | .stepping _ => none

/-- Replaces the last compile answer. -/
def setLastAnswer (last : Last σ ν) (engine : Engine σ ν) : Engine σ ν :=
  match engine.mode with
  | .scripted _ => { engine with mode := .scripted last }
  | .stepping _ => engine

/-- Performs operations until they are over or the engine is halted. -/
def runOperations (perform : Performer σ ν) (handle : Handle) :
    List EngineOperation → Exec σ ν Unit
  | [] => return ()
  | operation :: rest => do
    let engine ← Exec.engine handle
    if engine.haltRequested then
      Exec.modifyEngine handle fun engine => { engine with haltRequested := false }
    else
      let (result, last) ← execute perform engine.configuration (lastAnswer engine) operation
      Exec.modifyEngine handle (setLastAnswer last)
      Exec.emit (.performed operation result)
      runOperations perform handle rest

/-- Takes the whole script and performs it. -/
def run (perform : Performer σ ν) (handle : Handle) : Exec σ ν Unit := do
  runOperations perform handle (← Exec.takeScript)

end RecompilerAdapter.Scripted
