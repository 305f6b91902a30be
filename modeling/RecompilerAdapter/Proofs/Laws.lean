/-
Module: RecompilerAdapter.Proofs.Laws
Purpose: The laws that events obey. Each law says of one event how it stands to the events before it: whom
  the handle in a call names, when a run may begin or end and what is told about it, and what ends
  everything.
Trusted boundary: none
Main exports: Identifies, Follows, Settled, Orderly, Causes, Permitted, Lawful
-/
import RecompilerAdapter.Proofs.History

namespace RecompilerAdapter

variable {ν : Type}

/-! ### Whom handles name -/

/-- A handle that reaches the caller is the one behind which the wrapper was put in place: in a
request, that of the innermost open run and of the bridge that was called right before; in a
deferred operation, that of the innermost open run and of the bridges whose coprocessors answered
last with this argument. A wrapper's context is what was put in place with it, and no handle is used
twice. -/
def Identifies (before : List (Event ν)) : Event ν → Prop
  | .requested handle request => (openRuns before).head? = some handle ∧
    ∃ bridge data, before.getLast? = some (.calling bridge request true) ∧
      Attached before bridge handle data
  | .answered handle _ _ => (openRuns before).head? = some handle ∧
    ∃ bridge data, Attached before bridge handle data
  | .invoked handle argument _ _ => (openRuns before).head? = some handle ∧
    ∃ bridge data, Attached before bridge handle data ∧
      lastAnswer bridge before = some (.deferred argument)
  | .acted _ handle .userData reply => ∃ bridge data, Attached before bridge handle data ∧
    reply = .userData data
  | .attached bridge handle _ => handle.isNull = false ∧ ¬ IsAttached before bridge ∧
    ∀ other data, ¬ Attached before other handle data
  | _ => True

/-! ### When runs begin and end -/

/-- What must come right after the last event, if that event is a part of a whole: a run that begins
is rejected or entered at once, and entering and leaving are told at once. -/
def Follows (before : List (Event ν)) (event : Event ν) : Prop :=
  match before.getLast? with
  | some (.acting surface handle (.run script)) =>
    if handle ∈ openRuns before then event = .acted surface handle (.run script) .alreadyRunning
    else event = .runEntered handle
  | some (.runEntered _) => ∃ data, event = .log (.engineRun data)
  | some (.runLeft _) => ∃ data, event = .log (.engineReturned data)
  | _ => True

/-- No event has to come next. -/
def Settled (history : List (Event ν)) : Prop :=
  ∀ event, Follows history event

/-- A run is entered only when no run of the wrapper is open, and only the innermost one is left; an
open one makes the direct surface report it, and nothing else happens. Every run state that is told
is the one after the events so far, and every line about a run tells the context of its wrapper. -/
def Orderly (before : List (Event ν)) : Event ν → Prop
  | .acted surface handle (.run script) reply =>
    (reply = .alreadyRunning ∧ surface = .direct ∧ handle ∈ openRuns before ∧
      before.getLast? = some (.acting .direct handle (.run script))) ∨
    (reply = .finished ∧ ∃ data, before.getLast? = some (.log (.engineReturned data)))
  | .acted _ handle .state reply => reply = .state (stateAfter before handle)
  | .acted _ handle .describe reply => ∃ bridge data, Attached before bridge handle data ∧
    reply = .description data (stateAfter before handle)
  | .runEntered handle => handle ∉ openRuns before ∧
    ∃ surface script, before.getLast? = some (.acting surface handle (.run script))
  | .runLeft handle => (openRuns before).head? = some handle
  | .log (.engineRun data) => ∃ bridge handle, before.getLast? = some (.runEntered handle) ∧
    Attached before bridge handle data
  | .log (.engineReturned data) => ∃ bridge handle, before.getLast? = some (.runLeft handle) ∧
    Attached before bridge handle data
  | _ => True

/-! ### What ends everything -/

/-- The event ends everything, for the reason given. -/
inductive Causes (before : List (Event ν)) : Event ν → Fatal → Prop where
  | fallback {bridge : HandleSlot} {pc : UInt32} {instructions : UInt64} :
      Causes before (.fallingBack bridge pc instructions) (.interpreterFallback pc instructions)
  /-- The engine calls an entry of the host before its constructor has returned. -/
  | call {bridge : HandleSlot} {request : HostRequest} (unattached : ¬ IsAttached before bridge) :
      Causes before (.calling bridge request true) .unboundHandle
  /-- The engine has called a compile entry before its constructor has returned. -/
  | compile {bridge : HandleSlot} {slot : Nat} {context : Context} {request : CompileRequest}
      {answer : CompileAnswer} (unattached : ¬ IsAttached before bridge) :
      Causes before (.compiled bridge slot context request answer) .unboundHandle
  | construction {error : AdapterError} :
      Causes before (.log (.constructorFailed error)) .constructionFailed
  | reentrance {handle : Handle} {script : Option (List EngineOperation)}
      (running : handle ∈ openRuns before) :
      Causes before (.acting .foreign handle (.run script)) .reentrantRun

/-- Only the read-only query may find no entry, and an engine that calls a compile entry is either
behind a wrapper or the one that is under construction, which does so for the first time. -/
def Permitted (candidate : Option HandleSlot) (before : List (Event ν)) : Event ν → Prop
  | .calling _ request served => served = false → ∃ vaddr, request = .isReadOnly vaddr
  | .compiling bridge _ _ _ => IsAttached before bridge ∨ candidate = some bridge ∧
    ∀ slot context request, .compiling bridge slot context request ∉ before
  | _ => True

/-- All laws together, for events that do not end everything. -/
structure Lawful (candidate : Option HandleSlot) (before : List (Event ν)) (event : Event ν) :
    Prop where
  identifies : Identifies before event
  follows : Follows before event
  orderly : Orderly before event
  harmless : ∀ reason, ¬ Causes before event reason
  permitted : Permitted candidate before event

end RecompilerAdapter
