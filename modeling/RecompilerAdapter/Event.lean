/-
Module: RecompilerAdapter.Event
Purpose: What happens, in the order in which it happens: the adapter's own log lines, the release of
  coprocessor contexts, every call that crosses the boundary in either direction, the words that engines
  execute, and notes of the caller. The type of notes is the caller's.
Trusted boundary: the definitions of this module
Main exports: LogLine, ConfigurationSummary, Event
-/
import RecompilerAdapter.Action
import RecompilerAdapter.Failure

namespace RecompilerAdapter

/-- The context of a coprocessor, as its table holds it. Different contexts have different
addresses. -/
structure Context where
  address : Nat
deriving Repr, DecidableEq

/-- The lines that the adapter logs. -/
inductive LogLine where
  | constructing (coprocessors : Nat) (pageTable : Bool)
  | engineRun (data : UserData)
  | engineReturned (data : UserData)
  | destroyingEngine (data : UserData)
  | replacingTable (slot : Nat)
  | releasingTable (slot : Nat)
  | destroyingCoprocessor (slot : Nat)
  | constructorFailed (error : AdapterError)
deriving Repr, DecidableEq

namespace LogLine

/-- The severity of a line. -/
def level : LogLine → String
  | destroyingCoprocessor _ => "TRACE"
  | constructorFailed _ => "ERROR"
  | _ => "DEBUG"

/-- The wording of a line. -/
def message : LogLine → String
  | constructing .. => "constructing engine instance"
  | engineRun _ => "engine run"
  | engineReturned _ => "engine returned"
  | destroyingEngine _ => "destroying engine instance"
  | replacingTable _ => "replacing coprocessor table"
  | releasingTable _ => "releasing unbuilt coprocessor table"
  | destroyingCoprocessor _ => "destroying coprocessor"
  | constructorFailed _ => "a32jit_new"

/-- The fields of a line with their texts. -/
def fields : LogLine → List (String × String)
  | constructing coprocessors pageTable =>
    [("coprocessors", toString coprocessors),
      ("page_table", if pageTable then "true" else "false")]
  | engineRun data => [("user_data", data.inspect)]
  | engineReturned data => [("user_data", data.inspect)]
  | destroyingEngine data => [("user_data", data.inspect)]
  | replacingTable slot => [("slot", toString slot)]
  | releasingTable slot => [("slot", toString slot)]
  | destroyingCoprocessor slot => [("slot", toString slot)]
  | constructorFailed error => [("err", error.message)]

end LogLine

/-- What an engine has been configured with, as far as it can be shown. -/
structure ConfigurationSummary where
  pageTable : Bool
  coprocessors : List Nat
  options : Options
deriving Repr, DecidableEq

/-- The developer's view of a configuration. -/
def ConfigurationSummary.inspect (summary : ConfigurationSummary) : String :=
  "UserConfig \x7b page_table: " ++ (if summary.pageTable then "Some(PT)" else "None") ++
    ", coprocessors: [" ++ ", ".intercalate (summary.coprocessors.map toString) ++
    "], options: " ++ summary.options.inspect ++ ", .. \x7d"

/-- One event. -/
inductive Event (ν : Type) where
  /-- The adapter logs a line. -/
  | log (line : LogLine)
  /-- A coprocessor context is released. -/
  | destroyed (context : Context)
  /-- An engine calls a bridge that holds a handle slot, to make a request of its host. `served`
  tells whether the bridge's table has an entry for the request. -/
  | calling (bridge : HandleSlot) (request : HostRequest) (served : Bool)
  /-- An engine calls a bridge to have instructions interpreted. -/
  | fallingBack (bridge : HandleSlot) (pc : UInt32) (instructions : UInt64)
  /-- An entry of the callback table is called with a handle. -/
  | requested (handle : Handle) (request : HostRequest)
  /-- That entry has answered. -/
  | answered (handle : Handle) (request : HostRequest) (answer : HostAnswer)
  /-- An engine calls a coprocessor bridge, which calls a compile entry of the table in a slot with
  the table's context. -/
  | compiling (bridge : HandleSlot) (slot : Nat) (context : Context) (request : CompileRequest)
  /-- That entry has answered. -/
  | compiled (bridge : HandleSlot) (slot : Nat) (context : Context) (request : CompileRequest)
      (answer : CompileAnswer)
  /-- A deferred operation is called. -/
  | invoked (handle : Handle) (userArgument : UInt64) (first second : UInt32)
  /-- Somebody begins to act on a wrapper, from a callback or between runs. -/
  | acting (surface : Surface) (handle : Handle) (action : Action)
  /-- The latest action that was not over yet is over. -/
  | acted (surface : Surface) (handle : Handle) (action : Action) (reply : Reply)
  /-- An engine has been constructed, its wrapper is in place, and its bridges have the handle. -/
  | attached (bridge : HandleSlot) (handle : Handle) (data : UserData)
  /-- A run of a wrapper begins. -/
  | runEntered (handle : Handle)
  /-- The latest run of the wrapper that was not over yet is over. -/
  | runLeft (handle : Handle)
  /-- A stepping engine has fetched an instruction word. -/
  | fetched (handle : Handle) (address word : UInt32)
  /-- An engine shows what it is constructed with. -/
  | configured (summary : ConfigurationSummary)
  /-- A scripted engine has performed an operation. -/
  | performed (operation : EngineOperation) (result : OperationResult)
  /-- The caller notes something. -/
  | note (note : ν)
deriving Repr, DecidableEq

end RecompilerAdapter
