/-
Module: RecompilerAdapter.Adapter.Arrangement
Purpose: Arrangements. Inside a callback a caller builds and deletes wrappers, too. What a wrapper is
  built from holds callbacks in its turn, so the body of a callback does not carry it along: the caller
  arranges beforehand what is to be built, under numbers, and bodies name a number. Any number may stand
  for something, so a body may choose by all that it has learned.
Trusted boundary: the definitions of this module
Main exports: Setting, Arrangement, Arrangements, Arrangement.exec, Wrapper.performWithin, performArranged
-/
import RecompilerAdapter.Adapter.Command

/-!
A caller without arrangements can do in callbacks what `perform` carries out. With arrangements,
`performArranged` carries out all the same actions in the same way, and besides what was arranged.
-/

namespace RecompilerAdapter

variable {σ ν : Type}

/-- What is done with a builder between opening it and building from it. -/
inductive Setting (σ ν : Type) where
  | pageTable (pageTable : Option (PageTable σ))
  | options (options : Options)
  | coprocessor (slot : Nat) (table : CoprocessorTable σ ν)
  | coprocessors (tables : CoprocessorTables σ ν)

namespace Builder

/-- Changes a builder. If that fails, the builder is gone. -/
def set (builder : Builder σ ν) : Setting σ ν → Exec σ ν (Except AdapterError (Builder σ ν))
  | .pageTable pageTable => return .ok (builder.withPageTable pageTable)
  | .options options => return .ok (builder.withOptions options)
  | .coprocessor slot table => builder.withCoprocessor slot table
  | .coprocessors tables => return .ok (← builder.withCoprocessors tables)

/-- Changes a builder step by step, until one step fails. -/
def setAll (builder : Builder σ ν) :
    List (Setting σ ν) → Exec σ ν (Except AdapterError (Builder σ ν))
  | [] => return .ok builder
  | setting :: settings => do
    match ← builder.set setting with
    | .ok builder => builder.setAll settings
    | .error error => return .error error

end Builder

/-- What a caller has arranged. -/
inductive Arrangement (σ ν : Type) where
  /-- Opens a builder, changes it, and builds a wrapper from it. -/
  | build (userData : UserData) (callbacks : CallbackTable σ ν) (settings : List (Setting σ ν))
      (engine : EngineChoice)
  /-- Builds a wrapper on the foreign surface. -/
  | construct (userData : UserData) (callbacks : CallbackTable σ ν)
      (pageTable : Option (PageTable σ))
      (coprocessors : Option (Vector (WireOption (CoprocessorTable σ ν)) coprocessorCount))
      (engine : EngineChoice)
  /-- Deletes the wrapper on which the caller acts. -/
  | delete

/-- What a caller learns from building. -/
def Reply.ofBuild : Except EngineError Handle → Reply
  | .ok handle => .built handle
  | .error error => .refused (.engineConstruction error)

/-- Carries out what was arranged. Only a deletion looks at the wrapper on which the caller acts. -/
def Arrangement.exec (perform : Performer σ ν) (target : Handle) :
    Arrangement σ ν → Exec σ ν Reply
  | .build userData callbacks settings engine => do
    match ← (Builder.new userData callbacks).setAll settings with
    | .ok builder => return .ofBuild (← builder.build perform engine)
    | .error error => return .refused error
  | .construct userData callbacks pageTable coprocessors engine => do
    let handle ← Wrapper.construct perform userData callbacks pageTable coprocessors engine
    return .built handle
  | .delete => do
    Wrapper.delete target
    return .done

/-- All that a caller has arranged, by number. -/
abbrev Arrangements (σ ν : Type) : Type :=
  Nat → Option (Arrangement σ ν)

/-- What was arranged for an action. -/
def Arrangements.find? (arrangements : Arrangements σ ν) : Action → Option (Arrangement σ ν)
  | .arrange number => arrangements number
  | _ => none

/-- Carries out one action of a caller with arrangements. -/
def Wrapper.performWithin (arrangements : Arrangements σ ν) (perform : Performer σ ν) (turns : Nat) :
    Performer σ ν :=
  fun surface handle action =>
    match arrangements.find? action with
    | some arrangement => arrangement.exec perform handle
    | none => performWith perform turns surface handle action

/-- Carries out an action of a caller with arrangements, with a bound on the nesting of runs and
buildings and on the turns of each run. -/
def performArranged (arrangements : Arrangements σ ν) : (bound : Nat) → Performer σ ν
  | 0, _, _, _ => throw .outOfFuel
  | bound + 1, surface, handle, action =>
    Performer.recording
      (Wrapper.performWithin arrangements
        (fun surface handle action => performArranged arrangements bound surface handle action) bound)
      surface handle action

end RecompilerAdapter
