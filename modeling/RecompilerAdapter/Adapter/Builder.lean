/-
Module: RecompilerAdapter.Adapter.Builder
Purpose: Building wrappers. A builder collects a callback table, a page table, coprocessor tables and
  tunables. It owns the coprocessor tables that it holds and releases each of them exactly once: when
  another table takes the slot, when all slots are replaced, when a slot number is rejected, or when the
  builder is dropped. Building hands them over to the engine.
Trusted boundary: the definitions of this module
Main exports: CoprocessorTables, Builder, EngineChoice, Builder.build, Wrapper.construct, Wrapper.delete
-/
import RecompilerAdapter.Adapter.Perform

/-!
An engine needs its bridges when it is constructed, and they need the handle of a wrapper that does
not exist yet; so the bridges share a slot that is bound after the wrapper is in place.
-/

namespace RecompilerAdapter

/-- The coprocessor tables of all slots. -/
abbrev CoprocessorTables (σ ν : Type) : Type :=
  Vector (Option (CoprocessorTable σ ν)) coprocessorCount

/-- What a wrapper is built from. -/
structure Builder (σ ν : Type) where
  userData : UserData
  callbacks : CallbackTable σ ν
  pageTable : Option (PageTable σ)
  coprocessors : CoprocessorTables σ ν
  options : Options

/-- How an engine is constructed: a stepping engine, a scripted one, or one that refuses. The last
two may perform some operations while they are constructed. -/
inductive EngineChoice where
  | stepping
  | scripted (probe : List EngineOperation)
  | refusing (reason : String) (probe : List EngineOperation := [])
deriving Repr, DecidableEq

namespace EngineChoice

variable {σ ν : Type}

/-- Constructs an engine. A stepping engine refuses memory that is not little-endian. A refused
configuration is still to be dropped. -/
def construct (perform : Performer σ ν) (configuration : EngineConfiguration σ ν) :
    EngineChoice → Exec σ ν (Except EngineError (Engine σ ν))
  | stepping =>
    if configuration.options.alwaysLittleEndian then
      return .ok (.stepping configuration)
    else
      return .error ⟨"big-endian guest memory is not supported"⟩
  | scripted operations => do
    Exec.emit (.configured configuration.summary)
    let last ← Scripted.probe perform configuration none operations
    return .ok (.scripted configuration last)
  | refusing reason operations => do
    Exec.emit (.configured configuration.summary)
    let _ ← Scripted.probe perform configuration none operations
    return .error ⟨reason⟩

end EngineChoice

namespace Builder

variable {σ ν : Type}

/-- A builder without page table and coprocessors, and with the default tunables. -/
def new (userData : UserData) (callbacks : CallbackTable σ ν) : Builder σ ν where
  userData := userData
  callbacks := callbacks
  pageTable := none
  coprocessors := Vector.replicate coprocessorCount none
  options := .default

/-- Uses a page table, or none. -/
def withPageTable (builder : Builder σ ν) (pageTable : Option (PageTable σ)) : Builder σ ν :=
  { builder with pageTable := pageTable }

/-- Uses tunables. -/
def withOptions (builder : Builder σ ν) (options : Options) : Builder σ ν :=
  { builder with options := options }

/-- Releases the tables that the builder holds, from the lowest slot to the highest. -/
def release (builder : Builder σ ν) : Exec σ ν Unit :=
  builder.coprocessors.toList.zipIdx.forM fun
    | (some table, slot) => do
      Exec.emit (.log (.releasingTable slot))
      table.release
    | (none, _) => pure ()

/-- Installs a table in a slot and releases the one that was there. If there is no such slot, the
table is released, then all tables that the builder holds, and the builder is gone. -/
def withCoprocessor (builder : Builder σ ν) (slot : Nat) (table : CoprocessorTable σ ν) :
    Exec σ ν (Except AdapterError (Builder σ ν)) := do
  if inRange : slot < coprocessorCount then
    match builder.coprocessors[slot] with
    | some previous =>
      Exec.emit (.log (.replacingTable slot))
      previous.release
    | none => pure ()
    return .ok { builder with coprocessors := builder.coprocessors.set slot (some table) }
  else
    table.release
    builder.release
    return .error (.invalidCoprocessorSlot slot)

/-- Replaces all slots and releases the tables that were there. -/
def withCoprocessors (builder : Builder σ ν) (tables : CoprocessorTables σ ν) :
    Exec σ ν (Builder σ ν) := do
  builder.release
  return { builder with coprocessors := tables }

/-- What the engine is constructed with, its bridges sharing a handle slot. -/
def configuration (builder : Builder σ ν) (slot : HandleSlot) : EngineConfiguration σ ν where
  callbacks := ⟨builder.callbacks, slot⟩
  pageTable := builder.pageTable
  coprocessors := builder.coprocessors.mapIdx fun index table =>
    table.map fun table => ⟨index, table, slot⟩
  options := builder.options

/-- Gives a constructed engine its wrapper and binds the bridges to the wrapper's handle. -/
def attach (builder : Builder σ ν) (slot : HandleSlot) (engine : Engine σ ν) :
    Exec σ ν Handle := do
  let wrapper : Wrapper σ ν := ⟨builder.userData, .constructed, engine⟩
  let handle ← modifyGet fun world =>
    let handle : Handle := ⟨world.built + 1⟩
    (handle, { world with
      wrappers := world.wrappers.insert handle wrapper
      built := world.built + 1 })
  Exec.bindSlot slot handle
  Exec.emit (.attached slot handle builder.userData)
  return handle

/-- Builds a wrapper and yields its handle. If the engine cannot be constructed, its configuration
is dropped first. -/
def build (perform : Performer σ ν) (builder : Builder σ ν) (engine : EngineChoice) :
    Exec σ ν (Except EngineError Handle) := do
  let slot ← Exec.allocateSlot
  let configuration := builder.configuration slot
  Exec.emit (.log (.constructing configuration.populated.length configuration.pageTable.isSome))
  match ← engine.construct perform configuration with
  | .ok engine => return .ok (← builder.attach slot engine)
  | .error error =>
    configuration.drop
    return .error error

end Builder

namespace Wrapper

variable {σ ν : Type}

/-- Destroys a wrapper, its engine and the engine's coprocessors. -/
def delete (handle : Handle) : Exec σ ν Unit := do
  let wrapper ← Exec.wrapper handle
  Exec.emit (.log (.destroyingEngine wrapper.userData))
  wrapper.engine.configuration.drop
  modify fun world => { world with wrappers := world.wrappers.erase handle }

/-- Builds a wrapper on the foreign surface, where the coprocessor tables come as an array or not at
all. An engine that cannot be constructed ends everything. -/
def construct (perform : Performer σ ν) (userData : UserData) (callbacks : CallbackTable σ ν)
    (pageTable : Option (PageTable σ))
    (coprocessors : Option (Vector (WireOption (CoprocessorTable σ ν)) coprocessorCount))
    (engine : EngineChoice) : Exec σ ν Handle := do
  let tables : CoprocessorTables σ ν :=
    match coprocessors with
    | some tables => tables.map WireOption.toOption
    | none => Vector.replicate coprocessorCount none
  let builder ← ((Builder.new userData callbacks).withPageTable pageTable).withCoprocessors tables
  match ← builder.build perform engine with
  | .ok handle => return handle
  | .error error =>
    Exec.emit (.log (.constructorFailed (.engineConstruction error)))
    Exec.abort .constructionFailed

end Wrapper

end RecompilerAdapter
