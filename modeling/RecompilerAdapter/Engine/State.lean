/-
Module: RecompilerAdapter.Engine.State
Purpose: What an engine is constructed with, and what it holds while it lives.
Trusted boundary: the definitions of this module
Main exports: EngineConfiguration, EnginePart, EngineMode, Engine
-/
import RecompilerAdapter.Callback.Table
import RecompilerAdapter.Coprocessor.Table
import RecompilerAdapter.PageTable

namespace RecompilerAdapter

/-- The number of coprocessor slots. -/
abbrev coprocessorCount : Nat :=
  16

/-- Everything that an engine is constructed with. -/
structure EngineConfiguration (σ ν : Type) where
  callbacks : CallbackBridge σ ν
  pageTable : Option (PageTable σ)
  coprocessors : Vector (Option (CoprocessorBridge σ ν)) coprocessorCount
  options : Options

namespace EngineConfiguration

variable {σ ν : Type}

/-- The numbers of the populated coprocessor slots, ascending. -/
def populated (configuration : EngineConfiguration σ ν) : List Nat :=
  configuration.coprocessors.toList.zipIdx.filterMap fun (bridge, index) =>
    bridge.map fun _ => index

/-- What can be shown of the configuration. -/
def summary (configuration : EngineConfiguration σ ν) : ConfigurationSummary :=
  ⟨configuration.pageTable.isSome, configuration.populated, configuration.options⟩

end EngineConfiguration

/-- The parts of a stepping engine that are lent out while caller code runs. -/
inductive EnginePart where
  | callbacks
  | coprocessors
deriving Repr, DecidableEq

/-- The two kinds of engines: one steps through guest code, the other performs listed operations.
-/
inductive EngineMode (σ ν : Type) where
  /-- A stepping engine, with the parts that are lent out at the moment. -/
  | stepping (lent : List EnginePart)
  /-- A scripted engine, with the last compile answer. -/
  | scripted (last : Option (Compiled (DeferredFunction σ ν)))

/-- A constructed engine. -/
structure Engine (σ ν : Type) where
  configuration : EngineConfiguration σ ν
  registers : Registers
  extensionRegisters : ExtensionRegisters
  programStatus : UInt32
  floatingPointStatus : UInt32
  haltRequested : Bool
  mode : EngineMode σ ν

namespace Engine

variable {σ ν : Type}

/-- The program status of a stepping engine after its construction: user mode. -/
def resetProgramStatus : UInt32 :=
  0x10

/-- A stepping engine after its construction. -/
def stepping (configuration : EngineConfiguration σ ν) : Engine σ ν where
  configuration := configuration
  registers := Vector.replicate 16 0
  extensionRegisters := Vector.replicate 64 0
  programStatus := resetProgramStatus
  floatingPointStatus := 0
  haltRequested := false
  mode := .stepping []

/-- A scripted engine after its construction. -/
def scripted (configuration : EngineConfiguration σ ν)
    (last : Option (Compiled (DeferredFunction σ ν))) : Engine σ ν where
  configuration := configuration
  registers := Vector.replicate 16 0
  extensionRegisters := Vector.replicate 64 0
  programStatus := 0
  floatingPointStatus := 0
  haltRequested := false
  mode := .scripted last

/-- The engine with another value in a core register. -/
def withRegister (engine : Engine σ ν) (number : Fin registerCount) (value : UInt32) : Engine σ ν :=
  { engine with registers := engine.registers.set number value }

/-- The engine with another value in an extension register. -/
def withExtensionRegister (engine : Engine σ ν) (number : Fin extensionRegisterCount)
    (value : UInt32) : Engine σ ν :=
  { engine with extensionRegisters := engine.extensionRegisters.set number value }

end Engine

end RecompilerAdapter
