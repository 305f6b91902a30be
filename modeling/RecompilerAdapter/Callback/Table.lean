/-
Module: RecompilerAdapter.Callback.Table
Purpose: The flat table of entries that serve an engine's requests, and the bridge that offers it to the
  engine. Every entry receives the handle of the wrapper on whose behalf it is called. Only the read-only
  query may be missing; then nothing is read-only.
Trusted boundary: the definitions of this module
Main exports: CallbackTable, CallbackTable.entry?, CallbackBridge
-/
import RecompilerAdapter.Activity

namespace RecompilerAdapter

/-- The entries of a callback table, each with the positions of its own parameters. -/
structure CallbackTable (σ ν : Type) where
  read8 : Handle → UInt32 → Activity σ ν (BitVec 8)
  read16 : Handle → UInt32 → Activity σ ν (BitVec 16)
  read32 : Handle → UInt32 → Activity σ ν (BitVec 32)
  read64 : Handle → UInt32 → Activity σ ν (BitVec 64)
  write8 : Handle → UInt32 → BitVec 8 → Activity σ ν Unit
  write16 : Handle → UInt32 → BitVec 16 → Activity σ ν Unit
  write32 : Handle → UInt32 → BitVec 32 → Activity σ ν Unit
  write64 : Handle → UInt32 → BitVec 64 → Activity σ ν Unit
  isReadOnly : Option (Handle → UInt32 → Activity σ ν Bool)
  supervisorCall : Handle → UInt32 → Activity σ ν Unit
  exceptionRaised : Handle → UInt32 → ExceptionKind → Activity σ ν Unit
  addTicks : Handle → UInt64 → Activity σ ν Unit
  ticksRemaining : Handle → Activity σ ν UInt64

namespace CallbackTable

variable {σ ν : Type}

/-- The read entry of a width. -/
def read (table : CallbackTable σ ν) :
    (width : Width) → Handle → UInt32 → Activity σ ν (BitVec width.bits)
  | .byte => table.read8
  | .halfword => table.read16
  | .word => table.read32
  | .doubleword => table.read64

/-- The write entry of a width. -/
def write (table : CallbackTable σ ν) :
    (width : Width) → Handle → UInt32 → BitVec width.bits → Activity σ ν Unit
  | .byte => table.write8
  | .halfword => table.write16
  | .word => table.write32
  | .doubleword => table.write64

/-- The entry that serves a request, waiting for its handle; `none` if it is missing. -/
def entry? (table : CallbackTable σ ν) :
    (request : HostRequest) → Option (Handle → Activity σ ν request.Answer)
  | .read width vaddr => some fun handle => table.read width handle vaddr
  | .write width vaddr value => some fun handle => table.write width handle vaddr value
  | .isReadOnly vaddr => table.isReadOnly.map fun entry handle => entry handle vaddr
  | .supervisorCall number => some fun handle => table.supervisorCall handle number
  | .exceptionRaised pc condition => some fun handle => table.exceptionRaised handle pc condition
  | .addTicks ticks => some fun handle => table.addTicks handle ticks
  | .ticksRemaining => some fun handle => table.ticksRemaining handle

end CallbackTable

/-- A callback table offered to an engine, with the slot that will hold the handle. -/
structure CallbackBridge (σ ν : Type) where
  table : CallbackTable σ ν
  slot : HandleSlot

end RecompilerAdapter
