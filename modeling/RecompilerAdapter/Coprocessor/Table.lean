/-
Module: RecompilerAdapter.Coprocessor.Table
Purpose: The flat table of a coprocessor's compile entries, and the bridge that offers it to the engine in
  one slot. Every entry receives the coprocessor's own context, which belongs to whoever holds the table
  and is released exactly once.
Trusted boundary: the definitions of this module
Main exports: DeferredFunction, CoprocessorTable, CoprocessorBridge, Compiled
-/
import RecompilerAdapter.Activity
import RecompilerAdapter.Wire.Transfer

namespace RecompilerAdapter

/-- The functions that deferred operations call. -/
abbrev DeferredFunction (σ ν : Type) : Type :=
  CallbackFunction (Activity σ ν UInt64)

/-- The answer to a request that is either deferred or unsupported. -/
abbrev WireOperation (σ ν : Type) : Type :=
  WireCallback (DeferredFunction σ ν)

/-- The answer to a request for a transfer of one word. -/
abbrev WireOneWord (σ ν : Type) : Type :=
  WireTransfer (DeferredFunction σ ν) Location

/-- The answer to a request for a transfer of two words, the low one first. -/
abbrev WireTwoWords (σ ν : Type) : Type :=
  WireTransfer (DeferredFunction σ ν) (Location × Location)

/-- What an optional operation says without its function. -/
def WireCallback.report {F : Type} : WireCallback F → CompileAnswer
  | .absent => .unsupported
  | .present raw => .deferred raw.userArgument

/-- What a transfer answer says without its function, given the locations that it may grant. -/
def WireTransfer.report {F A : Type} (locations : A → List Location) :
    WireTransfer F A → CompileAnswer
  | .absent => .unsupported
  | .callback raw => .deferred raw.userArgument
  | .access location => .direct (locations location)

/-- The entries of a coprocessor table, each with the positions of its own parameters. -/
structure CoprocessorTable (σ ν : Type) where
  context : Context
  internalOperation : Context → Bool → UInt32 → CoprocessorRegister → CoprocessorRegister →
    CoprocessorRegister → UInt32 → Activity σ ν (WireOperation σ ν)
  sendOneWord : Context → Bool → UInt32 → CoprocessorRegister → CoprocessorRegister → UInt32 →
    Activity σ ν (WireOneWord σ ν)
  sendTwoWords : Context → Bool → UInt32 → CoprocessorRegister → Activity σ ν (WireTwoWords σ ν)
  getOneWord : Context → Bool → UInt32 → CoprocessorRegister → CoprocessorRegister → UInt32 →
    Activity σ ν (WireOneWord σ ν)
  getTwoWords : Context → Bool → UInt32 → CoprocessorRegister → Activity σ ν (WireTwoWords σ ν)
  loadWords : Context → Bool → Bool → CoprocessorRegister → WireOption UInt8 →
    Activity σ ν (WireOperation σ ν)
  storeWords : Context → Bool → Bool → CoprocessorRegister → WireOption UInt8 →
    Activity σ ν (WireOperation σ ν)

/-- A coprocessor table offered to an engine in the slot of number `index`, with the slot that will
hold the handle. -/
structure CoprocessorBridge (σ ν : Type) where
  index : Nat
  table : CoprocessorTable σ ν
  slot : HandleSlot

/-- A compile answer as the engine receives it. -/
inductive Compiled (F : Type) where
  | operation (answer : Option (Callback F))
  | oneWord (answer : Transfer F Location)
  | twoWords (answer : Transfer F (Location × Location))

end RecompilerAdapter
