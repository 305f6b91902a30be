/-
Module: RecompilerAdapter.Scenario.Slots
Purpose: Scenarios about handle slots alone: references to slots are created, copied, bound and asked.
Trusted boundary: the definitions of this module
Main exports: SlotStep, SlotStep.perform, playSlots
-/
import RecompilerAdapter.Scenario.Transcript

namespace RecompilerAdapter.Scenario

/-- A step with handle slots. References are counted from zero in the order of their creation. -/
inductive SlotStep where
  /-- Creates a slot and a reference to it. -/
  | create
  /-- Copies a reference. -/
  | clone (reference : Nat)
  | bind (reference : Nat) (handle : Handle)
  | isBound (reference : Nat)
  | read (reference : Nat)
deriving Repr, DecidableEq

/-- What a step with handle slots yields. -/
inductive SlotResult where
  /-- The number of a new reference. -/
  | reference (number : Nat)
  | done
  /-- The slot was bound already, and still is as it was. -/
  | boundTwice
  | flag (value : Bool)
  | handle (handle : Handle)
deriving Repr, DecidableEq

namespace SlotStep

/-- The slot that a reference names. -/
def find (references : List HandleSlot) (number : Nat) : Play HandleSlot :=
  match references[number]? with
  | some slot => return slot
  | none => throw (.unknownNumber number)

/-- Adds a reference. -/
def add (references : List HandleSlot) (slot : HandleSlot) : SlotResult × List HandleSlot :=
  (.reference references.length, references ++ [slot])

/-- Binds a slot, unless it is bound. -/
def bindOnce (slot : HandleSlot) (handle : Handle) : Play SlotResult :=
  tryCatch
    (do
      Exec.bindSlot slot handle
      return .done)
    fun
    | .slotBoundTwice => return .boundTwice
    | stop => throw stop

/-- Performs one step. -/
def perform (references : List HandleSlot) : SlotStep → Play (SlotResult × List HandleSlot)
  | create => return add references (← Exec.allocateSlot)
  | clone number => return add references (← find references number)
  | bind number handle => return (← bindOnce (← find references number) handle, references)
  | isBound number => do
    let slot ← find references number
    return (.flag ((← get).slots.isBound slot), references)
  | read number => return (.handle (← Exec.boundHandle (← find references number)), references)

end SlotStep

/-- The transcript of steps with handle slots. -/
def playSlots (caller : Caller) (steps : List SlotStep) : Transcript SlotResult :=
  .record SlotStep.perform (fun _ => pure ()) [] (.initial caller) steps

end RecompilerAdapter.Scenario
