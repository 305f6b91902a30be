/-
Module: RecompilerAdapter.Adapter.World
Purpose: The state of everything: the caller's side, the handle slots, the living wrappers, the script
  that the next run of a scripted engine takes, and all events so far. A computation on it either yields a
  value or stops for a reason; in both cases the events up to that point are kept.
Trusted boundary: the definitions of this module
Main exports: Wrapper, World, Stop, Exec, Performer, Activity.exec
-/
import RecompilerAdapter.Engine.State

namespace RecompilerAdapter

/-- A wrapper: the caller's context, the run state, and the engine. -/
structure Wrapper (σ ν : Type) where
  userData : UserData
  state : RunState
  engine : Engine σ ν

/-- The state of everything. -/
structure World (σ ν : Type) where
  shared : Shared σ
  slots : HandleSlots
  wrappers : Registry Handle (Wrapper σ ν)
  /-- The number of wrappers built so far; the next one gets the next address. -/
  built : Nat
  /-- What the next run of a scripted engine performs, whichever engine that is. -/
  script : List EngineOperation
  trace : Array (Event ν)

/-- Why a computation stopped. -/
inductive Stop where
  /-- A fatal condition: everything ends. -/
  | fatal (reason : Fatal)
  /-- A part of an engine was needed while it was lent out. -/
  | lentTwice (part : EnginePart)
  /-- A handle slot was bound twice. -/
  | slotBoundTwice
  /-- A handle was used that names no living wrapper. Nothing is promised about such a use. -/
  | danglingHandle (handle : Handle)
  /-- A number was used that names nothing. Nothing is promised about such a use. -/
  | unknownNumber (number : Nat)
  /-- The bound on the number of steps was reached. -/
  | outOfFuel
deriving Repr, DecidableEq

/-- The wording of a failed assertion of the adapter. -/
def Stop.wording? : Stop → Option String
  | slotBoundTwice => some "handle slot bound twice"
  | _ => none

/-- A computation on the world. -/
abbrev Exec (σ ν : Type) : Type → Type :=
  EStateM Stop (World σ ν)

/-- How actions are carried out; what a callback may do to wrappers is a parameter of whatever may
call it. -/
abbrev Performer (σ ν : Type) : Type :=
  Surface → Handle → Action → Exec σ ν Reply

namespace World

variable {σ ν : Type}

/-- Nothing has happened yet. -/
def initial (own : σ) : World σ ν where
  shared := ⟨own, .empty⟩
  slots := .empty
  wrappers := .empty
  built := 0
  script := []
  trace := #[]

end World

namespace Exec

variable {σ ν α : Type}

/-- Records an event. -/
def emit (event : Event ν) : Exec σ ν Unit :=
  modify fun world => { world with trace := world.trace.push event }

/-- Ends everything. -/
def abort (reason : Fatal) : Exec σ ν α :=
  throw (.fatal reason)

/-- Changes the caller's side, and yields it as it was before. -/
def accessShared (update : Shared σ → Shared σ) : Exec σ ν (Shared σ) :=
  modifyGet fun world => (world.shared, { world with shared := update world.shared })

/-- The word at a location of the caller. -/
def loadWord (location : Location) : Exec σ ν UInt32 :=
  return (← get).shared.words.load location

/-- Replaces the word at a location of the caller. -/
def storeWord (location : Location) (word : UInt32) : Exec σ ν Unit :=
  modify fun world =>
    { world with shared := { world.shared with words := world.shared.words.store location word } }

/-- Creates an unbound handle slot. -/
def allocateSlot : Exec σ ν HandleSlot :=
  modifyGet fun world =>
    let (slot, slots) := world.slots.allocate
    (slot, { world with slots := slots })

/-- The handle in a slot. An unbound slot ends everything. -/
def boundHandle (slot : HandleSlot) : Exec σ ν Handle := do
  match (← get).slots.get? slot with
  | some handle => return handle
  | none => abort .unboundHandle

/-- Binds a slot. -/
def bindSlot (slot : HandleSlot) (handle : Handle) : Exec σ ν Unit := do
  match (← get).slots.bind? slot handle with
  | some slots => modify fun world => { world with slots := slots }
  | none => throw .slotBoundTwice

/-- Replaces the script. -/
def setScript (operations : List EngineOperation) : Exec σ ν Unit :=
  modify fun world => { world with script := operations }

/-- Takes the whole script, and leaves an empty one. -/
def takeScript : Exec σ ν (List EngineOperation) :=
  modifyGet fun world => (world.script, { world with script := [] })

/-- The wrapper behind a handle. -/
def wrapper (handle : Handle) : Exec σ ν (Wrapper σ ν) := do
  match (← get).wrappers.get? handle with
  | some wrapper => return wrapper
  | none => throw (.danglingHandle handle)

/-- Changes the wrapper behind a handle. -/
def modifyWrapper (handle : Handle) (update : Wrapper σ ν → Wrapper σ ν) : Exec σ ν Unit := do
  let wrapper ← wrapper handle
  modify fun world => { world with wrappers := world.wrappers.insert handle (update wrapper) }

/-- The engine behind a handle. -/
def engine (handle : Handle) : Exec σ ν (Engine σ ν) :=
  return (← wrapper handle).engine

/-- Changes the engine behind a handle. -/
def modifyEngine (handle : Handle) (update : Engine σ ν → Engine σ ν) : Exec σ ν Unit :=
  modifyWrapper handle fun wrapper => { wrapper with engine := update wrapper.engine }

end Exec

/-- Carries out the body of a callback. -/
def Activity.exec {σ ν α : Type} (perform : Performer σ ν) : Activity σ ν α → Exec σ ν α
  | .finish answer => pure answer
  | .access update next => do
    let before ← Exec.accessShared update
    (next before).exec perform
  | .record note next => do
    Exec.emit (.note note)
    next.exec perform
  | .perform surface target action next => do
    let reply ← perform surface target action
    (next reply).exec perform

/-- A body that consists of two parts is carried out by carrying out both. -/
theorem Activity.exec_bind {σ ν α β : Type} (perform : Performer σ ν) (body : Activity σ ν α)
    (next : α → Activity σ ν β) :
    (body >>= next).exec perform =
      body.exec perform >>= fun answer => (next answer).exec perform := by
  induction body with
  | finish answer => rfl
  | access update rest ih =>
    show (Exec.accessShared update >>= fun before => (rest before >>= next).exec perform) = _
    simp only [ih]
    simp [exec]
  | record note rest ih =>
    show (Exec.emit (.note note) >>= fun _ => (rest >>= next).exec perform) = _
    simp only [ih]
    simp [exec]
  | perform surface target action rest ih =>
    show (perform surface target action >>= fun reply => (rest reply >>= next).exec perform) = _
    simp only [ih]
    simp [exec]

end RecompilerAdapter
