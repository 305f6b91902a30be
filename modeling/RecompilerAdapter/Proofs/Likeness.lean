/-
Module: RecompilerAdapter.Proofs.Likeness
Purpose: What is alike on two sides. A relation between bodies of callbacks says which of them are alike;
  from it follows when two tables are, two engines, and two wrappers. A likeness of worlds then is a
  relation that holds of the wrappers behind some handles, and that survives what bodies that are alike
  do, and whatever is done to both sides at once.
Trusted boundary: none
Main exports: BodyRelation, BodyRelation.Tables, BodyRelation.Engines, BodyRelation.Wrappers, Likeness
-/
import RecompilerAdapter.Adapter.Perform
import RecompilerAdapter.Proofs.MirroredEngines
import RecompilerAdapter.Proofs.Move

namespace RecompilerAdapter

open Stepping (CompiledAlike)

variable {σ ν α β : Type}

/-! ### What is made of bodies -/

/-- Which bodies are alike, given which of their answers agree. All further likeness, up to that of
whole worlds, is derived from this one parameter. -/
abbrev BodyRelation (σ ν : Type) : Type 1 :=
  ∀ ⦃α β : Type⦄, (α → β → Prop) → Activity σ ν α → Activity σ ν β → Prop

namespace BodyRelation

variable (bodies : BodyRelation σ ν)

/-- Two deferred operations are bound alike and do alike. -/
structure Callbacks (callback other : Callback (DeferredFunction σ ν)) : Prop where
  handle : callback.handle = other.handle
  userArgument : callback.userArgument = other.userArgument
  bodies : ∀ first second, bodies (· = ·) (callback.call first second) (other.call first second)

/-- Two compile answers say the same, and their deferred operations are alike for every handle. What
they say has to be the same because it is told. -/
structure Answers (answer other : WireCompiled (DeferredFunction σ ν)) : Prop where
  report : answer.report = other.report
  compiled : ∀ handle, CompiledAlike bodies.Callbacks (answer.decode handle) (other.decode handle)

/-- Two coprocessors answer every compile request alike. -/
structure Coprocessors (table other : CoprocessorTable σ ν) : Prop where
  context : table.context = other.context
  answers : ∀ request, bodies bodies.Answers (table.answer request) (other.answer request)

/-- Two callback tables serve the same requests, and serve them alike. -/
def Tables (table other : CallbackTable σ ν) : Prop :=
  ∀ request, Option.Rel (fun entry copy => ∀ handle, bodies (· = ·) (entry handle) (copy handle))
    (table.entry? request) (other.entry? request)

/-- Two bridges offer coprocessors that are alike. -/
structure Bridges (bridge other : CoprocessorBridge σ ν) : Prop where
  index : bridge.index = other.index
  slot : bridge.slot = other.slot
  table : bodies.Coprocessors bridge.table other.table

/-- Two configurations differ in callbacks and coprocessors that are alike. -/
structure Configurations (configuration other : EngineConfiguration σ ν) : Prop where
  slot : configuration.callbacks.slot = other.callbacks.slot
  table : bodies.Tables configuration.callbacks.table other.callbacks.table
  pageTable : configuration.pageTable = other.pageTable
  coprocessors : ∀ slot : Fin 16, Option.Rel bodies.Bridges configuration.coprocessors[slot]
    other.coprocessors[slot]
  options : configuration.options = other.options

/-- Two engines are in one mode; what scripted ones have compiled last is alike. -/
inductive Modes : EngineMode σ ν → EngineMode σ ν → Prop where
  | stepping (lent : List EnginePart) : Modes (.stepping lent) (.stepping lent)
  | scripted {last other : Option (Compiled (DeferredFunction σ ν))}
      (alike : Option.Rel (CompiledAlike bodies.Callbacks) last other) :
      Modes (.scripted last) (.scripted other)

/-- Two engines differ in callbacks and coprocessors that are alike. Registers and flags are the
same, as they are part of what a guest computes. -/
structure Engines (engine other : Engine σ ν) : Prop where
  configuration : bodies.Configurations engine.configuration other.configuration
  registers : engine.registers = other.registers
  extensionRegisters : engine.extensionRegisters = other.extensionRegisters
  programStatus : engine.programStatus = other.programStatus
  floatingPointStatus : engine.floatingPointStatus = other.floatingPointStatus
  haltRequested : engine.haltRequested = other.haltRequested
  mode : bodies.Modes engine.mode other.mode

/-- Two wrappers differ in callbacks and coprocessors that are alike. -/
structure Wrappers (wrapper other : Wrapper σ ν) : Prop where
  userData : wrapper.userData = other.userData
  state : wrapper.state = other.state
  engine : bodies.Engines wrapper.engine other.engine

end BodyRelation

/-! ### Calls that cross the boundary -/

section

variable {stopped related : WorldRelation σ ν} {perform counterpart : Performer σ ν}

/-- Two bridges forward a request alike if they forward it to entries that do alike. The call and
the answer may lead from one relation to another. -/
theorem CallbackBridge.forward_alike {before inside after : WorldRelation σ ν}
    {bridge other : CallbackBridge σ ν} {request : HostRequest} (slot : bridge.slot = other.slot)
    (entries : Option.Rel (fun entry copy => ∀ handle, Exec.Corresponds stopped inside inside (· = ·)
        ((entry handle).exec perform) ((copy handle).exec counterpart))
      (bridge.table.entry? request) (other.table.entry? request))
    (calling : ∀ served, Exec.Corresponds stopped before inside (· = ·)
      (Exec.emit (.calling other.slot request served)) (Exec.emit (.calling other.slot request served)))
    (bound : Exec.Corresponds stopped inside inside (· = ·) (Exec.boundHandle other.slot)
      (Exec.boundHandle other.slot))
    (requested : ∀ handle, Exec.Corresponds stopped inside inside (· = ·)
      (Exec.emit (.requested handle request)) (Exec.emit (.requested handle request)))
    (answered : ∀ handle answer, Exec.Corresponds stopped inside after (· = ·)
      (Exec.emit (.answered handle request (request.report answer)))
      (Exec.emit (.answered handle request (request.report answer))))
    (unserved : bridge.table.entry? request = none →
      ∀ world copy, inside world copy → after world copy) :
    Exec.Corresponds stopped before after (· = ·) (bridge.forward perform request)
      (other.forward counterpart request) := by
  unfold forward
  rw [slot]
  generalize bridge.table.entry? request = served at entries unserved ⊢
  generalize other.table.entry? request = servedToo at entries ⊢
  cases entries with
  | none =>
    apply (calling false).bind_same
    intro _ world copy worlds
    -- Without an entry the bridge answers on its own, and leaves the world as it is.
    cases request <;> exact ⟨rfl, unserved rfl world copy worlds⟩
  | some alike =>
    apply (calling true).bind_same
    intro _
    apply bound.bind_same
    intro handle
    apply (requested handle).bind_same
    intro _
    apply (alike handle).bind_same
    intro answer
    exact (answered handle answer).bind_same fun _ => .pure rfl

end

/-! ### Worlds that are alike -/

/-- Of a word that is fetched, an event tells only behind some handles. It leaves room for comparing
engines that fetch in different ways. -/
def Event.FetchesBehind (handles : Handle → Prop) : Event ν → Prop
  | .fetched handle _ _ => handles handle
  | _ => True

/-- From worlds that are alike, the wrappers behind some handles are alike, and worlds are alike
again after what bodies do that are alike, and after what is done to both worlds. -/
structure Likeness (stopped related : WorldRelation σ ν) (perform counterpart : Performer σ ν)
    (bodies : BodyRelation σ ν) (handles : Handle → Prop) : Prop where
  stops : ∀ world other, related world other → stopped world other
  record : ∀ event, event.FetchesBehind handles → ∀ world other, related world other →
    related (world.record event) (other.record event)
  slots : ∀ world other, related world other → world.slots = other.slots
  shared : ∀ world other, related world other → world.shared = other.shared
  storeWord : ∀ location word world other, related world other →
    related ((Exec.storeWord location word).finalWorld world)
      ((Exec.storeWord location word).finalWorld other)
  script : ∀ world other, related world other → world.script = other.script
  setScript : ∀ operations world other, related world other →
    related { world with script := operations } { other with script := operations }
  wrappers : ∀ handle, handles handle → ∀ world other, related world other →
    Option.Rel bodies.Wrappers (world.wrappers.get? handle) (other.wrappers.get? handle)
  place : ∀ handle, handles handle → ∀ world other, related world other → ∀ wrapper copy,
    bodies.Wrappers wrapper copy → related (world.place handle wrapper) (other.place handle copy)
  exec : ∀ ⦃α β : Type⦄ (agree : α → β → Prop) body copy, bodies agree body copy →
    Exec.Corresponds stopped related related agree (body.exec perform) (copy.exec counterpart)

namespace Likeness

variable {stopped related : WorldRelation σ ν} {perform counterpart : Performer σ ν}
  {bodies : BodyRelation σ ν} {handles : Handle → Prop}
  (alike : Likeness stopped related perform counterpart bodies handles)

include alike

/-! ### The primitive computations -/

/-- An event may be told on both sides. A fetch may be told only behind a handle of an engine that
is alike, because engines that are not may execute other words. -/
theorem emit {event : Event ν} (told : event.FetchesBehind handles) :
    Exec.Corresponds stopped related related (· = ·) (Exec.emit event) (Exec.emit event) :=
  .emit (alike.record event told)

/-- The handle of a slot is the same on both sides, or it is unbound on both. -/
theorem boundHandle (slot : HandleSlot) :
    Exec.Corresponds stopped related related (· = ·) (Exec.boundHandle slot)
      (Exec.boundHandle slot) := by
  apply Exec.Corresponds.get_bind
  intro world other worlds
  rw [alike.slots world other worlds]
  cases other.slots.get? slot with
  | none => exact ⟨rfl, alike.stops world other worlds⟩
  | some handle => exact ⟨rfl, worlds⟩

/-- Words of the caller are the same on both sides. -/
theorem loadWord (location : Location) :
    Exec.Corresponds stopped related related (· = ·) (Exec.loadWord location)
      (Exec.loadWord location) :=
  fun world other worlds =>
    ⟨congrArg (·.words.load location) (alike.shared world other worlds), worlds⟩

/-- They stay so when both sides store the same word. -/
theorem storesWord (location : Location) (word : UInt32) :
    Exec.Corresponds stopped related related (· = ·) (Exec.storeWord location word)
      (Exec.storeWord location word) :=
  fun world other worlds => ⟨rfl, alike.storeWord location word world other worlds⟩

/-- Both sides hold the same script. -/
theorem takeScript :
    Exec.Corresponds stopped related related (· = ·) Exec.takeScript Exec.takeScript :=
  fun world other worlds => ⟨alike.script world other worlds, alike.setScript [] world other worlds⟩

/-- A new script may be handed over on both sides. -/
theorem schedule (script : Option (List EngineOperation)) :
    Exec.Corresponds stopped related related (· = ·) (Wrapper.schedule script)
      (Wrapper.schedule script) := by
  cases script with
  | none => exact .pure rfl
  | some operations =>
    exact fun world other worlds => ⟨rfl, alike.setScript operations world other worlds⟩

section

variable {handle : Handle} (isAlike : handles handle)

include isAlike

/-- Behind a handle there are wrappers that are alike, or none on both sides. -/
theorem wrapper :
    Exec.Corresponds stopped related related bodies.Wrappers (Exec.wrapper handle)
      (Exec.wrapper handle) :=
  .wrapper handle (alike.wrappers handle isAlike) alike.stops

/-- So there are engines that are alike. -/
theorem engine :
    Exec.Corresponds stopped related related bodies.Engines (Exec.engine handle)
      (Exec.engine handle) :=
  (alike.wrapper isAlike).bind fun _ _ same => .pure same.engine

/-- Wrappers may be changed on both sides, as long as they stay alike. -/
theorem modifyWrapper {update : Wrapper σ ν → Wrapper σ ν}
    (keeps : ∀ wrapper copy, bodies.Wrappers wrapper copy →
      bodies.Wrappers (update wrapper) (update copy)) :
    Exec.Corresponds stopped related related (· = ·) (Exec.modifyWrapper handle update)
      (Exec.modifyWrapper handle update) := by
  apply (alike.wrapper isAlike).bind
  intro wrapper copy same world other worlds
  exact ⟨rfl, alike.place handle isAlike world other worlds _ _ (keeps wrapper copy same)⟩

/-- So may engines. The changes may differ, since a change may depend on the engine. -/
theorem modifyEngine {update change : Engine σ ν → Engine σ ν}
    (keeps : ∀ engine copy, bodies.Engines engine copy → bodies.Engines (update engine) (change copy)) :
    Exec.Corresponds stopped related related (· = ·) (Exec.modifyEngine handle update)
      (Exec.modifyEngine handle change) := by
  apply (alike.wrapper isAlike).bind
  intro wrapper copy same world other worlds
  exact ⟨rfl, alike.place handle isAlike world other worlds _ _
    { same with engine := keeps _ _ same.engine }⟩

/-- Entering and leaving a run is the same on both sides. -/
theorem setState (state : RunState) :
    Exec.Corresponds stopped related related (· = ·) (Exec.setState handle state)
      (Exec.setState handle state) :=
  alike.modifyWrapper isAlike fun _ _ same => { same with state := rfl }

end

/-! ### Bridges -/

/-- Requests are forwarded to entries that are alike, with the same handle. -/
theorem forward {bridge other : CallbackBridge σ ν} (slot : bridge.slot = other.slot)
    (tables : bodies.Tables bridge.table other.table) (request : HostRequest) :
    Exec.Corresponds stopped related related (· = ·) (bridge.forward perform request)
      (other.forward counterpart request) := by
  apply CallbackBridge.forward_alike slot ?_ (fun _ => alike.emit trivial) (alike.boundHandle _)
    (fun _ => alike.emit trivial) (fun _ _ => alike.emit trivial) fun _ _ _ => id
  have served := tables request
  generalize bridge.table.entry? request = entry at served ⊢
  generalize other.table.entry? request = copy at served ⊢
  cases served with
  | none => exact .none
  | some entries => exact .some fun handle => alike.exec _ _ _ (entries handle)

/-- Deferred operations that are alike are called with the same operands. -/
theorem run {callback other : Callback (DeferredFunction σ ν)}
    (callbacks : bodies.Callbacks callback other) (first second : UInt32) :
    Exec.Corresponds stopped related related (· = ·) (callback.run perform first second)
      (other.run counterpart first second) := by
  unfold Callback.run
  rw [callbacks.handle, callbacks.userArgument]
  refine .bind_same (alike.emit trivial) fun _ => ?_
  exact alike.exec _ _ _ (callbacks.bodies first second)

/-- Compile requests are answered alike, and what is told of the answers is the same. -/
theorem compile {bridge other : CoprocessorBridge σ ν} (bridges : bodies.Bridges bridge other)
    (request : CompileRequest) :
    Exec.Corresponds stopped related related (CompiledAlike bodies.Callbacks)
      (bridge.compile perform request) (other.compile counterpart request) := by
  rw [CoprocessorBridge.compile_eq, CoprocessorBridge.compile_eq, CoprocessorBridge.consult,
    CoprocessorBridge.consult, bridges.index, bridges.slot, bridges.table.context]
  refine .bind_same (alike.emit trivial) fun _ => ?_
  apply (alike.exec _ _ _ (bridges.table.answers request)).bind
  intro answer reply answers
  rw [answers.report]
  refine .bind_same (alike.emit trivial) fun _ => ?_
  apply (alike.boundHandle _).bind_same
  intro handle
  exact .pure (answers.compiled handle)

end Likeness

end RecompilerAdapter
