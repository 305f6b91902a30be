/-
Module: RecompilerAdapter.Proofs.Solitude
Purpose: A wrapper among others, and the same wrapper alone. In one world it has a handle among many, in
  the other one it is the first and only wrapper, and all that belongs to it is the same. Its callbacks
  and coprocessors do the same to it in both worlds; whatever they do to the others is left out in the
  second. What happens in the first world then is told in the second one too, as far as it belongs to the
  wrapper.
Trusted boundary: none
Main exports: Event.rehome, Activity.Alone, World.Alone, Shadows, Shadows.pass
-/
import RecompilerAdapter.Proofs.BarredActions
import RecompilerAdapter.Proofs.LikeEngines

namespace RecompilerAdapter

open Stepping (CompiledAlike)

variable {σ ν ω α β : Type}

/-! ### What is told of a wrapper -/

/-- The handle of the wrapper that is built first. A wrapper that is alone has this one, whatever
handle it has beside others. -/
def Handle.first : Handle :=
  ⟨1⟩

/-- The slot that is created first, which is the one of the wrapper that is alone. -/
def HandleSlot.first : HandleSlot :=
  ⟨0⟩

namespace Event

/-- An event as it is told of the wrapper that is built first. Events that carry no handle stay as
they are. -/
def rehome : Event ν → Event ν
  | calling _ request served => calling .first request served
  | fallingBack _ pc instructions => fallingBack .first pc instructions
  | requested _ request => requested .first request
  | answered _ request answer => answered .first request answer
  | compiling _ slot context request => compiling .first slot context request
  | compiled _ slot context request answer => compiled .first slot context request answer
  | invoked _ userArgument first second => invoked .first userArgument first second
  | acting surface _ action => acting surface .first action
  | acted surface _ action reply => acted surface .first action reply
  | attached _ _ data => attached .first .first data
  | runEntered _ => runEntered .first
  | runLeft _ => runLeft .first
  | fetched _ address word => fetched .first address word
  | event => event

/-- Whether the adapter logs a line about the event, right after it. The line carries no handle, so
only its place tells whose line it is. -/
def isLogged : Event ν → Bool
  | runEntered _ => true
  | runLeft _ => true
  | _ => false

end Event

namespace Belongings

variable (own : Belongings σ ν ω)

/-- Whether an event is about the wrapper. A log line does not name a wrapper; it is about the run
that was just entered or left. -/
def concerns (logged : Bool) : Event ν → Bool
  | .log _ => logged
  | event => event.belongs own

/-- Whether the next line that is logged is about the wrapper, after some events. This is read off
the last event, because the line follows at once. -/
def awaits : Bool → List (Event ν) → Bool :=
  List.foldl fun logged event => own.concerns logged event && event.isLogged

/-- The events that are about the wrapper. -/
def told : Bool → List (Event ν) → List (Event ν)
  | _, [] => []
  | logged, event :: events =>
    let rest := told (own.concerns logged event && event.isLogged) events
    if own.concerns logged event then event :: rest else rest

variable {own} {logged : Bool} {event : Event ν} {events further : List (Event ν)}

theorem awaits_append :
    own.awaits logged (events ++ further) = own.awaits (own.awaits logged events) further :=
  List.foldl_append

theorem told_append : own.told logged (events ++ further) =
    own.told logged events ++ own.told (own.awaits logged events) further := by
  induction events generalizing logged with
  | nil => rfl
  | cons event events ih =>
    simp only [List.cons_append, told, ih, awaits, List.foldl_cons]
    split <;> rfl

@[simp] theorem concerns_log (line : LogLine) : own.concerns logged (.log line : Event ν) = logged :=
  rfl

theorem concerns_of_belongs (belongs : event.belongs own = true) : own.concerns logged event = true := by
  cases event <;> first | exact belongs | cases belongs

theorem concerns_foreign (foreign : event.belongs own = false) : own.concerns false event = false := by
  cases event <;> first | rfl | exact foreign

/-- Of what is not about the wrapper, nothing is told of it. -/
theorem told_foreign (foreign : ∀ event ∈ events, event.belongs own = false) :
    own.told false events = [] ∧ own.awaits false events = false := by
  induction events with
  | nil => exact ⟨rfl, rfl⟩
  | cons event events ih =>
    rw [List.forall_mem_cons] at foreign
    simpa [told, awaits, concerns_foreign foreign.1] using ih foreign.2

end Belongings

/-- What is not about a wrapper does not change it, if the actions on it count among its
belongings. -/
theorem Wrapper.replay_foreign {own : Belongings σ ν ω} (counted : own.actions = true)
    {events : List (Event ν)} (foreign : ∀ event ∈ events, event.belongs own = false)
    (wrapper : Wrapper σ ν) : wrapper.replay own.handle events = wrapper := by
  induction events with
  | nil => rfl
  | cons event events ih =>
    rw [List.forall_mem_cons] at foreign
    have unchanged : wrapper.engine.afterEvent own.handle event = wrapper.engine := by
      cases event with
      | acted surface target action reply =>
        refine if_neg fun same => ?_
        simp [Event.belongs, counted, same] at foreign
      | _ => rfl
    show replay own.handle events
      { wrapper with engine := wrapper.engine.afterEvent own.handle event } = wrapper
    rw [unchanged]
    exact ih foreign.2

/-! ### What a wrapper alone is made of -/

section

variable (own : Belongings σ ν ω)

/-- Two bodies do the same to the wrapper, the second one where it is alone. All else that the first
one does is left out; it changes no part of the caller's side that belongs to the wrapper, and what
comes after it does not depend on it. No wrapper that is built meanwhile gets the wrapper's
handle. -/
inductive Activity.Alone (agree : α → β → Prop) : Activity σ ν α → Activity σ ν β → Prop where
  | finish {answer : α} {other : β} (agrees : agree answer other) :
      Alone agree (.finish answer) (.finish other)
  | access {update change : Shared σ → Shared σ} {next : Shared σ → Activity σ ν α}
      {onward : Shared σ → Activity σ ν β}
      (changes : ∀ shared other, own.view shared = own.view other →
        own.view (update shared) = own.view (change other))
      (rest : ∀ shared other, own.view shared = own.view other →
        Alone agree (next shared) (onward other)) :
      Alone agree (.access update next) (.access change onward)
  | record {note : ν} {next : Activity σ ν α} {onward : Activity σ ν β}
      (belongs : own.notes note = true) (rest : Alone agree next onward) :
      Alone agree (.record note next) (.record note onward)
  | perform {surface : Surface} {action : Action} {next : Reply → Activity σ ν α}
      {onward : Reply → Activity σ ν β} (rest : ∀ reply, Alone agree (next reply) (onward reply)) :
      Alone agree (.perform surface own.handle action next) (.perform surface .first action onward)
  | omitAccess {update : Shared σ → Shared σ} {next : Shared σ → Activity σ ν α}
      {onward : Activity σ ν β} (keeps : ∀ shared, own.view (update shared) = own.view shared)
      (rest : ∀ before, Alone agree (next before) onward) : Alone agree (.access update next) onward
  | omitRecord {note : ν} {next : Activity σ ν α} {onward : Activity σ ν β}
      (foreign : own.notes note = false) (rest : Alone agree next onward) :
      Alone agree (.record note next) onward
  | omitPerform {surface : Surface} {target : Handle} {action : Action}
      {next : Reply → Activity σ ν α} {onward : Activity σ ν β} (different : target ≠ own.handle)
      (rest : ∀ reply, reply ≠ .built own.handle → Alone agree (next reply) onward) :
      Alone agree (.perform surface target action next) onward

/-- The word at a location belongs to the wrapper's part of the caller's side: it is read from that
part alone, and storing to it changes that part in the same way wherever it is the same. -/
structure Location.Owned (location : Location) : Prop where
  load : ∀ shared other, own.view shared = own.view other →
    shared.words.load location = other.words.load location
  store : ∀ shared other, own.view shared = own.view other → ∀ word,
    own.view { shared with words := shared.words.store location word } =
      own.view { other with words := other.words.store location word }

/-- A deferred operation of the wrapper, and what it is where the wrapper is alone. Both are bound,
each to the handle of the wrapper in its own session. -/
structure Callback.Alone (callback other : Callback (DeferredFunction σ ν)) : Prop where
  handle : callback.handle = own.handle
  handleToo : other.handle = .first
  userArgument : callback.userArgument = other.userArgument
  call : ∀ first second, (callback.call first second).Alone own (· = ·) (other.call first second)

/-- A compile answer for the wrapper, and what it is where the wrapper is alone. It grants access to
the wrapper's own words only. -/
structure WireCompiled.Alone (answer other : WireCompiled (DeferredFunction σ ν)) : Prop where
  report : answer.report = other.report
  compiled : CompiledAlike (Callback.Alone own) (answer.decode own.handle) (other.decode .first)
  grants : Stepping.Grants (Location.Owned own) (answer.decode own.handle)

/-- A coprocessor of the wrapper, and what it is where the wrapper is alone. -/
structure CoprocessorTable.Alone (table other : CoprocessorTable σ ν) : Prop where
  context : table.context = other.context
  answer : ∀ request, (table.answer request).Alone own (WireCompiled.Alone own) (other.answer request)

/-- The callbacks of the wrapper, and what they are where the wrapper is alone. -/
def CallbackTable.Alone (table other : CallbackTable σ ν) : Prop :=
  ∀ request, Option.Rel
    (fun entry copy => (entry own.handle).Alone own (· = ·) (copy .first))
    (table.entry? request) (other.entry? request)

/-- A bridge of the wrapper, and what it is where the wrapper is alone. -/
structure CoprocessorBridge.Alone (bridge other : CoprocessorBridge σ ν) : Prop where
  index : bridge.index = other.index
  slot : bridge.slot = own.slot
  slotToo : other.slot = .first
  table : bridge.table.Alone own other.table

/-- The pages of the wrapper, and what they are where the wrapper is alone: they lie in its part of
the caller's side. -/
structure PageTable.Alone (pages other : Option (PageTable σ)) : Prop where
  isSome : pages.isSome = other.isSome
  fetch : ∀ shared sharedToo : Shared σ, own.view shared = own.view sharedToo → ∀ address,
    (pages.bind fun table => table.fetch? shared.own address) =
      other.bind fun table => table.fetch? sharedToo.own address

/-- The configuration of the wrapper's engine, and what it is where the wrapper is alone. Slots and
handles differ, while everything behind them is alike. -/
structure EngineConfiguration.Alone (configuration other : EngineConfiguration σ ν) : Prop where
  slot : configuration.callbacks.slot = own.slot
  slotToo : other.callbacks.slot = .first
  callbacks : configuration.callbacks.table.Alone own other.callbacks.table
  pageTable : PageTable.Alone own configuration.pageTable other.pageTable
  coprocessors : ∀ slot : Fin 16, Option.Rel (CoprocessorBridge.Alone own)
    configuration.coprocessors[slot] other.coprocessors[slot]

/-- The wrapper's engine, which is a stepping one, and what it is where the wrapper is alone. All
that a guest sees is equal; only the configurations refer to different slots. -/
structure Engine.Alone (engine other : Engine σ ν) : Prop where
  configuration : engine.configuration.Alone own other.configuration
  registers : engine.registers = other.registers
  extensionRegisters : engine.extensionRegisters = other.extensionRegisters
  programStatus : engine.programStatus = other.programStatus
  floatingPointStatus : engine.floatingPointStatus = other.floatingPointStatus
  haltRequested : engine.haltRequested = other.haltRequested
  mode : engine.mode = other.mode
  stepping : ∃ lent, engine.mode = .stepping lent

/-- The wrapper, and what it is where it is alone. -/
structure Wrapper.Alone (wrapper other : Wrapper σ ν) : Prop where
  userData : wrapper.userData = other.userData
  state : wrapper.state = other.state
  engine : wrapper.engine.Alone own other.engine

end

/-! ### Two worlds -/

section

variable (own : Belongings σ ν ω)

/-- In the first world a wrapper is beside others, in the second one it is alone, and what belongs
to it is the same. -/
structure World.Alone (world other : World σ ν) : Prop where
  beside : Beside own world
  wrapper : Option.Rel (Wrapper.Alone own) (world.wrappers.get? own.handle)
    (other.wrappers.get? .first)
  slot : Option.Rel (fun handle first => handle = own.handle ∧ first = .first)
    (world.slots.get? own.slot) (other.slots.get? .first)
  view : own.view world.shared = own.view other.shared

/-- From two worlds on, the wrapper was neither built nor deleted, what belongs to it is the same,
and what was told of it is the same. The wrapper is there or not. Others may have come and gone in
the first world, but not in the second one. -/
structure Shadows (start origin : World σ ν) (present : Bool) (world other : World σ ν) : Prop
    extends world.Alone own other where
  present : (world.wrappers.get? own.handle).isSome = present
  slots : other.slots = origin.slots
  built : other.built = origin.built
  told : ∃ events, world.history = start.history ++ events ∧ own.awaits false events = false ∧
    other.history = origin.history ++ (own.told false events).map .rehome

end

variable {own : Belongings σ ν ω} {start origin world other after : World σ ν} {present : Bool}

/-- If the actions on a wrapper count among its belongings, what passes it by does not change it. -/
theorem Passed.wrapper (counted : own.actions = true) (passed : Passed own world after) :
    after.wrappers.get? own.handle = world.wrappers.get? own.handle := by
  obtain ⟨events, -, foreign, replays⟩ := passed.told
  have kept : Wrapper.replay own.handle events = (id : Wrapper σ ν → Wrapper σ ν) :=
    funext (Wrapper.replay_foreign counted foreign)
  rw [replays, kept, Option.map_id, id]

/-- What is done to others is nothing to the wrapper. -/
theorem World.Alone.pass (alone : world.Alone own other) (counted : own.actions = true)
    (passed : Passed own world after) : after.Alone own other where
  beside := passed.beside
  wrapper := passed.wrapper counted ▸ alone.wrapper
  slot := passed.slot ▸ alone.slot
  view := passed.view.trans alone.view

namespace Shadows

theorem refl (alone : world.Alone own other) :
    Shadows own world other (world.wrappers.get? own.handle).isSome world other where
  toAlone := alone
  present := rfl
  slots := rfl
  built := rfl
  told := ⟨[], (List.append_nil _).symm, rfl, (List.append_nil _).symm⟩

section

variable (shadows : Shadows own start origin present world other) {event : Event ν}

include shadows

/-- What is told of the wrapper is told in both worlds. -/
theorem recordAll {events copies : List (Event ν)} (closed : own.awaits false events = false)
    (told : copies = (own.told false events).map .rehome) :
    Shadows own start origin present (world.recordAll events) (other.recordAll copies) := by
  have same := shadows.toAlone
  refine ⟨⟨⟨?_, ?_⟩, ?_, ?_, ?_⟩, ?_, ?_, ?_, ?_⟩
  · simpa using same.beside.sole
  · simpa using same.beside.others
  · simpa using same.wrapper
  · simpa using same.slot
  · simpa using same.view
  · simpa using shadows.present
  · simpa using shadows.slots
  · simpa using shadows.built
  · obtain ⟨earlier, history, isClosed, historyToo⟩ := shadows.told
    refine ⟨earlier ++ events, by simp [history], ?_, ?_⟩
    · rw [Belongings.awaits_append, isClosed, closed]
    · rw [World.history_recordAll, historyToo, Belongings.told_append, isClosed, told, List.map_append,
        List.append_assoc]

theorem record (belongs : event.belongs own = true) (unlogged : event.isLogged = false) :
    Shadows own start origin present (world.record event) (other.record event.rehome) := by
  have concerned : own.concerns false event = true := Belongings.concerns_of_belongs belongs
  have closed : own.awaits false [event] = false := by
    simp [Belongings.awaits, concerned, unlogged]
  have told : [event.rehome] = (own.told false [event]).map .rehome := by
    simp [Belongings.told, concerned]
  exact shadows.recordAll closed told

/-- A run is entered or left, and a line is logged about it. -/
theorem recordLogged (belongs : event.belongs own = true) (logged : event.isLogged = true)
    (line : LogLine) :
    Shadows own start origin present ((world.record event).record (.log line))
      ((other.record event.rehome).record (.log line)) := by
  have concerned : own.concerns false event = true := Belongings.concerns_of_belongs belongs
  have closed : own.awaits false [event, .log line] = false := by
    simp [Belongings.awaits, Event.isLogged]
  have told : [event.rehome, .log line] = (own.told false [event, .log line]).map .rehome := by
    simp [Belongings.told, concerned, logged, Event.rehome]
  exact shadows.recordAll closed told

theorem place {wrapper copy : Wrapper σ ν} (isPresent : present = true)
    (alone : wrapper.Alone own copy) :
    Shadows own start origin present (world.place own.handle wrapper) (other.place .first copy) := by
  refine { shadows with beside := ⟨shadows.beside.sole, ?_⟩, wrapper := ?_, present := ?_ }
  · intro bystander found different isFound
    rw [World.get?_place, if_neg different] at isFound
    exact shadows.beside.others bystander found different isFound
  · rw [World.get?_place, World.get?_place, if_pos rfl, if_pos rfl]
    exact .some alone
  · rw [World.get?_place, if_pos rfl, isPresent]
    rfl

theorem share {shared sharedToo : Shared σ} (same : own.view shared = own.view sharedToo) :
    Shadows own start origin present { world with shared := shared } { other with shared := sharedToo } :=
  { shadows with beside := ⟨shadows.beside.sole, shadows.beside.others⟩, view := same }

/-- Stepping engines take no notice of scripts. -/
theorem scripts (first second : List EngineOperation) :
    Shadows own start origin present { world with script := first } { other with script := second } :=
  { shadows with beside := ⟨shadows.beside.sole, shadows.beside.others⟩ }

/-- What is told of others is left out. -/
theorem recordForeign (foreign : event.belongs own = false) :
    Shadows own start origin present (world.record event) other := by
  have all : ∀ told ∈ [event], told.belongs own = false := by simpa using foreign
  obtain ⟨nothing, closed⟩ := Belongings.told_foreign all
  have told : [] = (own.told false [event]).map Event.rehome := by rw [nothing, List.map_nil]
  exact shadows.recordAll closed told

/-- What is done to others is left out. -/
theorem pass (counted : own.actions = true) (passed : Passed own world after) :
    Shadows own start origin present after other := by
  refine { shadows with
    toAlone := shadows.toAlone.pass counted passed
    present := passed.wrapper counted ▸ shadows.present
    told := ?_ }
  obtain ⟨events, history, closed, historyToo⟩ := shadows.told
  obtain ⟨further, historyAfter, foreign, -⟩ := passed.told
  obtain ⟨nothing, stillClosed⟩ := Belongings.told_foreign foreign
  refine ⟨events ++ further, by rw [historyAfter, history, List.append_assoc], ?_, ?_⟩
  · rw [Belongings.awaits_append, closed, stillClosed]
  · rw [historyToo, Belongings.told_append, closed, nothing, List.append_nil]

end

end Shadows

end RecompilerAdapter
