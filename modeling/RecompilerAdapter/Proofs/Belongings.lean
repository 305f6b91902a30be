/-
Module: RecompilerAdapter.Proofs.Belongings
Purpose: What belongs to a wrapper, and what goes on beside it. While the wrapper's own engine is not at
  work, others may be: they act on the wrapper, their engines run, their callbacks are called. All of this
  passes the wrapper by, except for the actions on it. Its engine is what these actions, one after the
  other, have made of it, and nothing happens on its behalf.
Trusted boundary: none
Main exports: Belongings, Event.belongs, Wrapper.replay, Beside, Passed
-/
import RecompilerAdapter.Proofs.CompileEntries
import RecompilerAdapter.Proofs.Move

namespace RecompilerAdapter

variable {σ ν ω α β : Type}

/-- What belongs to a wrapper besides its engine: its handle, the slot of its bridges, a part of the
caller's side, and some notes of the caller. The actions on the wrapper may be counted among it or
not. -/
structure Belongings (σ ν ω : Type) where
  handle : Handle
  slot : HandleSlot
  view : Shared σ → ω
  notes : ν → Bool
  actions : Bool

/-- The belongings of a wrapper that has no part of the caller's side for itself. What belongs to it
is then just what its engine tells, which is how calls of an engine are counted. -/
def Belongings.plain (handle : Handle) (slot : HandleSlot) : Belongings σ ν Unit :=
  ⟨handle, slot, fun _ => (), fun _ => false, false⟩

/-- Whether an event is about the work of the wrapper's own engine, is one of the wrapper's notes,
or is about an action on the wrapper that is counted among its belongings. -/
def Event.belongs (own : Belongings σ ν ω) : Event ν → Bool
  | calling bridge _ _ => decide (bridge = own.slot)
  | fallingBack bridge _ _ => decide (bridge = own.slot)
  | compiling bridge _ _ _ => decide (bridge = own.slot)
  | compiled bridge _ _ _ _ => decide (bridge = own.slot)
  | requested handle _ => decide (handle = own.handle)
  | answered handle _ _ => decide (handle = own.handle)
  | invoked handle _ _ _ => decide (handle = own.handle)
  | runEntered handle => decide (handle = own.handle)
  | runLeft handle => decide (handle = own.handle)
  | fetched handle _ _ => decide (handle = own.handle)
  | acting _ handle _ => own.actions && decide (handle = own.handle)
  | acted _ handle _ _ => own.actions && decide (handle = own.handle)
  | note told => own.notes told
  | _ => false

/-! ### Actions on the wrapper -/

/-- An engine after an event: an action on it that is over has changed it. -/
def Engine.afterEvent (handle : Handle) (engine : Engine σ ν) : Event ν → Engine σ ν
  | .acted _ target action _ => if target = handle then action.adjustment?.getD id engine else engine
  | _ => engine

/-- A wrapper after some events: the actions on it have changed its engine. Callbacks can change a
wrapper in no other way, so its registers can be read off the events. -/
def Wrapper.replay (handle : Handle) (events : List (Event ν)) (wrapper : Wrapper σ ν) :
    Wrapper σ ν :=
  { wrapper with engine := events.foldl (Engine.afterEvent handle) wrapper.engine }

namespace Wrapper

variable {handle : Handle} {wrapper : Wrapper σ ν}

@[simp] theorem replay_nil : wrapper.replay handle [] = wrapper :=
  rfl

/-- The actions of two portions of a history are applied one after the other. -/
theorem replay_append (events further : List (Event ν)) :
    wrapper.replay handle (events ++ further) = (wrapper.replay handle events).replay handle further := by
  simp [replay]

@[simp] theorem replay_state (events : List (Event ν)) :
    (wrapper.replay handle events).state = wrapper.state :=
  rfl

@[simp] theorem replay_userData (events : List (Event ν)) :
    (wrapper.replay handle events).userData = wrapper.userData :=
  rfl

/-- What actions leave alone is as before. -/
theorem replay_engine {γ : Type} (part : Engine σ ν → γ) {events : List (Event ν)}
    (kept : ∀ surface action reply, .acted surface handle action reply ∈ events →
      ∀ update, action.adjustment? = some update → ∀ engine, part (update engine) = part engine) :
    part (wrapper.replay handle events).engine = part wrapper.engine := by
  have all (engine : Engine σ ν) :
      part (events.foldl (Engine.afterEvent handle) engine) = part engine := by
    induction events generalizing engine with
    | nil => rfl
    | cons event events ih =>
      rw [List.foldl_cons, ih fun surface action reply later =>
        kept surface action reply (List.mem_cons_of_mem event later)]
      unfold Engine.afterEvent
      split
      · rename_i surface target action reply
        split
        · rename_i same
          subst same
          cases adjusts : action.adjustment? with
          | none => rfl
          | some update => exact kept surface action reply List.mem_cons_self update adjusts engine
        · rfl
      · rfl
  exact all wrapper.engine

@[simp] theorem replay_configuration (events : List (Event ν)) :
    (wrapper.replay handle events).engine.configuration = wrapper.engine.configuration :=
  replay_engine (·.configuration) fun _ _ _ _ _ adjusts => Action.configuration_adjustment adjusts

@[simp] theorem replay_mode (events : List (Event ν)) :
    (wrapper.replay handle events).engine.mode = wrapper.engine.mode :=
  replay_engine (·.mode) fun _ _ _ _ _ adjusts => Action.mode_adjustment adjusts

end Wrapper

/-! ### Others that leave the wrapper alone -/

section

variable (own : Belongings σ ν ω)

/-- The word at a location is none of the wrapper's. Writing to it leaves the wrapper's part of the
caller's side as it is. -/
def Location.Avoids (location : Location) : Prop :=
  ∀ shared word,
    own.view { shared with words := shared.words.store location word } = own.view shared

/-- A body that neither changes the wrapper's part of the caller's side nor makes its notes, and
whose answers are as `yields` says. It may act on anything. -/
inductive Activity.Avoids {α : Type} (yields : α → Prop) : Activity σ ν α → Prop where
  | finish {answer : α} (holds : yields answer) : Avoids yields (.finish answer)
  | access {update : Shared σ → Shared σ} {next : Shared σ → Activity σ ν α}
      (keeps : ∀ shared, own.view (update shared) = own.view shared)
      (rest : ∀ before, Avoids yields (next before)) : Avoids yields (.access update next)
  | record {note : ν} {next : Activity σ ν α} (foreign : own.notes note = false)
      (rest : Avoids yields next) : Avoids yields (.record note next)
  | perform {surface : Surface} {target : Handle} {action : Action} {next : Reply → Activity σ ν α}
      (rest : ∀ reply, Avoids yields (next reply)) :
      Avoids yields (.perform surface target action next)

/-- A deferred operation of another wrapper, which avoids the wrapper. -/
structure Callback.Avoids (callback : Callback (DeferredFunction σ ν)) : Prop where
  handle : callback.handle ≠ own.handle
  call : ∀ first second, (callback.call first second).Avoids own fun _ => True

/-- Whatever a compile answer holds or grants avoids the wrapper: its deferred operation as well as
the words that the engine may write by itself. -/
structure Compiled.Avoids (compiled : Compiled (DeferredFunction σ ν)) : Prop where
  callback : ∀ callback, Scripted.callback? compiled = some callback → callback.Avoids own
  locations : ∀ location ∈ Scripted.locations compiled, location.Avoids own

/-- A coprocessor bridge of another wrapper, whose entries avoid the wrapper. -/
structure CoprocessorBridge.Avoids (bridge : CoprocessorBridge σ ν) : Prop where
  slot : bridge.slot ≠ own.slot
  answer : ∀ request, (bridge.table.answer request).Avoids own fun wire =>
    ∀ handle, handle ≠ own.handle → (wire.decode handle).Avoids own

/-- The configuration of another wrapper's engine, whose entries avoid the wrapper. They have to
avoid it only when they are called with other handles than its own. -/
structure EngineConfiguration.Avoids (configuration : EngineConfiguration σ ν) : Prop where
  slot : configuration.callbacks.slot ≠ own.slot
  entries : ∀ request entry handle, handle ≠ own.handle →
    configuration.callbacks.table.entry? request = some entry →
      (entry handle).Avoids own fun _ => True
  bridges : ∀ bridge, some bridge ∈ configuration.coprocessors → bridge.Avoids own

/-- An engine of another wrapper, which has nothing to do with the wrapper. -/
structure Engine.Avoids (engine : Engine σ ν) : Prop where
  configuration : engine.configuration.Avoids own
  answer : ∀ compiled, engine.mode = .scripted (some compiled) → compiled.Avoids own

/-- In a world, only the wrapper's own slot is bound to its handle, and all other wrappers have
nothing to do with it. -/
structure Beside (world : World σ ν) : Prop where
  sole : ∀ slot, world.slots.get? slot = some own.handle → slot = own.slot
  others : ∀ other wrapper, other ≠ own.handle → world.wrappers.get? other = some wrapper →
    wrapper.engine.Avoids own

/-- What has happened from one world to another has passed the wrapper by, except for the actions on
it. -/
structure Passed (start world : World σ ν) : Prop where
  beside : Beside own world
  slot : world.slots.get? own.slot = start.slots.get? own.slot
  view : own.view world.shared = own.view start.shared
  told : ∃ events, world.history = start.history ++ events ∧
    (∀ event ∈ events, event.belongs own = false) ∧
    world.wrappers.get? own.handle =
      (start.wrappers.get? own.handle).map (Wrapper.replay own.handle events)

end

variable {own : Belongings σ ν ω} {start middle world : World σ ν}

/-- Every body avoids a wrapper to which no part of the caller's side belongs. -/
theorem Activity.avoids_plain {handle : Handle} {slot : HandleSlot} {yields : α → Prop}
    (all : ∀ answer, yields answer) (body : Activity σ ν α) :
    body.Avoids (Belongings.plain handle slot) yields := by
  induction body with
  | finish answer => exact .finish (all answer)
  | access update next ih => exact .access (fun _ => rfl) ih
  | record note next ih => exact .record rfl ih
  | perform surface target action next ih => exact .perform ih

/-- A handle that another slot holds is another handle, because each handle has one slot. -/
theorem Beside.sole_ne (beside : Beside own world) {slot : HandleSlot} {handle : Handle}
    (different : slot ≠ own.slot) (isBound : world.slots.get? slot = some handle) :
    handle ≠ own.handle := by
  rintro rfl
  exact different (beside.sole slot isBound)

/-- An engine that changes itself without exchanging its configuration still has no part in what
belongs to the wrapper. -/
theorem Engine.Avoids.tune {before after : Engine σ ν} (avoids : before.Avoids own)
    (configuration : after.configuration = before.configuration)
    (answer : ∀ compiled, after.mode = .scripted (some compiled) →
      before.mode = .scripted (some compiled)) : after.Avoids own where
  configuration := configuration ▸ avoids.configuration
  answer compiled same := avoids.answer compiled (answer compiled same)

namespace Passed

/-- Nothing passes where nothing happens. -/
theorem refl (beside : Beside own world) : Passed own world world where
  beside := beside
  slot := rfl
  view := rfl
  told := by
    refine ⟨[], (List.append_nil _).symm, by simp, ?_⟩
    cases world.wrappers.get? own.handle <;> rfl

/-- What passes by twice has passed by. -/
theorem trans (first : Passed own start middle) (second : Passed own middle world) :
    Passed own start world where
  beside := second.beside
  slot := second.slot.trans first.slot
  view := second.view.trans first.view
  told := by
    obtain ⟨events, history, foreign, replays⟩ := first.told
    obtain ⟨further, historyToo, foreignToo, replaysToo⟩ := second.told
    refine ⟨events ++ further, by rw [historyToo, history, List.append_assoc], ?_, ?_⟩
    · intro event isMember
      rcases List.mem_append.1 isMember with earlier | later
      · exact foreign event earlier
      · exact foreignToo event later
    · rw [replaysToo, replays, Option.map_map]
      congr 1
      funext wrapper
      exact (Wrapper.replay_append events further).symm

/-- An event that does not concern the wrapper has been recorded. -/
theorem record {event : Event ν} (passed : Passed own start world)
    (foreign : event.belongs own = false)
    (unchanged : ∀ engine : Engine σ ν, engine.afterEvent own.handle event = engine) :
    Passed own start (world.record event) := by
  refine passed.trans ⟨⟨passed.beside.sole, passed.beside.others⟩, rfl, rfl, [event], by simp,
    by simpa using foreign, ?_⟩
  rw [World.wrappers_record]
  cases world.wrappers.get? own.handle with
  | none => rfl
  | some wrapper => simp [Wrapper.replay, unchanged]

/-- Another wrapper has changed. -/
theorem place {handle : Handle} {wrapper : Wrapper σ ν} (passed : Passed own start world)
    (different : handle ≠ own.handle) (avoids : wrapper.engine.Avoids own) :
    Passed own start (world.place handle wrapper) := by
  refine passed.trans ⟨⟨passed.beside.sole, ?_⟩, rfl, rfl, [], (List.append_nil _).symm, by simp, ?_⟩
  · intro other found isOther isFound
    rcases World.get?_place_eq_some isFound with ⟨rfl, rfl⟩ | ⟨-, isFound⟩
    · exact avoids
    · exact passed.beside.others other found isOther isFound
  · rw [World.get?_place, if_neg different.symm]
    cases world.wrappers.get? own.handle <;> rfl

/-- The caller's side has changed, but not the wrapper's part of it. -/
theorem share {shared : Shared σ} (passed : Passed own start world)
    (same : own.view shared = own.view world.shared) :
    Passed own start { world with shared := shared } := by
  refine passed.trans ⟨⟨passed.beside.sole, passed.beside.others⟩, rfl, same, [],
    (List.append_nil _).symm, by simp, ?_⟩
  cases world.wrappers.get? own.handle <;> rfl

/-- The script that is handed over belongs to nobody. -/
theorem script (passed : Passed own start world) (operations : List EngineOperation) :
    Passed own start { world with script := operations } := by
  refine passed.trans ⟨⟨passed.beside.sole, passed.beside.others⟩, rfl, rfl, [],
    (List.append_nil _).symm, by simp, ?_⟩
  cases world.wrappers.get? own.handle <;> rfl

end Passed

end RecompilerAdapter
