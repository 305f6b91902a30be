/-
Module: RecompilerAdapter.Proofs.CallbackCalls
Purpose: The calls that an engine makes while its wrapper is inside a run. From a call to its return, the
  engine is not at work, so only the actions on its wrapper change it, and the lent part comes back as it
  was.
Trusted boundary: none
Main exports: AlikeBeyond, Attends, Called, Stepping.lending_ensures, Stepping.ask_ensures,
  Callback.run_ensures
-/
import RecompilerAdapter.Proofs.Bystanders
import RecompilerAdapter.Proofs.EncodedSteps
import RecompilerAdapter.Proofs.HandleIdentity

namespace RecompilerAdapter

variable {σ ν α : Type} {world middle after : World σ ν} {handle : Handle} {wrapper : Wrapper σ ν}
  {bound : Nat}

/-! ### What a guest sees -/

/-- The registers of an engine: the core registers, the extension registers and the two status
words. -/
def Engine.guestState (engine : Engine σ ν) : Registers × ExtensionRegisters × UInt32 × UInt32 :=
  (engine.registers, engine.extensionRegisters, engine.programStatus, engine.floatingPointStatus)

/-- A body that writes nothing that a guest sees: neither the registers behind the handle nor any
word of the caller. -/
def Activity.KeepsGuest (perform : Performer σ ν) (handle : Handle) (body : Activity σ ν α) : Prop :=
  ∀ world wrapper, world.wrappers.get? handle = some wrapper →
    (body.exec perform).Ensures world (fun _ after => after.shared.words = world.shared.words ∧
      ∀ later, after.wrappers.get? handle = some later →
        later.engine.guestState = wrapper.engine.guestState) fun _ _ => True

/-- Two worlds are the same but for their histories, the words of the caller, and the wrapper behind
the handle. -/
structure AlikeBeyond (handle : Handle) (before after : World σ ν) : Prop where
  own : after.shared.own = before.shared.own
  slots : after.slots = before.slots
  built : after.built = before.built
  script : after.script = before.script
  others : ∀ other, other ≠ handle → after.wrappers.get? other = before.wrappers.get? other

namespace AlikeBeyond

/-- Two worlds that are alike to a third one are alike. -/
theorem trans (first : AlikeBeyond handle world middle) (second : AlikeBeyond handle middle after) :
    AlikeBeyond handle world after where
  own := second.own.trans first.own
  slots := second.slots.trans first.slots
  built := second.built.trans first.built
  script := second.script.trans first.script
  others other different := (second.others other different).trans (first.others other different)

/-- Events are not among what is compared. -/
theorem recordAll (world : World σ ν) (events : List (Event ν)) :
    AlikeBeyond handle world (world.recordAll events) :=
  ⟨by simp, by simp, by simp, by simp, fun _ _ => by simp⟩

/-- Nor is the wrapper itself. -/
theorem place (world : World σ ν) (wrapper : Wrapper σ ν) :
    AlikeBeyond handle world (world.place handle wrapper) :=
  ⟨rfl, rfl, rfl, rfl, fun other different => by rw [World.get?_place, if_neg different]⟩

end AlikeBeyond

/-! ### Wrappers inside a run -/

namespace Wrapper

/-- The slot of the wrapper's bridges. -/
def slot (wrapper : Wrapper σ ν) : HandleSlot :=
  wrapper.engine.configuration.callbacks.slot

/-- The wrapper with other parts of its engine lent out. -/
def lend (parts : List EnginePart) (wrapper : Wrapper σ ν) : Wrapper σ ν :=
  { wrapper with engine := Stepping.setLentParts parts wrapper.engine }

/-- The wrapper's engine is a stepping one that has lent out nothing. Each call lends out the part
that it uses, and engines make no call inside a call. -/
def Idle (wrapper : Wrapper σ ν) : Prop :=
  wrapper.engine.mode = .stepping []

end Wrapper

/-- The bridges of the wrapper behind a handle share a slot that is bound to the handle, and nobody
else has to do with it. -/
structure Installed (world : World σ ν) (handle : Handle) (wrapper : Wrapper σ ν) : Prop where
  present : world.wrappers.get? handle = some wrapper
  slot : world.slots.get? wrapper.slot = some handle
  bridges : ∀ bridge, some bridge ∈ wrapper.engine.configuration.coprocessors →
    bridge.slot = wrapper.slot
  beside : Beside (.plain handle wrapper.slot) world

/-- The wrapper behind a handle is inside a run. As long as it is, no other run of it is accepted,
so callbacks can change its registers but not its place in the run. -/
structure Attends (world : World σ ν) (handle : Handle) (wrapper : Wrapper σ ν) : Prop
    extends Installed world handle wrapper where
  running : wrapper.state = .running

/-- The only wrapper of a world is installed there if the only slot is its own. Worlds of witnesses
are of this kind. -/
theorem Installed.of_sole (wrappers : world.wrappers = ⟨[(handle, wrapper)]⟩)
    (slots : world.slots = ⟨#[handle]⟩) (notNull : handle.isNull = false) (slot : wrapper.slot = ⟨0⟩)
    (bridges : ∀ bridge, some bridge ∈ wrapper.engine.configuration.coprocessors →
      bridge.slot = wrapper.slot) : Installed world handle wrapper where
  present := by
    rw [wrappers]
    simp [Registry.get?]
  slot := by
    rw [slots, slot]
    simp [HandleSlots.get?, HandleSlots.isBound, HandleSlots.binding, notNull]
  bridges := bridges
  beside := by
    constructor
    · rintro ⟨index⟩ isBound
      cases index with
      | zero => exact slot.symm
      | succ index =>
        rw [slots] at isBound
        simp [HandleSlots.get?, HandleSlots.isBound, HandleSlots.binding, Handle.isNull,
          Handle.null] at isBound
    · intro other found different isFound
      have isOther : handle ≠ other := different.symm
      rw [wrappers] at isFound
      simp [Registry.get?, isOther] at isFound

/-- The wrapper has changed, but not the configuration of its engine. -/
theorem Installed.place (installed : Installed world handle wrapper) {replacement : Wrapper σ ν}
    (configuration : replacement.engine.configuration = wrapper.engine.configuration) :
    Installed (world.place handle replacement) handle replacement := by
  have slot : replacement.slot = wrapper.slot := by
    rw [Wrapper.slot, configuration, Wrapper.slot]
  refine ⟨by simp, ?_, ?_, ?_, ?_⟩
  · rw [slot]
    exact installed.slot
  · rw [configuration, slot]
    exact installed.bridges
  · rw [slot]
    exact installed.beside.sole
  · intro other found different isFound
    have isOther : other ≠ handle := different
    rw [World.get?_place, if_neg isOther] at isFound
    rw [slot]
    exact installed.beside.others other found different isFound

/-- Telling of events leaves a wrapper installed. -/
theorem Installed.recordAll (installed : Installed world handle wrapper) (events : List (Event ν)) :
    Installed (world.recordAll events) handle wrapper := by
  induction events generalizing world with
  | nil => exact installed
  | cons event events ih =>
    refine ih ⟨installed.present, installed.slot, installed.bridges, ?_⟩
    exact ⟨installed.beside.sole, installed.beside.others⟩

namespace Attends

variable (attends : Attends world handle wrapper)

include attends

/-- A wrapper that attends to a run does so whatever is told. -/
theorem recordAll (events : List (Event ν)) : Attends (world.recordAll events) handle wrapper :=
  ⟨attends.toInstalled.recordAll events, attends.running⟩

/-- The same for one event. -/
theorem record (event : Event ν) : Attends (world.record event) handle wrapper :=
  attends.recordAll [event]

/-- Nor does it matter what callers do to their own state. -/
theorem share (shared : Shared σ) : Attends { world with shared := shared } handle wrapper :=
  { attends with beside := ⟨attends.beside.sole, attends.beside.others⟩ }

/-- The wrapper's own engine has changed. -/
theorem place {replacement : Wrapper σ ν} (running : replacement.state = .running)
    (configuration : replacement.engine.configuration = wrapper.engine.configuration) :
    Attends (world.place handle replacement) handle replacement :=
  ⟨attends.toInstalled.place configuration, running⟩

/-- A wrapper that lends out parts attends on. -/
theorem lend (parts : List EnginePart) :
    Attends (world.place handle (wrapper.lend parts)) handle (wrapper.lend parts) := by
  refine attends.place attends.running ?_
  unfold Wrapper.lend Stepping.setLentParts
  split <;> rfl

end Attends

/-- A body has been carried out for the wrapper behind a handle. The wrapper is as the actions on it
have made it, and nothing else has happened on its behalf than what `opening` and `closing` tell. -/
structure Called (perform : Performer σ ν) (handle : Handle) (wrapper : Wrapper σ ν)
    (body : Activity σ ν α) (opening closing : List (Event ν)) (world after : World σ ν)
    (events : List (Event ν)) : Prop where
  history : after.history = world.history ++ (opening ++ events ++ closing)
  foreign : ∀ event ∈ events, event.belongs (.plain (σ := σ) handle wrapper.slot) = false
  attends : Attends after handle (wrapper.replay handle events)
  keeps : body.KeepsGuest perform handle → after.shared.words = world.shared.words ∧
    (wrapper.replay handle events).engine.guestState = wrapper.engine.guestState
  registers : body.KeepsRegisters perform handle →
    (wrapper.replay handle events).engine.registers = wrapper.engine.registers

/-- Of what happens in the course of a call, the engine itself tells how it opens and closes. -/
theorem Called.work {performer : Performer σ ν} {body : Activity σ ν α}
    {opening closing inside : List (Event ν)}
    (called : Called performer handle wrapper body opening closing world after inside) :
    (opening ++ inside ++ closing).filter (Event.belongs (.plain (σ := σ) handle wrapper.slot)) =
      (opening ++ closing).filter (Event.belongs (.plain (σ := σ) handle wrapper.slot)) := by
  have none : inside.filter (Event.belongs (.plain (σ := σ) handle wrapper.slot)) = [] := by
    rw [List.filter_eq_nil_iff]
    intro event isMember
    rw [called.foreign event isMember]
    exact Bool.false_ne_true
  rw [List.filter_append, List.filter_append, none, List.append_nil, List.filter_append]

/-- While a body is carried out, the wrapper becomes what the actions in it make of it, and nothing
else happens on its behalf. This combines three facts that are known of the body: that it comes
back, that it belongs to nobody's work but its own, and that the wrapper follows its actions. -/
theorem Attends.exec (attends : Attends world handle wrapper) {body : Activity σ ν α}
    {completed : α → World σ ν → Prop} {stopped : Stop → World σ ν → Prop}
    (ensures : (body.exec (perform bound)).Ensures world completed stopped) :
    (body.exec (perform bound)).Ensures world (fun answer after => completed answer after ∧
      ∃ events, Called (perform bound) handle wrapper body [] [] world after events) stopped := by
  have running (found : Wrapper σ ν) (isFound : world.wrappers.get? handle = some found) :
      found.state = .running := by
    rw [attends.present] at isFound
    cases isFound
    exact attends.running
  have avoids : body.Avoids (.plain handle wrapper.slot) fun _ => True :=
    Activity.avoids_plain (fun _ => trivial) body
  have passes := Activity.exec_aside (perform_aside rfl running bound) avoids world (.refl attends.beside)
  -- The facts are about the same computation, so they can be put together once it is known how it
  -- ends.
  unfold Exec.Ensures at ensures passes ⊢
  cases ends : body.exec (perform bound) world with
  | error stop after =>
    rw [ends] at ensures
    exact ensures
  | ok answer after =>
    rw [ends] at ensures passes
    obtain ⟨passed, -⟩ := passes
    obtain ⟨events, history, foreign, replays⟩ := passed.told
    have present := replays.trans (congrArg _ attends.present)
    have slot : (wrapper.replay handle events).slot = wrapper.slot := by
      rw [Wrapper.slot, Wrapper.replay_configuration, Wrapper.slot]
    refine ⟨ensures, events, by simpa using history, foreign,
      ⟨⟨present, ?_, ?_, ?_⟩, attends.running⟩, ?_, ?_⟩
    · rw [slot]
      exact passed.slot.trans attends.slot
    · rw [slot, Wrapper.replay_configuration]
      exact attends.bridges
    · rw [slot]
      exact passed.beside
    · intro quiet
      have kept := (quiet world wrapper attends.present).of_completed ends
      exact ⟨kept.1, kept.2 _ present⟩
    · intro quiet
      exact quiet world after wrapper _ answer attends.present ends present

/-! ### Lending and giving back -/

/-- It does not matter whether an action changes an engine before or after a part is lent out. -/
theorem Engine.afterEvent_setLentParts (parts : List EnginePart) (engine : Engine σ ν)
    (event : Event ν) : (Stepping.setLentParts parts engine).afterEvent handle event =
      Stepping.setLentParts parts (engine.afterEvent handle event) := by
  unfold afterEvent
  split
  · rename_i action _
    split
    · cases action <;> unfold Stepping.setLentParts <;> cases engine with
        | mk _ _ _ _ _ _ mode => cases mode <;> rfl
    · rfl
  · rfl

namespace Wrapper

/-- So the actions of a whole call may be applied before or after. -/
theorem replay_lend (parts : List EnginePart) (events : List (Event ν)) :
    (wrapper.lend parts).replay handle events = (wrapper.replay handle events).lend parts := by
  have same (engine : Engine σ ν) :
      events.foldl (Engine.afterEvent handle) (Stepping.setLentParts parts engine) =
        Stepping.setLentParts parts (events.foldl (Engine.afterEvent handle) engine) := by
    induction events generalizing engine with
    | nil => rfl
    | cons event events ih => rw [List.foldl_cons, Engine.afterEvent_setLentParts, ih, List.foldl_cons]
  rw [replay, lend, same, lend, replay]

/-- Lending out parts does not exchange bridges. -/
@[simp] theorem lend_slot (parts : List EnginePart) : (wrapper.lend parts).slot = wrapper.slot := by
  unfold lend slot Stepping.setLentParts
  split <;> rfl

/-- Nor the configuration. -/
@[simp] theorem lend_configuration (parts : List EnginePart) :
    (wrapper.lend parts).engine.configuration = wrapper.engine.configuration := by
  unfold lend Stepping.setLentParts
  split <;> rfl

/-- Nor anything that a guest sees. -/
@[simp] theorem lend_guestState (parts : List EnginePart) :
    (wrapper.lend parts).engine.guestState = wrapper.engine.guestState := by
  unfold lend Stepping.setLentParts
  split <;> rfl

/-- In particular no register. -/
@[simp] theorem lend_registers (parts : List EnginePart) :
    (wrapper.lend parts).engine.registers = wrapper.engine.registers :=
  Stepping.setLentParts_registers parts wrapper.engine

/-- What is lent out comes back. -/
theorem Idle.giveBack (idle : wrapper.Idle) (part : EnginePart) :
    { wrapper.lend [part] with
      engine := Stepping.setLentParts ((Stepping.lentParts (wrapper.lend [part]).engine).erase part)
        (wrapper.lend [part]).engine } = wrapper := by
  unfold Idle at idle
  obtain ⟨userData, state, engine⟩ := wrapper
  cases engine
  cases idle
  simp [lend, Stepping.lentParts, Stepping.setLentParts]

/-- No action of others makes an engine lend out something. -/
theorem Idle.replay (idle : wrapper.Idle) (events : List (Event ν)) :
    (wrapper.replay handle events).Idle := by
  rw [Idle, replay_mode]
  exact idle

end Wrapper

/-- A call from an engine that has lent out the part that makes it, once the part has come back.
Lending is undone, so the call is one of the engine as it was. -/
theorem Called.giveBack {part : EnginePart} {body : Activity σ ν α} {performer : Performer σ ν}
    {entered inner : World σ ν} {events : List (Event ν)} (opening closing : List (Event ν))
    (called : Called performer handle (wrapper.lend [part]) body [] [] entered inner events)
    (history : entered.history = world.history ++ opening)
    (words : entered.shared.words = world.shared.words) :
    Called performer handle wrapper body opening closing world
      ((inner.recordAll closing).place handle (wrapper.replay handle events)) events where
  history := by
    have inside := called.history
    simp only [List.nil_append, List.append_nil] at inside
    rw [World.history_place, World.history_recordAll, inside, history]
    simp
  foreign := by
    have foreign := called.foreign
    rwa [Wrapper.lend_slot] at foreign
  attends := by
    have running := called.attends.running
    refine (called.attends.recordAll closing).place running ?_
    rw [Wrapper.replay_lend, Wrapper.lend_configuration]
  keeps quiet := by
    have kept := called.keeps quiet
    rw [Wrapper.replay_lend, Wrapper.lend_guestState, Wrapper.lend_guestState] at kept
    refine ⟨?_, kept.2⟩
    show (inner.recordAll closing).shared.words = _
    rw [World.shared_recordAll, kept.1, words]
  registers quiet := by
    have kept := called.registers quiet
    rwa [Wrapper.replay_lend, Wrapper.lend_registers, Wrapper.lend_registers] at kept

namespace Stepping

variable {stopped : Stop → World σ ν → Prop}

/-- Lending out a part for a computation after which the wrapper is as the actions on it have made
it. -/
theorem lending_ensures (attends : Attends world handle wrapper) (idle : wrapper.Idle)
    {part : EnginePart} {body : Exec σ ν α} {completed : α → World σ ν → Prop}
    (inside : body.Ensures (world.place handle (wrapper.lend [part])) (fun answer middle =>
      ∃ events, middle.wrappers.get? handle = some ((wrapper.lend [part]).replay handle events) ∧
        completed answer (middle.place handle (wrapper.replay handle events))) stopped) :
    (lending handle part body).Ensures world completed stopped := by
  unfold Exec.Ensures
  rw [lending_eq attends.present idle]
  apply Exec.Ensures.after (Exec.modifyEngine_of_present attends.present _)
  apply inside.bind
  rintro answer middle ⟨events, present, holds⟩
  rw [Wrapper.replay_lend] at present
  apply Exec.Ensures.after (Exec.modifyEngine_of_present present _)
  rw [(idle.replay events).giveBack part]
  exact holds

/-- Making a request that is served is calling the entry for it. Whatever is known of the entry's
execution, from the world in which the callbacks are lent out, is known of the request. -/
theorem ask_ensures (attends : Attends world handle wrapper) (idle : wrapper.Idle)
    {request : HostRequest} {entry : Handle → Activity σ ν request.Answer}
    (served : wrapper.engine.configuration.callbacks.table.entry? request = some entry)
    {completed : request.Answer → World σ ν → Prop}
    (answers : ((entry handle).exec (perform bound)).Ensures
      ((world.place handle (wrapper.lend [.callbacks])).recordAll
        [.calling wrapper.slot request true, .requested handle request]) completed stopped) :
    (ask (perform bound) handle request).Ensures world (fun answer after => ∃ inner events,
      completed answer inner ∧
      inner.history = ((world.place handle (wrapper.lend [.callbacks])).recordAll
        [.calling wrapper.slot request true, .requested handle request]).history ++ events ∧
      AlikeBeyond handle inner after ∧
      Called (perform bound) handle wrapper (entry handle)
        [.calling wrapper.slot request true, .requested handle request]
        [.answered handle request (request.report answer)] world after events) stopped := by
  apply lending_ensures attends idle
  have lent := attends.lend [.callbacks]
  apply Exec.Ensures.after (Exec.engine_of_present lent.present)
  have isBound := lent.slot
  have still : (wrapper.lend [.callbacks]).engine.configuration.callbacks.table.entry? request =
      some entry := by
    rw [Wrapper.lend_configuration]
    exact served
  unfold Exec.Ensures
  rw [CallbackBridge.forward_bound isBound _ still]
  have sameSlot : (wrapper.lend [.callbacks]).engine.configuration.callbacks.slot = wrapper.slot :=
    Wrapper.lend_slot _
  rw [sameSlot]
  apply ((lent.recordAll _).exec answers).bind
  rintro answer inner ⟨holds, events, called⟩
  refine ⟨events, called.attends.present, inner, events, holds, ?_, ?_, ?_⟩
  · simpa using called.history
  · exact (AlikeBeyond.recordAll inner [_]).trans (.place _ _)
  · exact .giveBack [_, _] [_] called (by simp) rfl

/-- Asking the coprocessor in a populated slot is calling the entry for the request. The answer is
bound to the handle after the entry has returned. -/
theorem withCoprocessor_ensures (attends : Attends world handle wrapper) (idle : wrapper.Idle)
    {slot : Fin 16} {bridge : CoprocessorBridge σ ν}
    (populated : wrapper.engine.configuration.coprocessors[slot] = some bridge)
    {request : CompileRequest}
    {completed : WireCompiled (DeferredFunction σ ν) → World σ ν → Prop}
    (answers : ((bridge.table.answer request).exec (perform bound)).Ensures
      ((world.place handle (wrapper.lend [.coprocessors])).recordAll
        [.compiling wrapper.slot bridge.index bridge.table.context request]) completed stopped) :
    (withCoprocessor handle slot fun bridge => bridge.compile (perform bound) request).Ensures world
      (fun compiled after => ∃ wire inner events, compiled = some (wire.decode handle) ∧
        completed wire inner ∧ AlikeBeyond handle inner after ∧
        Called (perform bound) handle wrapper (bridge.table.answer request)
          [.compiling wrapper.slot bridge.index bridge.table.context request]
          [.compiled wrapper.slot bridge.index bridge.table.context request wire.report] world after
          events) stopped := by
  apply lending_ensures attends idle
  have lent := attends.lend [.coprocessors]
  apply Exec.Ensures.after (Exec.engine_of_present lent.present)
  rw [Wrapper.lend_configuration, populated]
  have sameSlot : bridge.slot = wrapper.slot :=
    attends.bridges bridge (Vector.mem_of_getElem populated)
  dsimp only
  rw [CoprocessorBridge.compile_eq, CoprocessorBridge.consult, sameSlot]
  simp only [bind_assoc, pure_bind]
  apply Exec.Ensures.emit_bind
  apply ((lent.record _).exec answers).bind
  rintro wire inner ⟨holds, events, called⟩
  apply Exec.Ensures.emit_bind
  have isBound : (inner.record (.compiled wrapper.slot bridge.index bridge.table.context request
      wire.report)).slots.get? wrapper.slot = some handle := by
    have bound := called.attends.slot
    rwa [Wrapper.slot, Wrapper.replay_configuration, Wrapper.lend_configuration] at bound
  apply Exec.Ensures.after (Exec.boundHandle_of_bound isBound)
  refine ⟨events, called.attends.present, wire, inner, events, rfl, holds, ?_, ?_⟩
  · exact (AlikeBeyond.recordAll inner [_]).trans (.place _ _)
  · exact .giveBack [_] [_] called (by simp) rfl

/-- An empty slot answers nothing, and nothing happens. -/
theorem withCoprocessor_empty (attends : Attends world handle wrapper) (idle : wrapper.Idle)
    {slot : Fin 16} (empty : wrapper.engine.configuration.coprocessors[slot] = none)
    (compile : CoprocessorBridge σ ν → Exec σ ν α) :
    (withCoprocessor handle slot compile).Ensures world (fun compiled after => compiled = none ∧
      AlikeBeyond handle world after ∧ after.history = world.history ∧
      after.shared = world.shared ∧ Attends after handle wrapper) stopped := by
  apply lending_ensures attends idle
  have lent := attends.lend [.coprocessors]
  apply Exec.Ensures.after (Exec.engine_of_present lent.present)
  rw [Wrapper.lend_configuration, empty]
  refine ⟨[], lent.present, rfl, (AlikeBeyond.place world _).trans (.place _ _), rfl, rfl, ?_⟩
  exact lent.place attends.running (Wrapper.lend_configuration _).symm

end Stepping

/-- Calling a deferred operation that is bound to the wrapper. -/
theorem Callback.run_ensures (attends : Attends world handle wrapper)
    {callback : Callback (DeferredFunction σ ν)} (own : callback.handle = handle)
    {first second : UInt32} {completed : UInt64 → World σ ν → Prop}
    {stopped : Stop → World σ ν → Prop}
    (answers : ((callback.call first second).exec (perform bound)).Ensures
      (world.record (.invoked handle callback.userArgument first second)) completed stopped) :
    (callback.run (perform bound) first second).Ensures world (fun answer after =>
      completed answer after ∧ ∃ events, Called (perform bound) handle wrapper
        (callback.call first second) [.invoked handle callback.userArgument first second] [] world after
        events) stopped := by
  unfold run
  rw [own]
  apply Exec.Ensures.emit_bind
  apply ((attends.record _).exec answers).mono ?_ fun _ _ holds => holds
  rintro answer after ⟨holds, events, called⟩
  exact ⟨holds, events, by simpa using called.history, called.foreign, called.attends, called.keeps,
    called.registers⟩

end RecompilerAdapter
