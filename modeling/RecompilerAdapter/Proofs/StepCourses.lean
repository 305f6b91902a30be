/-
Module: RecompilerAdapter.Proofs.StepCourses
Purpose: The course of a step. A step is a sequence of calls and of changes that the engine makes itself;
  what the engine does on its own behalf on the way is told by a short list of events, whatever its
  callbacks do in between. How callbacks end is a parameter: from the worlds in which they may be called
  they leave such worlds behind, or they stop.
Trusted boundary: none
Main exports: HaltRequested, Service, Service.Course, Service.Executed, Service.Stepped,
  Service.Conducted.step
-/
import RecompilerAdapter.Proofs.CallbackCalls
import RecompilerAdapter.Proofs.MirroredEngines

namespace RecompilerAdapter

variable {σ ν α : Type} {world middle after : World σ ν} {wrapper amid later : Wrapper σ ν}
  {handle : Handle} {events further own more : List (Event ν)}

/-! ### Requests to halt -/

/-- Of all events, only a halt of the wrapper itself sets the flag of its engine, and no event takes
it back: that is the engine's own work. -/
theorem Engine.afterEvent_haltRequested (engine : Engine σ ν) (event : Event ν) :
    (engine.afterEvent handle event).haltRequested = true ↔
      engine.haltRequested = true ∨ ∃ surface reply, event = .acted surface handle .halt reply := by
  unfold afterEvent
  split
  · rename_i surface target action reply
    by_cases same : target = handle
    · subst same
      rw [if_pos rfl]
      cases action <;> simp [Action.adjustment?, withRegister, withExtensionRegister]
    · rw [if_neg same]
      constructor
      · exact .inl
      · rintro (holds | ⟨_, _, ⟨⟩⟩)
        · exact holds
        · exact (same rfl).elim
  · rename_i other
    constructor
    · exact .inl
    · rintro (holds | ⟨surface, reply, rfl⟩)
      · exact holds
      · exact (other surface handle .halt reply rfl).elim

/-- A halt of the wrapper behind a handle has been requested. Requests are told as actions, so this
is known from the events alone. -/
def HaltRequested (handle : Handle) (events : List (Event ν)) : Prop :=
  ∃ surface reply, .acted surface handle .halt reply ∈ events

/-- A request that a history tells of is told of by one of its parts, so the events of a step may be
gone through call by call. -/
theorem haltRequested_append : HaltRequested handle (events ++ further) ↔
    HaltRequested handle events ∨ HaltRequested handle further := by
  unfold HaltRequested
  simp only [List.mem_append, exists_or]

/-- While its engine waits, a wrapper has its flag set exactly if it was set before or the history
tells of a request. -/
theorem Wrapper.replay_haltRequested (wrapper : Wrapper σ ν) (events : List (Event ν)) :
    (wrapper.replay handle events).engine.haltRequested = true ↔
      wrapper.engine.haltRequested = true ∨ HaltRequested handle events := by
  induction events using List.reverseRecOn with
  | nil => simp [HaltRequested]
  | append_singleton events event ih =>
    rw [replay_append, haltRequested_append, ← or_assoc, ← ih]
    refine (Engine.afterEvent_haltRequested _ event).trans (or_congr_right ?_)
    simp [HaltRequested, eq_comm]

/-- No register is written but by an action that writes it. -/
theorem Wrapper.replay_register (wrapper : Wrapper σ ν) {number : RegisterNumber}
    {events : List (Event ν)} (unwritten : ∀ surface value reply,
      .acted surface handle (.setRegister number value) reply ∉ events) :
    (wrapper.replay handle events).engine.registers.get number =
      wrapper.engine.registers.get number := by
  refine replay_engine (fun engine => engine.registers.get number) ?_
  intro surface action reply isMember update adjusts engine
  cases action with
  | setRegister other value =>
    cases adjusts
    have different : other ≠ number := by
      rintro rfl
      exact unwritten surface value reply isMember
    exact Vector.getElem_set_ne other.isLt number.isLt fun same => different (Fin.ext same)
  | halt | setExtensionRegister | setProgramStatus | setFloatingPointStatus =>
    cases adjusts
    rfl
  | _ => cases adjusts

/-- A deferred operation in an answer is bound to the handle that the answer was read for. -/
theorem WireCompiled.handle_of_callback? {wire : WireCompiled (DeferredFunction σ ν)}
    {callback : Callback (DeferredFunction σ ν)}
    (holds : Scripted.callback? (wire.decode handle) = some callback) : callback.handle = handle := by
  cases wire with
  | operation answer => exact (WireCallback.reported holds).1
  | oneWord answer | twoWords answer =>
    cases answer <;> cases holds
    rfl

/-! ### What callbacks leave behind -/

/-- The circumstances under which an engine makes its calls: the bound on the nesting of runs, the
wrapper's handle, the engine's configuration, the worlds in which its callbacks may be called, and
how they may stop. -/
structure Service (σ ν : Type) where
  bound : Nat
  handle : Handle
  configuration : EngineConfiguration σ ν
  ready : World σ ν → Prop
  stopped : Stop → World σ ν → Prop

namespace Service

variable (service : Service σ ν)

/-- The wrapper is inside a run, and its callbacks may be called. -/
structure Open (world : World σ ν) (wrapper : Wrapper σ ν) : Prop where
  attends : Attends world service.handle wrapper
  configuration : wrapper.engine.configuration = service.configuration
  ready : service.ready world

/-- A body that leaves a world behind in which callbacks may be called, and an answer that `answers`
accepts, or stops as it may. -/
def Returns (body : Activity σ ν α) (answers : α → Prop) : Prop :=
  ∀ world wrapper, service.Open world wrapper →
    (body.exec (perform service.bound)).Ensures world
      (fun answer after => service.ready after ∧ answers answer) service.stopped

/-- All callbacks that executing instructions may call return, wherever they may be called. This is
the only assumption about a host; what its callbacks do meanwhile is free. -/
structure Conducted : Prop where
  alike : ∀ before after, service.ready before → AlikeBeyond service.handle before after →
    service.ready after
  entries : ∀ request entry, Stepping.Guest request →
    service.configuration.callbacks.table.entry? request = some entry →
      service.Returns (entry service.handle) fun _ => True
  compiles : ∀ bridge request, some bridge ∈ service.configuration.coprocessors →
    service.Returns (bridge.table.answer request) fun wire => ∀ callback,
      Scripted.callback? (wire.decode service.handle) = some callback →
        ∀ first second, service.Returns (callback.call first second) fun _ => True

/-- The engine is between two calls. In this state it makes requests, compiles and executes, and to
this state each of these returns. -/
structure Rests (world : World σ ν) (wrapper : Wrapper σ ν) : Prop extends service.Open world wrapper where
  idle : wrapper.Idle

/-- From one rest to another, `events` have been recorded, of which `own` are the engine's own. All
others were told by callbacks, so a statement about `own` is about what the engine itself does. -/
structure Course (world : World σ ν) (wrapper : Wrapper σ ν) (after : World σ ν) (later : Wrapper σ ν)
    (events own : List (Event ν)) : Prop where
  rests : service.Rests after later
  history : after.history = world.history ++ events
  work : events.filter (Event.belongs (.plain (σ := σ) service.handle wrapper.slot)) = own
  halts : later.engine.haltRequested = true ↔
    wrapper.engine.haltRequested = true ∨ HaltRequested service.handle events

variable {service}

/-- The wrapper's bridges share the slot that the service names, so its own events can be told from
others by either. -/
theorem Open.slot (isOpen : service.Open world wrapper) :
    wrapper.slot = service.configuration.callbacks.slot := by
  rw [Wrapper.slot, isOpen.configuration]

namespace Course

/-- Resting takes no time. -/
theorem refl (rests : service.Rests world wrapper) :
    service.Course world wrapper world wrapper [] [] :=
  ⟨rests, (List.append_nil _).symm, rfl, by simp [HaltRequested]⟩

/-- Courses follow one another. The engine's own events are told by the wrapper's slot, and the
second course starts with the same configuration, so both courses tell them by the same slot. -/
theorem trans (first : service.Course world wrapper middle amid events own)
    (rests : service.Rests world wrapper)
    (second : service.Course middle amid after later further more) :
    service.Course world wrapper after later (events ++ further) (own ++ more) where
  rests := second.rests
  history := by rw [second.history, first.history, List.append_assoc]
  work := by
    have same : amid.slot = wrapper.slot := by rw [first.rests.slot, rests.slot]
    rw [List.filter_append, first.work, ← same, second.work]
  halts := by rw [second.halts, first.halts, haltRequested_append, or_assoc]

/-- The engine has changed itself. -/
theorem place (course : service.Course world wrapper after later events own)
    (conducted : service.Conducted) {replacement : Wrapper σ ν} (state : replacement.state = later.state)
    (configuration : replacement.engine.configuration = later.engine.configuration)
    (mode : replacement.engine.mode = later.engine.mode)
    (flag : replacement.engine.haltRequested = later.engine.haltRequested) :
    service.Course world wrapper (after.place service.handle replacement) replacement events own where
  rests := by
    have rests := course.rests
    refine ⟨⟨rests.attends.place (state.trans rests.attends.running) configuration,
      configuration.trans rests.configuration, ?_⟩, mode.trans rests.idle⟩
    exact conducted.alike after _ rests.ready (.place after replacement)
  history := course.history
  work := course.work
  halts := by rw [flag, course.halts]

/-- The engine has written a word of the caller. -/
theorem store (course : service.Course world wrapper after later events own)
    (conducted : service.Conducted) (words : WordStore) :
    service.Course world wrapper { after with shared := { after.shared with words := words } } later
      events own where
  rests :=
    { course.rests with
      attends := course.rests.attends.share _
      ready := conducted.alike after _ course.rests.ready ⟨rfl, rfl, rfl, rfl, fun _ _ => rfl⟩ }
  history := course.history
  work := course.work
  halts := course.halts

/-- The engine has told of its own work. -/
theorem record (course : service.Course world wrapper after later events own)
    (conducted : service.Conducted) {event : Event ν}
    (belongs : event.belongs (.plain (σ := σ) service.handle wrapper.slot) = true)
    (noHalt : ∀ surface handle reply, event ≠ .acted surface handle .halt reply) :
    service.Course world wrapper (after.record event) later (events ++ [event]) (own ++ [event]) where
  rests :=
    { course.rests with
      attends := course.rests.attends.record event
      ready := conducted.alike after _ course.rests.ready (.recordAll after [event]) }
  history := by rw [World.history_record, course.history, List.append_assoc]
  work := by simp [course.work, belongs]
  halts := by
    rw [course.halts, haltRequested_append]
    have none : ¬ HaltRequested service.handle [event] := by
      rintro ⟨surface, reply, isMember⟩
      exact noHalt surface service.handle reply (List.mem_singleton.1 isMember).symm
    simp [none]

/-- Events that belong to the engine's own work are told in its course and nowhere else. -/
theorem filter_eq (course : service.Course world wrapper after later events own)
    {chosen : Event ν → Bool}
    (belong : ∀ event, chosen event = true →
      event.belongs (.plain (σ := σ) service.handle wrapper.slot) = true) :
    events.filter chosen = own.filter chosen := by
  rw [← course.work, List.filter_filter]
  refine List.filter_congr fun event _ => ?_
  cases isChosen : chosen event with
  | false => rfl
  | true => rw [belong event isChosen, Bool.and_self]

end Course

/-- A call of a body is a course of which the engine's own part is what it tells itself. -/
theorem Rests.called (rests : service.Rests world wrapper) {body : Activity σ ν α}
    {opening closing : List (Event ν)} {performer : Performer σ ν}
    (called : Called performer service.handle wrapper body opening closing world after events)
    (ready : service.ready after)
    (belong : ∀ event ∈ opening ++ closing,
      event.belongs (.plain (σ := σ) service.handle wrapper.slot) = true)
    (noHalt : ¬ HaltRequested service.handle (opening ++ closing)) :
    service.Course world wrapper after (wrapper.replay service.handle events)
      (opening ++ events ++ closing) (opening ++ closing) where
  rests :=
    ⟨⟨called.attends, (Wrapper.replay_configuration events).trans rests.configuration, ready⟩,
      rests.idle.replay events⟩
  history := called.history
  work := called.work.trans (List.filter_eq_self.2 belong)
  halts := by
    rw [haltRequested_append, not_or] at noHalt
    rw [Wrapper.replay_haltRequested, haltRequested_append, haltRequested_append]
    simp [noHalt.1, noHalt.2]

/-! ### Calls -/

/-- Nothing that a guest sees has changed: no word that it shares with coprocessors and no
register. -/
structure GuestKept (world : World σ ν) (wrapper : Wrapper σ ν) (after : World σ ν)
    (later : Wrapper σ ν) : Prop where
  words : after.shared.words = world.shared.words
  registers : later.engine.guestState = wrapper.engine.guestState

/-- What an engine tells when it makes a request that is served. -/
def askedEvents (service : Service σ ν) (request : HostRequest) (answer : request.Answer) :
    List (Event ν) :=
  [.calling service.configuration.callbacks.slot request true, .requested service.handle request,
    .answered service.handle request (request.report answer)]

/-- How the coprocessor in a slot has answered a request, and what the engine has told of it. An
empty slot is not asked at all, which leaves no trace. -/
inductive Consulted (service : Service σ ν) (slot : Fin 16) (request : CompileRequest) :
    Option (Compiled (DeferredFunction σ ν)) → List (Event ν) → Prop where
  | empty (unpopulated : service.configuration.coprocessors[slot] = none) :
      Consulted service slot request none []
  | answered {bridge : CoprocessorBridge σ ν} {wire : WireCompiled (DeferredFunction σ ν)}
      (populated : service.configuration.coprocessors[slot] = some bridge)
      (answers : wire.Answers request) :
      Consulted service slot request (some (wire.decode service.handle))
        [.compiling service.configuration.callbacks.slot bridge.index bridge.table.context request,
          .compiled service.configuration.callbacks.slot bridge.index bridge.table.context request
            wire.report]

/-- The deferred operation that a compile answer may hold returns. Its handle is that of the
wrapper, as it was received through the wrapper's slot. -/
def Defers (service : Service σ ν) (compiled : Compiled (DeferredFunction σ ν)) : Prop :=
  ∀ callback, Scripted.callback? compiled = some callback → callback.handle = service.handle ∧
    ∀ first second, service.Returns (callback.call first second) fun _ => True

/-- The entry for a compile request in a slot, if there is one, writes nothing that a guest sees. -/
structure CompilesQuietly (service : Service σ ν) (slot : Fin 16) (request : CompileRequest) : Prop where
  entry : ∀ bridge, service.configuration.coprocessors[slot] = some bridge →
    (bridge.table.answer request).KeepsGuest (perform service.bound) service.handle

variable (conducted : service.Conducted)

include conducted

/-- Making a request that is served is calling the entry for it, in a world in which callbacks may
be called. -/
theorem Conducted.entered (rests : service.Rests world wrapper) {request : HostRequest}
    {entry : Handle → Activity σ ν request.Answer}
    (served : service.configuration.callbacks.table.entry? request = some entry)
    {completed : World σ ν → request.Answer → World σ ν → Prop} {stopped : Stop → World σ ν → Prop}
    (answers : ∀ start lent, service.Open start lent →
      ((entry service.handle).exec (perform service.bound)).Ensures start (completed start) stopped) :
    (Stepping.ask (perform service.bound) service.handle request).Ensures world
      (fun answer after => ∃ start inner inside, completed start answer inner ∧
        inner.history = start.history ++ inside ∧ AlikeBeyond service.handle inner after ∧
        Called (perform service.bound) service.handle wrapper (entry service.handle)
          [.calling wrapper.slot request true, .requested service.handle request]
          [.answered service.handle request (request.report answer)] world after inside) stopped := by
  have servedHere : wrapper.engine.configuration.callbacks.table.entry? request = some entry := by
    rw [rests.configuration]
    exact served
  have entered : service.Open ((world.place service.handle (wrapper.lend [.callbacks])).recordAll
      [.calling wrapper.slot request true, .requested service.handle request])
        (wrapper.lend [.callbacks]) := by
    refine ⟨(rests.attends.lend _).recordAll _, ?_, ?_⟩
    · rw [Wrapper.lend_configuration, rests.configuration]
    · exact conducted.alike world _ rests.ready ((AlikeBeyond.place _ _).trans (.recordAll _ _))
  apply (Stepping.ask_ensures rests.attends rests.idle servedHere (answers _ _ entered)).mono ?_
    fun _ _ holds => holds
  rintro answer after ⟨inner, inside, holds, history, alike, called⟩
  exact ⟨_, inner, inside, holds, history, alike, called⟩

/-- An engine at rest asks its host, and comes to a rest again. In between the entry is called with
the engine's handle; all that becomes of the wrapper is what the actions in that call do. -/
theorem Conducted.ask (rests : service.Rests world wrapper) {request : HostRequest}
    (guest : Stepping.Guest request) :
    (Stepping.ask (perform service.bound) service.handle request).Ensures world
      (fun answer after => ∃ entry inside events,
        service.configuration.callbacks.table.entry? request = some entry ∧
        service.Course world wrapper after (wrapper.replay service.handle inside) events
          (service.askedEvents request answer) ∧ inside ⊆ events ∧
        ((entry service.handle).KeepsGuest (perform service.bound) service.handle →
          GuestKept world wrapper after (wrapper.replay service.handle inside))) service.stopped := by
  obtain ⟨entry, served⟩ : ∃ entry,
      service.configuration.callbacks.table.entry? request = some entry := by
    cases guest <;> exact ⟨_, rfl⟩
  apply (conducted.entered rests served (conducted.entries request entry guest served)).mono ?_
    fun _ _ holds => holds
  rintro answer after ⟨start, inner, inside, ⟨isReady, -⟩, -, alike, called⟩
  have course := rests.called called (conducted.alike inner after isReady alike)
    (by simp [Event.belongs, Belongings.plain]) (by simp [HaltRequested])
  rw [rests.slot] at course
  exact ⟨entry, inside, _, served, course, by simp +contextual [List.subset_def], fun quiet =>
    ⟨(called.keeps quiet).1, (called.keeps quiet).2⟩⟩

/-- An engine at rest asks a coprocessor, and comes to a rest again. If the slot is empty, nothing
happens and there is no answer; otherwise a deferred operation in the answer may be called from any
rest, because `Conducted.compiles` says so of what the entry returns. -/
theorem Conducted.compile (rests : service.Rests world wrapper) (slot : Fin 16)
    (request : CompileRequest) :
    (Stepping.withCoprocessor service.handle slot fun bridge =>
      bridge.compile (perform service.bound) request).Ensures world
      (fun compiled after => ∃ later events own, service.Consulted slot request compiled own ∧
        service.Course world wrapper after later events own ∧
        (∀ answer, compiled = some answer → service.Defers answer) ∧
        (service.CompilesQuietly slot request → GuestKept world wrapper after later))
      service.stopped := by
  -- An empty slot is asked, too: the engine lends out its coprocessors before it looks.
  cases populated : service.configuration.coprocessors[slot] with
  | none =>
    have empty : wrapper.engine.configuration.coprocessors[slot] = none := by
      rw [rests.configuration, populated]
    apply (Stepping.withCoprocessor_empty rests.attends rests.idle empty _).mono ?_
      fun _ _ holds => holds
    rintro _ after ⟨rfl, alike, history, shared, attends⟩
    refine ⟨wrapper, [], [], .empty populated, ?_, nofun, fun _ => ⟨by rw [shared], rfl⟩⟩
    refine ⟨⟨⟨attends, rests.configuration, conducted.alike world after rests.ready alike⟩,
      rests.idle⟩, by rw [history, List.append_nil], rfl, by simp [HaltRequested]⟩
  | some bridge =>
    have employed : some bridge ∈ service.configuration.coprocessors :=
      Vector.mem_of_getElem populated
    have populatedHere : wrapper.engine.configuration.coprocessors[slot] = some bridge := by
      rw [rests.configuration, populated]
    have entered : service.Open ((world.place service.handle (wrapper.lend [.coprocessors])).recordAll
        [.compiling wrapper.slot bridge.index bridge.table.context request])
          (wrapper.lend [.coprocessors]) := by
      refine ⟨(rests.attends.lend _).recordAll _, ?_, ?_⟩
      · rw [Wrapper.lend_configuration, rests.configuration]
      · exact conducted.alike world _ rests.ready ((AlikeBeyond.place _ _).trans (.recordAll _ _))
    -- The service speaks of the entry's return and of deferred operations, the table of the kind of its
    -- answer; both are said of the same call.
    have returns := conducted.compiles bridge request employed _ _ entered
    have answers : ((bridge.table.answer request).exec (perform service.bound)).Ensures
        ((world.place service.handle (wrapper.lend [.coprocessors])).recordAll
          [.compiling wrapper.slot bridge.index bridge.table.context request])
        (fun wire _ => wire.Answers request) fun _ _ => True := by
      unfold Exec.Ensures
      split
      · exact bridge.table.answers ‹_›
      · trivial
    have asks := Stepping.withCoprocessor_ensures rests.attends rests.idle populatedHere
      ((returns.and answers).mono (fun _ _ holds => holds) fun _ _ holds => holds.1)
    apply asks.mono ?_ fun _ _ holds => holds
    rintro _ after ⟨wire, inner, inside, rfl, ⟨⟨isReady, defers⟩, isAnswer⟩, alike, called⟩
    have course := rests.called called (conducted.alike inner after isReady alike)
      (by simp [Event.belongs, Belongings.plain]) (by simp [HaltRequested])
    rw [rests.slot] at course
    refine ⟨_, _, _, .answered populated isAnswer, course, ?_, fun quiet => ?_⟩
    · rintro _ ⟨⟩ callback holds
      exact ⟨wire.handle_of_callback? holds, defers callback holds⟩
    · have kept := called.keeps (quiet.entry bridge populated)
      exact ⟨kept.1, kept.2⟩

/-! ### Uses of an answer -/

/-- What an engine tells when it uses an answer: nothing, if it accesses the caller's words, or that
it calls the deferred operation. -/
inductive Used (service : Service σ ν) : List (Event ν) → Prop where
  | accessed : Used service []
  | invoked (argument : UInt64) (first second : UInt32) :
      Used service [.invoked service.handle argument first second]

/-- An answer has been used from one world to another. -/
def Uses (service : Service σ ν) (world : World σ ν) (wrapper : Wrapper σ ν) (after : World σ ν) : Prop :=
  ∃ later events own, service.Course world wrapper after later events own ∧ service.Used own

omit conducted in
/-- An answer that is not used at all uses nothing. -/
theorem Rests.uses (rests : service.Rests world wrapper) : service.Uses world wrapper world :=
  ⟨wrapper, [], [], .refl rests, .accessed⟩

/-- The engine may write a register after it has used part of an answer: its own writes happen
between calls and are told by no event. -/
theorem Conducted.write (uses : service.Uses world wrapper after) (number : RegisterNumber)
    (value : UInt32) :
    (Stepping.writeRegister service.handle number value).Ensures after
      (fun _ => service.Uses world wrapper) service.stopped := by
  obtain ⟨later, events, own, course, used⟩ := uses
  unfold Exec.Ensures
  rw [Stepping.writeRegister, Exec.modifyEngine_of_present course.rests.attends.present]
  exact ⟨_, events, own, course.place conducted rfl rfl rfl rfl, used⟩

/-- The engine may store a word in a cell that it was granted, after it has used part of an
answer. -/
theorem Conducted.store (uses : service.Uses world wrapper after) (location : Location)
    (word : UInt32) :
    (Exec.storeWord location word).Ensures after (fun _ => service.Uses world wrapper)
      service.stopped := by
  obtain ⟨later, events, own, course, used⟩ := uses
  exact ⟨later, events, own, course.store conducted _, used⟩

/-- Calling the deferred operation of an answer is a use of it. The operation belongs to the
engine's own handle, so the call is one of the engine's own events. -/
theorem Conducted.invoke (rests : service.Rests world wrapper)
    {callback : Callback (DeferredFunction σ ν)} (own : callback.handle = service.handle)
    {first second : UInt32}
    (returns : service.Returns (callback.call first second) fun _ => True) :
    (callback.run (perform service.bound) first second).Ensures world
      (fun _ => service.Uses world wrapper) service.stopped := by
  have entered : service.Open
      (world.record (.invoked service.handle callback.userArgument first second)) wrapper :=
    ⟨rests.attends.record _, rests.configuration,
      conducted.alike world _ rests.ready (.recordAll world [_])⟩
  apply (callback.run_ensures rests.attends own (returns _ _ entered)).mono ?_ fun _ _ holds => holds
  rintro answer after ⟨⟨isReady, -⟩, inside, called⟩
  exact ⟨_, _, _, rests.called called isReady (by simp [Event.belongs, Belongings.plain])
    (by simp [HaltRequested]), .invoked callback.userArgument first second⟩

omit conducted in
/-- Reading a register happens at a rest and changes nothing, so the rest of the computation starts
at the same rest. -/
theorem Rests.read (rests : service.Rests world wrapper) (number : RegisterNumber)
    {next : UInt32 → Exec σ ν α} {completed : α → World σ ν → Prop}
    (rest : ∀ word, (next word).Ensures world completed service.stopped) :
    (Stepping.readRegister service.handle number >>= next).Ensures world completed service.stopped :=
  .after (Stepping.readRegister_of_present rests.attends.present number) (rest _)

/-- What has become of an instruction with an answer: it is not implemented and nothing has
happened, or the answer has been used. -/
structure Settled (service : Service σ ν) (world : World σ ν) (wrapper : Wrapper σ ν)
    (answer : CompileAnswer) (done : Bool) (after : World σ ν) : Prop where
  verdict : done = false ↔ answer = .unsupported
  refused : done = false → after = world
  implemented : done = true → service.Uses world wrapper after

omit conducted in
/-- What remains to be shown of an answer that was used: it was none that refuses. -/
theorem Settled.done {answer : CompileAnswer} (supported : answer ≠ .unsupported)
    (uses : service.Uses world wrapper after) : service.Settled world wrapper answer true after :=
  ⟨by simp [supported], nofun, fun _ => uses⟩

omit conducted in
/-- A coprocessor that refuses has its answer used up at once, with nothing done. -/
theorem Settled.refuse : service.Settled world wrapper .unsupported false world :=
  ⟨by simp, fun _ => rfl, nofun⟩

/-- An answer of the kind that was asked for is used, unless it says that the instruction is not
supported. -/
theorem Conducted.use (rests : service.Rests world wrapper) (instruction : CoprocessorInstruction)
    {wire : WireCompiled (DeferredFunction σ ν)} (answers : wire.Answers instruction.request)
    (defers : service.Defers (wire.decode service.handle)) :
    (Stepping.useCompiled (perform service.bound) service.handle instruction
      (some (wire.decode service.handle))).Ensures world
      (service.Settled world wrapper wire.report) service.stopped := by
  have runs (callback : Callback (DeferredFunction σ ν))
      (holds : Scripted.callback? (wire.decode service.handle) = some callback) (first second : UInt32) :=
    conducted.invoke rests (defers callback holds).1 ((defers callback holds).2 first second)
  have finishes {after : World σ ν} (supported : wire.report ≠ .unsupported)
      (uses : service.Uses world wrapper after) :
      (pure true : Exec σ ν Bool).Ensures after (service.Settled world wrapper wire.report)
        service.stopped :=
    .pure (.done supported uses)
  -- The kind of the answer determines which instructions can have asked for it. A deferred operation is run
  -- once; only then, or with no call at all, registers and words are written.
  cases wire with
  | operation answer =>
    cases answer with
    | absent => cases instruction <;> exact .refuse
    | present raw =>
      have runsRaw (first second : UInt32) := (runs (raw.bind service.handle) rfl first second).bind
        fun _ after uses => finishes nofun uses
      cases instruction with
      | internalOperation => exact runsRaw 0 0
      | loadWords | storeWords => exact rests.read _ fun word => runsRaw word 0
      | _ => exact answers.elim
  | oneWord answer =>
    cases answer with
    | absent => cases instruction <;> exact .refuse
    | callback raw =>
      have runsRaw := runs (raw.bind service.handle) rfl
      cases instruction with
      | sendOneWord =>
        exact rests.read _ fun word => (runsRaw word 0).bind fun _ after uses => finishes nofun uses
      | getOneWord =>
        exact (runsRaw 0 0).bind fun value after uses =>
          (conducted.write uses _ _).bind fun _ after uses => finishes nofun uses
      | _ => exact answers.elim
    | access location =>
      cases instruction with
      | sendOneWord =>
        exact rests.read _ fun word => (conducted.store rests.uses location word).bind
          fun _ after uses => finishes nofun uses
      | getOneWord =>
        exact .after rfl ((conducted.write rests.uses _ _).bind fun _ after uses =>
          finishes nofun uses)
      | _ => exact answers.elim
  | twoWords answer =>
    cases answer with
    | absent => cases instruction <;> exact .refuse
    | callback raw =>
      have runsRaw := runs (raw.bind service.handle) rfl
      cases instruction with
      | sendTwoWords =>
        exact rests.read _ fun low => rests.read _ fun high => (runsRaw low high).bind
          fun _ after uses => finishes nofun uses
      | getTwoWords =>
        exact (runsRaw 0 0).bind fun value after uses => (conducted.write uses _ _).bind
          fun _ after uses => (conducted.write uses _ _).bind fun _ after uses => finishes nofun uses
      | _ => exact answers.elim
    | access locations =>
      cases instruction with
      | sendTwoWords =>
        refine rests.read _ fun low => (conducted.store rests.uses _ low).bind ?_
        rintro _ after ⟨later, events, own, course, used⟩
        exact course.rests.read _ fun high =>
          (conducted.store ⟨later, events, own, course, used⟩ _ high).bind
            fun _ after uses => finishes nofun uses
      | getTwoWords =>
        exact .after rfl ((conducted.write rests.uses _ _).bind fun _ after uses =>
          .after rfl ((conducted.write uses _ _).bind fun _ after uses => finishes nofun uses))
      | _ => exact answers.elim

/-! ### Steps -/

/-- What an engine tells when it fetches a word: nothing if the word's page is mapped, and a read of
the word otherwise. -/
inductive Fetched (service : Service σ ν) (address word : UInt32) : List (Event ν) → Prop where
  | mapped : Fetched service address word []
  | asked : Fetched service address word (service.askedEvents (.read .word address) word.toBitVec)

/-- An engine at rest fetches a word. It finds it in its page table, which is a look at words of the
caller, or it asks its host. -/
theorem Conducted.fetch (rests : service.Rests world wrapper) (address : UInt32) :
    (Stepping.fetch (perform service.bound) service.handle address).Ensures world
      (fun word after => ∃ later events own, service.Fetched address word own ∧
        service.Course world wrapper after later events own ∧
        ((service.configuration.callbacks.table.read32 service.handle address).KeepsGuest
          (perform service.bound) service.handle → GuestKept world wrapper after later))
      service.stopped := by
  unfold Stepping.fetch
  apply Exec.Ensures.after (Exec.engine_of_present rests.attends.present)
  apply Exec.Ensures.get_bind
  dsimp only
  split
  · exact ⟨wrapper, [], [], .mapped, .refl rests, fun _ => ⟨rfl, rfl⟩⟩
  · apply (conducted.ask rests (.fetch address)).bind
    rintro word after ⟨entry, inside, events, served, course, -, quiet⟩
    cases served
    exact ⟨_, events, _, .asked, course, quiet⟩

/-- An undefined instruction has been reported from a world, with nothing else that the engine has
done on its own behalf. -/
structure Raised (service : Service σ ν) (address : UInt32) (world after : World σ ν)
    (wrapper later : Wrapper σ ν) (events : List (Event ν)) : Prop where
  delivers : Stepping.ask (perform service.bound) service.handle
    (.exceptionRaised address .undefinedInstruction) world = .ok () after
  course : service.Course world wrapper after later events
    (service.askedEvents (.exceptionRaised address .undefinedInstruction) ())

/-- Reporting an undefined instruction is one more question to the host, after which the step is
over. -/
theorem Conducted.raise (rests : service.Rests world wrapper) (address : UInt32) :
    (Stepping.raise (perform service.bound) service.handle address).Ensures world
      (fun done after => done = false ∧ ∃ later events,
        service.Raised address world after wrapper later events) service.stopped := by
  apply (conducted.ask rests (.exceptionRaised address .undefinedInstruction)).remember.bind
  rintro _ after ⟨delivers, entry, inside, events, -, course, -⟩
  exact ⟨rfl, _, events, delivers, course⟩

/-- What has become of an instruction that was fetched from an address. The world is the one right
after the fetch; of what happens from there on, `own` is what the engine tells itself. -/
inductive Executed (service : Service σ ν) (address : UInt32) (world after : World σ ν)
    (wrapper later : Wrapper σ ν) (events : List (Event ν)) :
    Instruction → Bool → List (Event ν) → Prop where
  | idle (counter : later.engine.registers.get Stepping.pc = address + 4) :
      Executed service address world after wrapper later events .idle true []
  | branch (offset : UInt32)
      (counter : later.engine.registers.get Stepping.pc = address + 8 + offset) :
      Executed service address world after wrapper later events (.branch offset) true []
  | supervisorCall (number : UInt32)
      (counter : (∀ surface value reply,
          .acted surface service.handle (.setRegister Stepping.pc value) reply ∉ events) →
        later.engine.registers.get Stepping.pc = address + 4) :
      Executed service address world after wrapper later events (.supervisorCall number) true
        (service.askedEvents (.supervisorCall number) ())
  | implemented {slot : Fin 16} {instruction : CoprocessorInstruction}
      {compiled : Compiled (DeferredFunction σ ν)} {own more : List (Event ν)}
      (consulted : service.Consulted slot instruction.request (some compiled) own)
      (supported : ∀ bridge index context,
        .compiled bridge index context instruction.request .unsupported ∉ own)
      (used : service.Used more)
      (counter : later.engine.registers.get Stepping.pc = address + 4) :
      Executed service address world after wrapper later events (.coprocessor slot instruction) true
        (own ++ more)
  | unimplemented {slot : Fin 16} {instruction : CoprocessorInstruction}
      {compiled : Option (Compiled (DeferredFunction σ ν))} {own earlier further : List (Event ν)}
      {middle : World σ ν} {amid : Wrapper σ ν}
      (consults : Stepping.withCoprocessor service.handle slot
        (fun bridge => bridge.compile (perform service.bound) instruction.request) world =
          .ok compiled middle)
      (consulted : service.Consulted slot instruction.request compiled own)
      (refused : compiled = none ∨ ∃ bridge index context,
        .compiled bridge index context instruction.request .unsupported ∈ own)
      (course : service.Course world wrapper middle amid earlier own)
      (quiet : service.CompilesQuietly slot instruction.request → GuestKept world wrapper middle amid)
      (raised : service.Raised address middle after amid later further)
      (split : events = earlier ++ further) :
      Executed service address world after wrapper later events (.coprocessor slot instruction) false
        (own ++ service.askedEvents (.exceptionRaised address .undefinedInstruction) ())
  | undefined (raised : service.Raised address world after wrapper later events) :
      Executed service address world after wrapper later events .undefined false
        (service.askedEvents (.exceptionRaised address .undefinedInstruction) ())

/-- The engine moves its program counter on. -/
theorem Conducted.advance (course : service.Course world wrapper after later events own)
    (next : UInt32) :
    (Stepping.writeRegister service.handle Stepping.pc next).Ensures after (fun _ final =>
      ∃ last, service.Course world wrapper final last events own ∧
        last.engine.registers.get Stepping.pc = next) service.stopped := by
  unfold Exec.Ensures
  rw [Stepping.writeRegister, Exec.modifyEngine_of_present course.rests.attends.present]
  refine ⟨_, course.place conducted rfl rfl rfl rfl, ?_⟩
  exact Vector.getElem_set_self _

/-- A coprocessor instruction completes or is reported as undefined: its compile entry is called,
and what it answers is used. -/
theorem Conducted.executeCoprocessor (rests : service.Rests world wrapper) (address : UInt32)
    (slot : Fin 16) (instruction : CoprocessorInstruction) :
    (Stepping.execute (perform service.bound) service.handle address
      (.coprocessor slot instruction)).Ensures world
      (fun done after => ∃ later events own, service.Course world wrapper after later events own ∧
        service.Executed address world after wrapper later events (.coprocessor slot instruction) done
          own) service.stopped := by
  rw [Stepping.execute_coprocessor]
  apply (conducted.compile rests slot instruction.request).remember.bind
  rintro compiled middle ⟨consults, amid, events, own, consulted, course, defers, quiet⟩
  -- Both ways to be refused, an empty slot and an answer that says so, end in the same report.
  have refuses (refused : compiled = none ∨ ∃ bridge index context,
      .compiled bridge index context instruction.request .unsupported ∈ own) :
      (Stepping.raise (perform service.bound) service.handle address).Ensures middle
        (fun done after => ∃ later events own, service.Course world wrapper after later events own ∧
          service.Executed address world after wrapper later events (.coprocessor slot instruction)
            done own) service.stopped := by
    apply (conducted.raise course.rests address).mono ?_ fun _ _ holds => holds
    rintro _ after ⟨rfl, later, further, raised⟩
    exact ⟨later, _, _, course.trans rests raised.course,
      .unimplemented consults consulted refused course quiet raised rfl⟩
  cases consulted with
  | empty unpopulated =>
    rw [Stepping.ExecutesAlike.useCompiled_none, pure_bind]
    exact refuses (.inl rfl)
  | @answered bridge wire populated answers =>
    apply (conducted.use course.rests instruction answers (defers _ rfl)).bind
    intro done used settled
    cases done with
    | false =>
      rw [settled.refused rfl]
      refine refuses (.inr ⟨service.configuration.callbacks.slot, bridge.index,
        bridge.table.context, ?_⟩)
      simp [settled.verdict.1 rfl]
    | true =>
      obtain ⟨busy, further, more, through, uses⟩ := settled.implemented rfl
      apply (conducted.advance (course.trans rests through) (address + 4)).bind
      rintro _ after ⟨later, onward, counter⟩
      refine ⟨later, _, _, onward, .implemented (.answered populated answers) ?_ uses counter⟩
      have supported : wire.report ≠ .unsupported := fun same =>
        Bool.true_eq_false_eq_False (settled.verdict.2 same)
      rintro _ _ _ isMember
      simp only [List.mem_cons, reduceCtorEq, List.not_mem_nil, or_false, false_or,
        Event.compiled.injEq] at isMember
      exact supported isMember.2.2.2.2.symm

/-- An instruction completes or is reported as undefined. For each class of instructions it is known
what it calls and where the program counter is afterwards. -/
theorem Conducted.execute (rests : service.Rests world wrapper) (address : UInt32)
    (instruction : Instruction) :
    (Stepping.execute (perform service.bound) service.handle address instruction).Ensures world
      (fun done after => ∃ later events own, service.Course world wrapper after later events own ∧
        service.Executed address world after wrapper later events instruction done own)
      service.stopped := by
  cases instruction with
  | idle =>
    apply (conducted.advance (.refl rests) (address + 4)).bind
    rintro _ after ⟨later, course, counter⟩
    exact ⟨later, [], [], course, .idle counter⟩
  | branch offset =>
    apply (conducted.advance (.refl rests) (address + 8 + offset)).bind
    rintro _ after ⟨later, course, counter⟩
    exact ⟨later, [], [], course, .branch offset counter⟩
  | supervisorCall number =>
    apply (conducted.advance (.refl rests) (address + 4)).bind
    rintro _ middle ⟨amid, course, counter⟩
    apply (conducted.ask course.rests (.supervisorCall number)).bind
    rintro _ after ⟨entry, inside, events, -, asked, within, -⟩
    refine ⟨_, events, _, course.trans rests asked, .supervisorCall number fun unwritten => ?_⟩
    -- The callback may move the program counter, unless nobody wrote it meanwhile.
    rw [Wrapper.replay_register _ fun surface value reply isMember =>
      unwritten surface value reply (within isMember), counter]
  | coprocessor slot instruction => exact conducted.executeCoprocessor rests address slot instruction
  | undefined =>
    apply (conducted.raise rests address).mono ?_ fun _ _ holds => holds
    rintro _ after ⟨rfl, later, events, raised⟩
    exact ⟨later, events, _, raised.course, .undefined raised⟩

/-- What a step has done: a word was fetched, of which `fetching` is what the engine told itself,
and then it was executed, of which `own` is. -/
structure Stepped (service : Service σ ν) (address word : UInt32) (world fetched after : World σ ν)
    (wrapper amid later : Wrapper σ ν) (reading fetching events own : List (Event ν)) (done : Bool) :
    Prop where
  fetch : Stepping.fetch (perform service.bound) service.handle address world = .ok word fetched
  told : service.Fetched address word fetching
  course : service.Course world wrapper fetched amid reading fetching
  quiet : (service.configuration.callbacks.table.read32 service.handle address).KeepsGuest
    (perform service.bound) service.handle → GuestKept world wrapper fetched amid
  onward : service.Course (fetched.record (.fetched service.handle address word)) amid after later
    events own
  executed : service.Executed address (fetched.record (.fetched service.handle address word)) after
    amid later events (Instruction.decode word) done own

/-- The whole course of a step: the reading, the word, and what has become of it. -/
theorem Conducted.whole {address word : UInt32} {fetched : World σ ν} {reading fetching : List (Event ν)}
    {done : Bool} (rests : service.Rests world wrapper)
    (stepped : service.Stepped address word world fetched after wrapper amid later reading fetching
      events own done) :
    service.Course world wrapper after later
      (reading ++ [.fetched service.handle address word] ++ events)
      (fetching ++ [.fetched service.handle address word] ++ own) := by
  have belongs : (Event.fetched service.handle address word : Event ν).belongs
      (.plain (σ := σ) service.handle wrapper.slot) = true := decide_eq_true rfl
  refine (stepped.course.record conducted belongs ?_).trans rests stepped.onward
  rintro _ _ _ ⟨⟩

/-- A step fetches the word at the program counter and executes it. -/
theorem Conducted.step (rests : service.Rests world wrapper) {address : UInt32}
    (counter : wrapper.engine.registers.get Stepping.pc = address) :
    (Stepping.step (perform service.bound) service.handle).Ensures world
      (fun done after => ∃ word fetched amid later reading fetching events own,
        service.Stepped address word world fetched after wrapper amid later reading fetching events own
          done) service.stopped := by
  have read : Stepping.readRegister service.handle Stepping.pc world = .ok address world := by
    rw [← counter]
    exact Stepping.readRegister_of_present rests.attends.present Stepping.pc
  unfold Stepping.step
  apply Exec.Ensures.after read
  apply (conducted.fetch rests address).remember.bind
  rintro word fetched ⟨fetches, amid, reading, fetching, told, course, quiet⟩
  apply Exec.Ensures.emit_bind
  have resting : service.Rests (fetched.record (.fetched service.handle address word)) amid :=
    { course.rests with
      attends := course.rests.attends.record _
      ready := conducted.alike fetched _ course.rests.ready (.recordAll fetched [_]) }
  apply (conducted.execute resting address (Instruction.decode word)).mono ?_ fun _ _ holds => holds
  rintro done after ⟨later, events, own, onward, executed⟩
  exact ⟨word, fetched, amid, later, reading, fetching, events, own, fetches, told, course, quiet,
    onward, executed⟩

end Service

end RecompilerAdapter
