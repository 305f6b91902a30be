/-
Module: RecompilerAdapter.Proofs.Lawfulness
Purpose: Moves are lawful: what a move records obeys the laws, given that the invariant held before it.
  With that, moves keep the whole invariant.
Trusted boundary: none
Main exports: Event.Complete, Event.Ordinary, Event.Free, Move.lawful
-/
import RecompilerAdapter.Proofs.Preservation

namespace RecompilerAdapter

variable {σ ν : Type} {before after world : World σ ν} {candidate : Option HandleSlot}

/-! ### Single events -/

/-- No event has to come next after this one. A run that was asked for must be entered or rejected
at once, and both are told together with its line in the log. -/
def Event.Complete : Event ν → Prop
  | .acting _ _ (.run _) | .runEntered _ | .runLeft _ => False
  | _ => True

/-- A history that ends with an event after which something else may happen is settled. -/
theorem settled_concat {history : List (Event ν)} {event : Event ν} (complete : event.Complete) :
    Settled (history ++ [event]) := by
  intro next
  rw [Follows, List.getLast?_concat]
  cases event with
  | acting surface handle action =>
    cases action with
    | run => exact complete.elim
    | _ => trivial
  | runEntered | runLeft => exact complete.elim
  | _ => trivial

/-- All events that may be told on their own are of this kind. -/
theorem Admissible.complete {event : Event ν} (admissible : Admissible world event) :
    event.Complete := by
  cases event <;> trivial

/-- So is what is told while wrappers are built and deleted. -/
theorem Event.Plain.complete {event : Event ν} (plain : event.Plain) : event.Complete := by
  cases event <;> trivial

/-- Events that end nothing and need no permission, whatever has happened before. -/
def Event.Ordinary : Event ν → Prop
  | .fallingBack .. | .calling .. | .compiling .. | .compiled .. => False
  | .log (.constructorFailed _) | .acting .foreign _ (.run _) => False
  | _ => True

/-- For an ordinary event three of the laws are left to be shown: the other two speak of releases
and causes only. -/
theorem Lawful.ordinary {history : List (Event ν)} {event : Event ν} (ordinary : event.Ordinary)
    (identifies : Identifies history event) (follows : Follows history event)
    (orderly : Orderly history event) : Lawful candidate history event := by
  refine ⟨identifies, follows, orderly, ?_, ?_⟩
  · intro reason causes
    cases causes <;> exact ordinary
  · cases event <;> trivial

/-- An event of which no law speaks. -/
def Event.Free : Event ν → Prop
  | .note _ | .performed .. | .configured _ | .fetched .. | .destroyed _ => True
  | .log (.engineRun _) | .log (.engineReturned _) | .log (.constructorFailed _) => False
  | .log _ => True
  | _ => False

/-- For an event that is bound to no law about runs, only its order is left. -/
theorem Lawful.free {history : List (Event ν)} {event : Event ν} (free : event.Free)
    (follows : Follows history event) : Lawful candidate history event := by
  cases event with
  | log line =>
    cases line <;> first | exact free.elim | exact .ordinary trivial trivial follows trivial
  | _ => first | exact free.elim | exact .ordinary trivial trivial follows trivial

namespace Coherent

/-- The handle in the slot of the wrapper at work is that of the innermost open run. -/
theorem answered_lawful {handle : Handle} {request : HostRequest} {answer : HostAnswer}
    (coherent : Coherent candidate world)
    (admissible : Admissible world (.answered handle request answer)) :
    Lawful candidate world.history (.answered handle request answer) := by
  obtain ⟨worker, configuration, work, isBound⟩ := admissible
  obtain ⟨data, attached⟩ := (coherent.slots _ handle).1 isBound
  rw [coherent.bound work, Option.some.injEq] at isBound
  exact .ordinary trivial ⟨isBound ▸ work.innermost, _, data, attached⟩ (coherent.settled _) trivial

/-- A coprocessor may answer while its engine is at work: the engine's bridge is bound, so fetching
the handle ends nothing. -/
theorem compiled_lawful {worker : Handle} {configuration : EngineConfiguration σ ν}
    {bridge : CoprocessorBridge σ ν} (coherent : Coherent candidate world)
    (work : AtWork world worker configuration)
    (employed : some bridge ∈ configuration.coprocessors) (slot : Nat) (context : Context)
    (request : CompileRequest) (answer : CompileAnswer) :
    Lawful candidate world.history (.compiled bridge.slot slot context request answer) := by
  have attached : IsAttached world.history bridge.slot := by
    rw [coherent.sameSlot work employed]
    exact coherent.isAttached (coherent.bound work)
  refine ⟨trivial, coherent.settled _, trivial, fun reason causes => ?_, trivial⟩
  cases causes with
  | compile unattached => exact unattached attached

/-- A deferred operation is called with a handle that its coprocessor answered for last, or with one
that a scripted engine has kept. Both were attached when the answer came. -/
theorem invoked_lawful {handle : Handle} {argument : UInt64} {first second : UInt32}
    (coherent : Coherent candidate world)
    (admissible : Admissible world (.invoked handle argument first second)) :
    Lawful candidate world.history (.invoked handle argument first second) := by
  obtain ⟨worker, configuration, callback, work, rfl, rfl, own⟩ := admissible
  have isBound := coherent.bound work
  obtain ⟨data, attached⟩ := (coherent.slots _ worker).1 isBound
  have isOwn : callback.handle = worker ∧
      lastAnswer configuration.callbacks.slot world.history =
        some (.deferred callback.userArgument) := by
    rcases own with ⟨bridge, employed, holds, answered⟩ | ⟨compiled, scripted, holds⟩
    · rw [coherent.sameSlot work employed] at holds answered
      rw [isBound, Option.some.injEq] at holds
      exact ⟨holds.symm, answered⟩
    · obtain ⟨wrapper, present, rfl⟩ := work.employed
      have isMode : wrapper.engine.mode = .scripted (some compiled) := by
        simpa [World.mode?, present] using scripted
      exact coherent.remembers worker wrapper compiled callback present isMode holds
  refine .ordinary trivial ⟨?_, _, data, ?_, isOwn.2⟩ (coherent.settled _) trivial
  · rw [isOwn.1]
    exact work.innermost
  · rw [isOwn.1]
    exact attached

/-- So all events that may be told on their own are lawful. -/
theorem record_lawful {event : Event ν} (coherent : Coherent candidate world)
    (admissible : Admissible world event) : Lawful candidate world.history event := by
  have follows := coherent.settled event
  cases event with
  | note | performed | configured | fetched => exact .free trivial follows
  | calling bridge request served =>
    obtain ⟨rfl, isQuery⟩ := admissible
    exact ⟨trivial, follows, trivial, nofun, fun _ => isQuery⟩
  | answered handle request answer => exact coherent.answered_lawful admissible
  | compiling slot index context request =>
    obtain ⟨worker, configuration, bridge, work, employed, rfl, -, -⟩ := admissible
    rw [coherent.sameSlot work employed] at follows ⊢
    exact ⟨trivial, follows, trivial, nofun, .inl (coherent.isAttached (coherent.bound work))⟩
  | compiled slot index context request answer =>
    obtain ⟨worker, configuration, bridge, work, employed, rfl, -⟩ := admissible
    exact coherent.compiled_lawful work employed _ _ _ _
  | invoked handle argument first second => exact coherent.invoked_lawful admissible
  | _ => exact admissible.elim

/-! ### Actions -/

/-- A caller may announce any action but a run at any time. -/
theorem acting_lawful {surface : Surface} {handle : Handle} {action : Action}
    (coherent : Coherent candidate world) (notRun : ∀ script, action ≠ .run script) :
    Lawful candidate world.history (.acting surface handle action) := by
  refine ⟨trivial, coherent.settled _, trivial, fun reason causes => ?_, trivial⟩
  cases causes with
  | reentrance => exact notRun _ rfl

/-- The beginning of a run that does not end everything. -/
theorem acting_run_lawful {surface : Surface} {handle : Handle}
    {script : Option (List EngineOperation)} (coherent : Coherent candidate world)
    (harmless : surface = .direct ∨ handle ∉ openRuns world.history) :
    Lawful candidate world.history (.acting surface handle (.run script)) := by
  refine ⟨trivial, coherent.settled _, trivial, fun reason causes => ?_, trivial⟩
  cases causes with
  | reentrance running =>
    rcases harmless with isDirect | closed
    · cases isDirect
    · exact closed running

/-- And something else may happen after it. -/
theorem complete_acting {surface : Surface} {handle : Handle} {action : Action}
    (notRun : ∀ script, action ≠ .run script) :
    (Event.acting surface handle action : Event ν).Complete := by
  cases action with
  | run script => exact absurd rfl (notRun script)
  | _ => trivial

/-- What a caller learns from looking at a wrapper is what the history tells of it. -/
theorem observed_lawful {surface : Surface} {handle : Handle} {action : Action}
    {wrapper : Wrapper σ ν} {view : Wrapper σ ν → Reply} (coherent : Coherent candidate world)
    (present : world.wrappers.get? handle = some wrapper)
    (observes : action.observation? = some view) :
    Lawful candidate (world.history ++ [.acting surface handle action])
      (.acted surface handle action (view wrapper)) := by
  have attached := (coherent.own handle wrapper present).append [.acting surface handle action]
  have isState : wrapper.state =
      stateAfter (world.history ++ [.acting surface handle action]) handle := by
    rw [coherent.states handle wrapper present]
    simp [stateAfter, Event.nest, Event.begins]
  have follows : Settled (world.history ++ [.acting surface handle action]) :=
    settled_concat (complete_acting (Action.not_run_of_observation observes))
  cases action <;> simp only [Action.observation?, reduceCtorEq, Option.some.injEq] at observes <;>
    subst observes
  case state => exact .ordinary trivial trivial (follows _) (congrArg Reply.state isState)
  case userData => exact .ordinary trivial ⟨_, _, attached, rfl⟩ (follows _) trivial
  case describe =>
    exact .ordinary trivial trivial (follows _)
      ⟨_, _, attached, congrArg (Reply.description _) isState⟩
  all_goals exact .ordinary trivial trivial (follows _) trivial

/-- An action that changes an engine always succeeds. -/
theorem adjusted_lawful {history : List (Event ν)} {surface : Surface} {handle : Handle}
    {action : Action} {update : Engine σ ν → Engine σ ν}
    (adjusts : action.adjustment? = some update) :
    Lawful candidate (history ++ [.acting surface handle action])
      (.acted surface handle action .done) := by
  have follows : Settled (history ++ [.acting surface handle action]) :=
    settled_concat (complete_acting (Action.not_run_of_adjustment adjusts))
  cases action <;> simp only [Action.adjustment?, reduceCtorEq] at adjusts <;>
    exact .ordinary trivial trivial (follows _) trivial

/-! ### Runs -/

/-- A run is rejected only while another run of the wrapper is open. -/
theorem rejected_lawful {handle : Handle} {wrapper : Wrapper σ ν}
    {script : Option (List EngineOperation)} (coherent : Coherent candidate world)
    (present : world.wrappers.get? handle = some wrapper) (running : wrapper.state = .running) :
    Lawful candidate (world.history ++ [.acting .direct handle (.run script)])
      (.acted .direct handle (.run script) .alreadyRunning) := by
  have isOpen : handle ∈ openRuns (world.history ++ [.acting .direct handle (.run script)]) := by
    rw [openRuns_append_singleton]
    rw [coherent.states handle wrapper present, stateAfter_eq_running_iff] at running
    exact running
  refine .ordinary trivial trivial ?_ (.inl ⟨rfl, rfl, isOpen, List.getLast?_concat⟩)
  simp only [Follows, List.getLast?_concat, if_pos isOpen]

/-- A run is entered only where none of the wrapper is open, and the lines about it carry the
wrapper's context. -/
theorem entered_lawful {surface : Surface} {handle : Handle} {wrapper : Wrapper σ ν}
    {script : Option (List EngineOperation)} (coherent : Coherent candidate world)
    (present : world.wrappers.get? handle = some wrapper) (resting : wrapper.state ≠ .running) :
    Continues (Lawful candidate) world.history [.acting surface handle (.run script),
      .runEntered handle, .log (.engineRun wrapper.userData)] := by
  have closed := coherent.not_mem present resting
  have attached := coherent.own handle wrapper present
  refine ⟨coherent.acting_run_lawful (.inr closed),
    .ordinary trivial trivial ?_ ⟨?_, surface, script, List.getLast?_concat⟩,
    .ordinary trivial trivial ?_
      ⟨_, handle, List.getLast?_concat, (attached.append _).append _⟩, trivial⟩
  · simp only [Follows, List.getLast?_concat, openRuns_append_singleton, Event.nest, if_neg closed]
  · simpa [Event.nest] using closed
  · simp only [Follows, List.getLast?_concat]
    exact ⟨_, rfl⟩

/-- Only the innermost run is left, with the lines that match those it was entered with. -/
theorem left_lawful {surface : Surface} {handle : Handle} {wrapper : Wrapper σ ν}
    {script : Option (List EngineOperation)} (coherent : Coherent candidate world)
    (innermost : (openRuns world.history).head? = some handle)
    (present : world.wrappers.get? handle = some wrapper) :
    Continues (Lawful candidate) world.history [.runLeft handle,
      .log (.engineReturned wrapper.userData), .acted surface handle (.run script) .finished] := by
  have attached := coherent.own handle wrapper present
  refine ⟨.ordinary trivial trivial (coherent.settled _) innermost,
    .ordinary trivial trivial ?_ ⟨_, handle, List.getLast?_concat, attached.append _⟩,
    .ordinary trivial trivial (settled_concat (by trivial) _)
      (.inr ⟨rfl, _, List.getLast?_concat⟩), trivial⟩
  simp only [Follows, List.getLast?_concat]
  exact ⟨_, rfl⟩

/-! ### Moves -/

/-- The request of an engine at work names the handle of its own wrapper. -/
theorem requested_lawful {worker bound : Handle} {configuration : EngineConfiguration σ ν}
    {request : HostRequest} (coherent : Coherent candidate world)
    (work : AtWork world worker configuration)
    (isBound : world.slots.get? configuration.callbacks.slot = some bound) :
    Continues (Lawful candidate) world.history
      [.calling configuration.callbacks.slot request true, .requested bound request] := by
  obtain ⟨data, attached⟩ := (coherent.slots _ bound).1 isBound
  have isWorker : bound = worker := by
    rw [coherent.bound work, Option.some.injEq] at isBound
    exact isBound.symm
  refine ⟨⟨trivial, coherent.settled _, trivial, fun reason causes => ?_, nofun⟩,
    .ordinary trivial ⟨?_, _, data, List.getLast?_concat, attached.append _⟩
      (settled_concat (by trivial) _) trivial, trivial⟩
  · cases causes with
    | call unattached => exact unattached ⟨bound, data, attached⟩
  · rw [openRuns_append_singleton, isWorker]
    exact work.innermost

end Coherent

/-- What a move records is lawful, and no event has to come next. Laws that tie an event to the one
before it hold inside of one move. -/
theorem Move.lawful (move : Move before after) (coherent : Coherent candidate before) :
    EveryEvent (Lawful candidate) after.history ∧ Settled after.history := by
  have every := coherent.lawful
  have settled (events : List (Event ν)) {last : Event ν} (complete : last.Complete) :
      Settled (before.history ++ (events ++ [last])) := by
    rw [← List.append_assoc]
    exact settled_concat complete
  -- Each kind of move records complete exchanges: the event that the law asks for next is recorded
  -- in the same move.
  cases move with
  | record admissible =>
    rw [World.history_record]
    exact ⟨every.append ⟨coherent.record_lawful admissible, trivial⟩,
      settled_concat admissible.complete⟩
  | request work _ isBound =>
    rw [World.history_recordAll]
    exact ⟨every.append (coherent.requested_lawful work isBound), settled [_] trivial⟩
  | access | script => exact ⟨every, coherent.settled⟩
  | observe present observes =>
    rw [World.history_recordAll]
    exact ⟨every.append ⟨coherent.acting_lawful (Action.not_run_of_observation observes),
      coherent.observed_lawful present observes, trivial⟩, settled [_] trivial⟩
  | adjust present adjusts =>
    rw [World.history_recordAll, World.history_place]
    exact ⟨every.append ⟨coherent.acting_lawful (Action.not_run_of_adjustment adjusts),
      Coherent.adjusted_lawful adjusts, trivial⟩, settled [_] trivial⟩
  | reject present running =>
    rw [World.history_recordAll, World.scheduled_history]
    exact ⟨every.append ⟨coherent.acting_run_lawful (.inl rfl),
      coherent.rejected_lawful present running, trivial⟩, settled [_] trivial⟩
  | enter present resting =>
    rw [World.history_recordAll, World.history_place, World.scheduled_history]
    exact ⟨every.append (coherent.entered_lawful present resting), settled [_, _] trivial⟩
  | leave innermost present =>
    rw [World.history_recordAll, World.history_place]
    exact ⟨every.append (coherent.left_lawful innermost present), settled [_, _] trivial⟩
  | tune => exact ⟨every, coherent.settled⟩
  | keep innermost present employed =>
    rw [World.history_place, World.history_record]
    have work : AtWork before _ _ := ⟨innermost, _, present, rfl⟩
    exact ⟨every.append ⟨coherent.compiled_lawful work employed _ _ _ _, trivial⟩,
      settled_concat (by trivial)⟩

/-- So a move keeps the whole invariant. Each part of it is kept for a reason of its own; that
events are lawful needs all of them. -/
theorem Move.coherent (move : Move before after) (coherent : Coherent candidate before) :
    Coherent candidate after where
  toRegistered := coherent.toRegistered.frame move.steady move.attachments
  toTimed := move.timed coherent.toRegistered coherent.toTimed
  told := move.told coherent.toRegistered coherent.told
  remembers := move.remembers coherent.toRegistered coherent.remembers
  lawful := (move.lawful coherent).1
  settled := (move.lawful coherent).2
  unattached slot isCandidate := by
    rw [move.steady.slots]
    exact coherent.unattached slot isCandidate

/-- So do any number of moves. -/
theorem Moves.coherent (moves : Moves before after) (coherent : Coherent candidate before) :
    Coherent candidate after := by
  induction moves with
  | refl => exact coherent
  | tail _ move ih => exact move.coherent ih

end RecompilerAdapter
