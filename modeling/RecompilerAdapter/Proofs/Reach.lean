/-
Module: RecompilerAdapter.Proofs.Reach
Purpose: What moves leave alone, and how far a computation may go with them. A computation that completes
  has made moves that bring it back to the same open runs; while the wrappers of these runs wait, nobody
  else touches the modes of their engines.
Trusted boundary: none
Main exports: Steady, Reaches, Exec.Proceeds, Nested, Performer.Proceeds
-/
import RecompilerAdapter.Proofs.Move

namespace RecompilerAdapter

variable {σ ν α β : Type}

/-! ### What moves leave alone -/

/-- The handle slots, the number of wrappers built, and what is fixed about each wrapper are the
same. -/
structure Steady (before after : World σ ν) : Prop where
  slots : after.slots = before.slots
  built : after.built = before.built
  wrappers : ∀ handle, (after.wrappers.get? handle).map Wrapper.fixed =
    (before.wrappers.get? handle).map Wrapper.fixed

namespace Steady

/-- Where nothing has happened, nothing has moved. -/
theorem refl (world : World σ ν) : Steady world world :=
  ⟨rfl, rfl, fun _ => rfl⟩

/-- What neither of two computations moves is not moved by both. -/
theorem trans {first second third : World σ ν} (before : Steady first second)
    (after : Steady second third) : Steady first third where
  slots := after.slots.trans before.slots
  built := after.built.trans before.built
  wrappers handle := (after.wrappers handle).trans (before.wrappers handle)

/-- Telling of events moves nothing. -/
theorem recordAll (world : World σ ν) (events : List (Event ν)) :
    Steady world (world.recordAll events) :=
  ⟨by simp, by simp, by simp⟩

/-- A script that is handed over moves nothing. -/
theorem scheduled (world : World σ ν) (script : Option (List EngineOperation)) :
    Steady world (world.scheduled script) := by
  cases script <;> exact ⟨rfl, rfl, fun _ => rfl⟩

/-- A wrapper may be exchanged for one that differs in what runs and actions change only. -/
theorem place {world : World σ ν} {handle : Handle} {wrapper replacement : Wrapper σ ν}
    (present : world.wrappers.get? handle = some wrapper)
    (same : replacement.fixed = wrapper.fixed) :
    Steady world (world.place handle replacement) := by
  refine ⟨rfl, rfl, fun other => ?_⟩
  rw [World.get?_place]
  split
  · rename_i isHandle
    rw [isHandle, present, Option.map_some, Option.map_some, same]
  · rfl

/-- Entering and leaving runs change the state of a wrapper, which is not among what is fixed. -/
theorem enterState {world : World σ ν} {handle : Handle} {wrapper : Wrapper σ ν}
    (present : world.wrappers.get? handle = some wrapper) (state : RunState) :
    Steady world (world.place handle { wrapper with state := state }) :=
  .place present rfl

/-- A wrapper stays where it is, with everything that is fixed about it. -/
theorem find {before after : World σ ν} (steady : Steady before after) {handle : Handle}
    {wrapper : Wrapper σ ν} (present : before.wrappers.get? handle = some wrapper) :
    ∃ later, after.wrappers.get? handle = some later ∧ later.fixed = wrapper.fixed := by
  have same := steady.wrappers handle
  rw [present, Option.map_some, Option.map_eq_some_iff] at same
  exact same

/-- A wrapper that is there now was there before, with everything that is fixed about it. -/
theorem findBefore {before after : World σ ν} (steady : Steady before after) {handle : Handle}
    {wrapper : Wrapper σ ν} (present : after.wrappers.get? handle = some wrapper) :
    ∃ earlier, before.wrappers.get? handle = some earlier ∧ wrapper.fixed = earlier.fixed := by
  have same := steady.wrappers handle
  rw [present, Option.map_some, eq_comm, Option.map_eq_some_iff] at same
  obtain ⟨earlier, found, equal⟩ := same
  exact ⟨earlier, found, equal.symm⟩

end Steady

@[simp] theorem World.scheduled_wrappers (world : World σ ν)
    (script : Option (List EngineOperation)) :
    (world.scheduled script).wrappers = world.wrappers := by
  cases script <;> rfl

@[simp] theorem World.scheduled_history (world : World σ ν)
    (script : Option (List EngineOperation)) :
    (world.scheduled script).history = world.history := by
  cases script <;> rfl

@[simp] theorem World.scheduled_slots (world : World σ ν)
    (script : Option (List EngineOperation)) :
    (world.scheduled script).slots = world.slots := by
  cases script <;> rfl

@[simp] theorem World.scheduled_built (world : World σ ν)
    (script : Option (List EngineOperation)) :
    (world.scheduled script).built = world.built := by
  cases script <;> rfl

/-- No action on a wrapper exchanges its configuration, its context or the kind of its engine. -/
theorem Wrapper.fixed_adjusted {action : Action} {update : Engine σ ν → Engine σ ν}
    (adjusts : action.adjustment? = some update) (wrapper : Wrapper σ ν) :
    ({ wrapper with engine := update wrapper.engine } : Wrapper σ ν).fixed = wrapper.fixed := by
  simp [fixed, action.configuration_adjustment adjusts, action.mode_adjustment adjusts]

/-- Nor does the engine itself while it works. -/
theorem Wrapper.fixed_tuned {wrapper : Wrapper σ ν} {engine : Engine σ ν}
    (tunes : Tunes wrapper.engine engine) :
    ({ wrapper with engine := engine } : Wrapper σ ν).fixed = wrapper.fixed := by
  have kind : engine.mode.isStepping = wrapper.engine.mode.isStepping := by
    rcases tunes.mode with same | ⟨after, before⟩
    · rw [same]
    · rw [after, before]
  simp [fixed, tunes.configuration, kind]

/-- No move builds or deletes a wrapper or binds a slot. This is said once of every kind of move,
and all that follows about whole sessions rests on it. -/
theorem Move.steady {before after : World σ ν} (move : Move before after) :
    Steady before after := by
  cases move with
  | record => exact .recordAll _ [_]
  | request => exact .recordAll _ _
  | access => exact ⟨rfl, rfl, fun _ => rfl⟩
  | observe => exact .recordAll _ _
  | adjust present adjusts =>
    exact (Steady.place present (Wrapper.fixed_adjusted adjusts _)).trans (.recordAll _ _)
  | reject => exact (Steady.scheduled _ _).trans (.recordAll _ _)
  | enter present =>
    exact (Steady.scheduled _ _).trans ((Steady.enterState (by simpa using present) _).trans
      (.recordAll _ _))
  | leave innermost present => exact (Steady.enterState present _).trans (.recordAll _ _)
  | tune innermost present tunes => exact .place present (Wrapper.fixed_tuned tunes)
  | keep innermost present employed scripted =>
    refine (Steady.recordAll _ [_]).trans (.place (by simpa using present) ?_)
    simp [Wrapper.fixed, scripted, EngineMode.isStepping]
  | script => exact ⟨rfl, rfl, fun _ => rfl⟩

/-- So no number of moves does. -/
theorem Moves.steady {before after : World σ ν} (moves : Moves before after) :
    Steady before after := by
  induction moves with
  | refl => exact .refl _
  | tail _ move ih => exact ih.trans move.steady

/-- A wrapper that is at work is at work again when the same runs are open. -/
theorem AtWork.later {before after : World σ ν} {handle : Handle}
    {configuration : EngineConfiguration σ ν} (work : AtWork before handle configuration)
    (steady : Steady before after)
    (runs : openRuns after.history = openRuns before.history) :
    AtWork after handle configuration := by
  obtain ⟨wrapper, present, same⟩ := work.employed
  obtain ⟨later, found, fixed⟩ := steady.find present
  refine ⟨by rw [runs, work.innermost], later, found, ?_⟩
  rw [← same]
  exact congrArg (·.2.1) fixed

/-- Only the events of entering and leaving a run open or close one; those that may be told on their
own do neither. -/
theorem Admissible.nest {world : World σ ν} {event : Event ν} (admissible : Admissible world event)
    (runs : List Handle) : event.nest runs = runs := by
  cases event <;> first | rfl | exact admissible.elim

/-! ### Coming back -/

/-- Moves lead back to the same open runs, and the engines of the wrappers in `waiting` are in the
same mode as before. -/
structure Reaches (waiting : List Handle) (before after : World σ ν) : Prop where
  moves : Moves before after
  runs : openRuns after.history = openRuns before.history
  modes : ∀ handle ∈ waiting, after.mode? handle = before.mode? handle

namespace Reaches

variable {waiting : List Handle} {first second third : World σ ν}

/-- A computation that has done nothing yet has come back already. -/
theorem refl (waiting : List Handle) (world : World σ ν) : Reaches waiting world world :=
  ⟨.refl, rfl, fun _ _ => rfl⟩

/-- One event has been recorded. -/
theorem record {event : Event ν} (admissible : Admissible first event) :
    Reaches waiting first (first.record event) :=
  ⟨.single (.record admissible), by simp [admissible.nest], fun _ _ => rfl⟩

/-- Two computations that come back, one after the other, come back together. -/
theorem trans (before : Reaches waiting first second) (after : Reaches waiting second third) :
    Reaches waiting first third where
  moves := before.moves.trans after.moves
  runs := after.runs.trans before.runs
  modes handle waits := (after.modes handle waits).trans (before.modes handle waits)

/-- Coming back, a computation has moved nothing. -/
theorem steady (reaches : Reaches waiting first second) : Steady first second :=
  reaches.moves.steady

/-- The engine whose run is the innermost one is still at work when a computation has come back,
with the same configuration. -/
theorem atWork {handle : Handle} {configuration : EngineConfiguration σ ν}
    (reaches : Reaches waiting first second) (work : AtWork first handle configuration) :
    AtWork second handle configuration :=
  work.later reaches.steady reaches.runs

/-- Fewer wrappers may be said to wait. -/
theorem subset {fewer : List Handle} (reaches : Reaches waiting first second)
    (fewerWait : ∀ handle ∈ fewer, handle ∈ waiting) : Reaches fewer first second :=
  ⟨reaches.moves, reaches.runs, fun handle waits => reaches.modes handle (fewerWait handle waits)⟩

/-- A computation that comes back and then stops has stopped after the moves of both parts. -/
theorem halts {stop : Stop} (reaches : Reaches waiting first second)
    (halts : Halts second stop third) : Halts first stop third := by
  obtain ⟨last, moves, final⟩ := halts
  exact ⟨last, reaches.moves.trans moves, final⟩

end Reaches

/-- A stop for a reason that is not fatal needs no last event. -/
theorem Halts.stuck {world : World σ ν} {stop : Stop} (harmless : ∀ reason, stop ≠ .fatal reason) :
    Halts world stop world :=
  ⟨world, .refl, .stuck harmless⟩

/-- A handle that leads nowhere is no fatal reason. -/
theorem Halts.unknown {world : World σ ν} (handle : Handle) :
    Halts world (.danglingHandle handle) world :=
  ⟨world, .refl, .unknown handle⟩

/-- A last event alone may end everything. -/
theorem Halts.final {before after : World σ ν} {stop : Stop} (final : Final before stop after) :
    Halts before stop after :=
  ⟨before, .refl, final⟩

/-- From `world`, a computation makes moves and comes back, with an answer and a world that
`completed` accepts, or it halts. -/
def Exec.Proceeds (waiting : List Handle) (computation : Exec σ ν α) (world : World σ ν)
    (completed : α → World σ ν → Prop) : Prop :=
  computation.Ensures world
    (fun answer after => Reaches waiting world after ∧ completed answer after) (Halts world)

namespace Exec.Proceeds

variable {waiting : List Handle} {world : World σ ν} {completed weaker : α → World σ ν → Prop}
  {further : β → World σ ν → Prop}

/-- Answering at once makes no move. -/
theorem pure {answer : α} (holds : completed answer world) :
    Proceeds waiting (Pure.pure answer) world completed :=
  ⟨.refl waiting world, holds⟩

/-- A computation may stop at any point for a reason that is not fatal. Fatal reasons go with a last
event, so each place where one arises has an argument of its own. -/
theorem throw {stop : Stop} (harmless : ∀ reason, stop ≠ .fatal reason) :
    Proceeds waiting (MonadExcept.throw stop : Exec σ ν α) world completed :=
  Halts.stuck harmless

/-- What holds at the end may be weakened, given how the end was reached. -/
theorem mono {computation : Exec σ ν α} (proceeds : Proceeds waiting computation world completed)
    (onCompleted : ∀ answer after, Reaches waiting world after → completed answer after →
      weaker answer after) : Proceeds waiting computation world weaker :=
  Ensures.mono proceeds (fun answer after ⟨reaches, holds⟩ =>
    ⟨reaches, onCompleted answer after reaches holds⟩) fun _ _ halts => halts

/-- Computations one after the other make their moves one after the other. Those who wait meanwhile
are the same for both. -/
theorem bind {computation : Exec σ ν α} {next : α → Exec σ ν β}
    (first : Proceeds waiting computation world completed)
    (rest : ∀ answer after, Reaches waiting world after → completed answer after →
      Proceeds waiting (next answer) after further) :
    Proceeds waiting (computation >>= next) world further := by
  refine Ensures.bind first fun answer middle ⟨reaches, holds⟩ => ?_
  exact Ensures.mono (rest answer middle reaches holds)
    (fun _ _ ⟨onward, final⟩ => ⟨reaches.trans onward, final⟩) fun _ _ halts => reaches.halts halts

/-- A computation that consists of a few moves. -/
theorem reaches {computation : Exec σ ν α} {answer : α} {after : World σ ν}
    (yields : computation world = .ok answer after) (reaches : Reaches waiting world after)
    (holds : completed answer after) : Proceeds waiting computation world completed := by
  unfold Proceeds Ensures
  rw [yields]
  exact ⟨reaches, holds⟩

/-- If more wrappers wait, so do fewer. -/
theorem subset {fewer : List Handle} {computation : Exec σ ν α}
    (proceeds : Proceeds waiting computation world completed)
    (fewerWait : ∀ handle ∈ fewer, handle ∈ waiting) :
    Proceeds fewer computation world completed :=
  Ensures.mono proceeds (fun _ _ ⟨reaches, holds⟩ => ⟨reaches.subset fewerWait, holds⟩)
    fun _ _ halts => halts

/-- A computation that starts where moves have led. -/
theorem after {computation : Exec σ ν α} {middle : World σ ν}
    (reaches : Reaches waiting world middle)
    (proceeds : Proceeds waiting computation middle completed) :
    computation.Ensures middle
      (fun answer after => Reaches waiting world after ∧ completed answer after) (Halts world) :=
  Ensures.mono proceeds (fun _ _ ⟨onward, holds⟩ => ⟨reaches.trans onward, holds⟩)
    fun _ _ halts => reaches.halts halts

end Exec.Proceeds

/-! ### Nested runs -/

/-- No wrapper is in two open runs, and each wrapper that is in one is running. Rejecting runs of
running wrappers is what keeps this true. -/
structure Nested (world : World σ ν) : Prop where
  distinct : (openRuns world.history).Nodup
  running : ∀ handle ∈ openRuns world.history, ∀ wrapper,
    world.wrappers.get? handle = some wrapper → wrapper.state = .running

namespace Nested

/-- A wrapper that is not running has no open run. -/
theorem not_mem {world : World σ ν} {handle : Handle} {wrapper : Wrapper σ ν}
    (nested : Nested world) (present : world.wrappers.get? handle = some wrapper)
    (resting : wrapper.state ≠ .running) : handle ∉ openRuns world.history := by
  intro isOpen
  exact resting (nested.running handle isOpen wrapper present)

/-- When no run is open, none is nested. -/
theorem of_idle {world : World σ ν} (idle : openRuns world.history = []) : Nested world := by
  refine ⟨?_, fun handle isOpen => ?_⟩
  · rw [idle]
    exact List.nodup_nil
  · rw [idle] at isOpen
    cases isOpen

/-- The open runs are the same, and so are the run states. -/
theorem of_same {world after : World σ ν} (nested : Nested world)
    (runs : openRuns after.history = openRuns world.history)
    (states : ∀ handle later, after.wrappers.get? handle = some later →
      ∃ wrapper, world.wrappers.get? handle = some wrapper ∧ later.state = wrapper.state) :
    Nested after := by
  refine ⟨by rw [runs]; exact nested.distinct, fun handle isOpen later found => ?_⟩
  obtain ⟨wrapper, present, same⟩ := states handle later found
  rw [same]
  exact nested.running handle (by rwa [runs] at isOpen) wrapper present

/-- A wrapper's engine is another one. -/
theorem place {world : World σ ν} {handle : Handle} {wrapper replacement : Wrapper σ ν}
    (nested : Nested world) (present : world.wrappers.get? handle = some wrapper)
    (same : replacement.state = wrapper.state) : Nested (world.place handle replacement) := by
  refine nested.of_same rfl fun other later found => ?_
  rw [World.get?_place] at found
  split at found
  · rename_i isHandle
    cases found
    exact ⟨wrapper, isHandle ▸ present, same⟩
  · exact ⟨later, found, rfl⟩

/-- Events that neither begin nor end a run. -/
theorem recordAll {world : World σ ν} {events : List (Event ν)} (nested : Nested world)
    (runs : openRuns (world.history ++ events) = openRuns world.history) :
    Nested (world.recordAll events) := by
  refine nested.of_same (by simpa using runs) fun handle later found => ⟨later, ?_, rfl⟩
  simpa using found

/-- An event that opens or closes no run keeps runs nested as they are. -/
theorem record {world : World σ ν} {event : Event ν} (nested : Nested world)
    (still : ∀ runs, event.nest runs = runs) : Nested (world.record event) := by
  refine nested.of_same ?_ fun handle later found => ⟨later, found, rfl⟩
  rw [World.history_record, openRuns_append_singleton, still]

/-- So does a script that is handed over. -/
theorem scheduled {world : World σ ν} (nested : Nested world)
    (script : Option (List EngineOperation)) : Nested (world.scheduled script) := by
  refine nested.of_same (by simp) fun handle later found => ⟨later, ?_, rfl⟩
  simpa using found

end Nested

/-- Moves keep the nesting of runs right: a run is entered only by a wrapper that is inside none,
and only the innermost one is left. -/
theorem Move.nested {before after : World σ ν} (move : Move before after)
    (nested : Nested before) : Nested after := by
  -- Only entering and leaving change which runs are open. The wrapper that enters is inside no run, so it
  -- is none of those; the one that leaves is there only once.
  cases move with
  | record admissible =>
    exact nested.record admissible.nest
  | request => exact nested.recordAll (by simp [openRuns_append, Event.nest])
  | access => exact nested.of_same rfl fun _ later found => ⟨later, found, rfl⟩
  | observe => exact nested.recordAll (by simp [openRuns_append, Event.nest])
  | @adjust _ _ _ wrapper update present =>
    have adjusted : Nested (before.place _ { wrapper with engine := update wrapper.engine }) :=
      nested.place present rfl
    exact adjusted.recordAll (by simp [openRuns_append, Event.nest])
  | reject => exact (nested.scheduled _).recordAll (by simp [openRuns_append, Event.nest])
  | @enter surface handle wrapper script present resting =>
    have closed := nested.not_mem present resting
    refine ⟨?_, fun other isOpen later found => ?_⟩
    · simpa [openRuns_append, Event.nest] using ⟨closed, nested.distinct⟩
    · simp only [World.wrappers_recordAll, World.get?_place] at found
      split at found
      · cases found
        rfl
      · rename_i different
        refine nested.running other ?_ later (by simpa using found)
        simpa [openRuns_append, Event.nest, different] using isOpen
  | @leave surface handle wrapper script innermost present =>
    obtain ⟨rest, runs⟩ := List.head?_eq_some_iff.1 innermost
    have distinct := nested.distinct
    rw [runs, List.nodup_cons] at distinct
    have left : openRuns ((before.place handle { wrapper with state := .halted }).recordAll
        [.runLeft handle, .log (.engineReturned wrapper.userData),
          .acted surface handle (.run script) .finished]).history = rest := by
      simp [openRuns_append, Event.nest, runs]
    refine ⟨by rw [left]; exact distinct.2, fun other isOpen later found => ?_⟩
    rw [left] at isOpen
    have different : other ≠ handle := by
      rintro rfl
      exact distinct.1 isOpen
    refine nested.running other (by rw [runs]; exact List.mem_cons_of_mem _ isOpen) later ?_
    simpa [different] using found
  | tune innermost present => exact nested.place present rfl
  | @keep _ wrapper bridge request answer last compiled innermost present =>
    have recorded : Nested (before.record
        (.compiled bridge.slot bridge.index bridge.table.context request answer)) :=
      nested.record fun _ => rfl
    exact recorded.place present rfl
  | script => exact nested.of_same rfl fun _ later found => ⟨later, found, rfl⟩

/-- So do any number of moves. -/
theorem Moves.nested {before after : World σ ν} (moves : Moves before after)
    (nested : Nested before) : Nested after := by
  induction moves with
  | refl => exact nested
  | tail _ move ih => exact move.nested ih

/-- What may carry out actions: it proceeds from wherever runs are nested well, while the wrappers
of the open runs wait. -/
def Performer.Proceeds (perform : Performer σ ν) : Prop :=
  ∀ surface handle action world, Nested world →
    (perform surface handle action).Proceeds (openRuns world.history) world fun _ _ => True

end RecompilerAdapter
