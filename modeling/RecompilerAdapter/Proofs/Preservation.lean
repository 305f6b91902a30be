/-
Module: RecompilerAdapter.Proofs.Preservation
Purpose: Moves keep the invariant. Most moves are quiet: they neither begin nor end a run, and then the
  states and the lines about runs are as they were. Entering and leaving a run are the two moves that are
  not.
Trusted boundary: none
Main exports: Event.Quiet, Quiet, Move.quiet, Move.attachments_eq
-/
import Mathlib.Data.List.Forall2
import RecompilerAdapter.Proofs.Coherence

namespace RecompilerAdapter

variable {σ ν : Type} {before after world : World σ ν} {candidate : Option HandleSlot}

/-! ### Quiet moves -/

/-- The event is not about a run. -/
structure Event.Quiet (event : Event ν) : Prop where
  nest : ∀ runs, event.nest runs = runs
  begins : ∀ handle, event.begins handle = false
  tell : ∀ lines, event.tell lines = lines

/-- Nothing has happened that is about a run. Most moves are quiet, and a quiet move keeps
everything that is said of runs. -/
structure Quiet (before after : World σ ν) : Prop where
  runs : openRuns after.history = openRuns before.history
  begun : ∀ handle, everRun after.history handle = everRun before.history handle
  lines : openLines after.history = openLines before.history
  states : ∀ handle later, after.wrappers.get? handle = some later →
    ∃ wrapper, before.wrappers.get? handle = some wrapper ∧ later.state = wrapper.state

namespace Quiet

/-- Quiet follows on quiet. -/
theorem trans {middle : World σ ν} (first : Quiet before middle) (second : Quiet middle after) :
    Quiet before after where
  runs := second.runs.trans first.runs
  begun handle := (second.begun handle).trans (first.begun handle)
  lines := second.lines.trans first.lines
  states handle later found := by
    obtain ⟨middling, there, same⟩ := second.states handle later found
    obtain ⟨wrapper, present, alike⟩ := first.states handle middling there
    exact ⟨wrapper, present, same.trans alike⟩

/-- Where nothing is told and no wrapper is changed, all is quiet. -/
theorem of_same (history : after.history = before.history) (wrappers : after.wrappers = before.wrappers) :
    Quiet before after := by
  refine ⟨by rw [history], fun _ => by rw [history], by rw [history], fun handle later found => ?_⟩
  rw [wrappers] at found
  exact ⟨later, found, rfl⟩

/-- A quiet event may be told. -/
theorem record {event : Event ν} (quiet : event.Quiet) : Quiet before (before.record event) := by
  refine ⟨by simp [quiet.nest], fun handle => by simp [quiet.begins], ?_,
    fun handle later found => ⟨later, found, rfl⟩⟩
  simp [openLines_append, quiet.tell]

/-- So may any number of them. -/
theorem recordAll {events : List (Event ν)} (quiet : ∀ event ∈ events, event.Quiet) :
    Quiet before (before.recordAll events) := by
  induction events generalizing before with
  | nil => exact of_same rfl rfl
  | cons event events ih =>
    have first : Quiet before (before.record event) := record (quiet event List.mem_cons_self)
    exact first.trans (ih fun later isLater => quiet later (List.mem_cons_of_mem event isLater))

/-- A wrapper may be exchanged for one in the same state. -/
theorem place {handle : Handle} {wrapper replacement : Wrapper σ ν}
    (present : before.wrappers.get? handle = some wrapper)
    (same : replacement.state = wrapper.state) : Quiet before (before.place handle replacement) := by
  refine ⟨rfl, fun _ => rfl, rfl, fun other later found => ?_⟩
  rw [World.get?_place] at found
  split at found
  · rename_i isHandle
    cases found
    exact ⟨wrapper, isHandle ▸ present, same⟩
  · exact ⟨later, found, rfl⟩

end Quiet

/-- What is told while wrappers are built and deleted is quiet. -/
theorem Event.Plain.quiet {event : Event ν} (plain : event.Plain) : event.Quiet := by
  refine ⟨plain.nest, fun handle => ?_, fun lines => ?_⟩
  · cases event <;> first | rfl | exact plain.elim
  · cases event with
    | log line => cases line <;> first | rfl | exact plain.elim
    | _ => rfl

/-- So are the events that may be told on their own while an engine is at work. -/
theorem Admissible.quiet {event : Event ν} (admissible : Admissible world event) :
    event.Quiet := by
  refine ⟨admissible.nest, fun handle => ?_, fun lines => ?_⟩ <;>
    cases event <;> first | rfl | exact admissible.elim

/-- Moves put no wrapper in place. -/
theorem Move.attachments_eq (move : Move before after) :
    attachments after.history = attachments before.history := by
  cases move with
  | @record event admissible =>
    have attaches : event.attachment? = none := by
      cases event <;> first | rfl | exact admissible.elim
    simp [attachments_append, attaches]
  | access | script => rfl
  | _ => simp [attachments_append, Event.attachment?]

/-- A move attaches no wrapper. -/
theorem Move.attachments (move : Move before after) (bridge : HandleSlot) (handle : Handle)
    (data : UserData) :
    Attached after.history bridge handle data ↔ Attached before.history bridge handle data := by
  rw [← mem_attachments, move.attachments_eq, mem_attachments]

/-- So any number of moves leave all attachments as they are. -/
theorem Moves.attachments_eq (moves : Moves before after) :
    RecompilerAdapter.attachments after.history = attachments before.history := by
  induction moves with
  | refl => rfl
  | tail _ move ih => exact move.attachments_eq.trans ih

/-- Each move is quiet, or it enters or leaves a run. Quiet moves record nothing that concerns which
runs are open. -/
theorem Move.quiet (move : Move before after) :
    Quiet before after ∨
    (∃ surface handle wrapper script, before.wrappers.get? handle = some wrapper ∧
      wrapper.state ≠ .running ∧
      after = ((before.scheduled script).place handle { wrapper with state := .running }).recordAll
        [.acting surface handle (.run script), .runEntered handle,
          .log (.engineRun wrapper.userData)]) ∨
    ∃ surface handle wrapper script, (openRuns before.history).head? = some handle ∧
      before.wrappers.get? handle = some wrapper ∧
      after = (before.place handle { wrapper with state := .halted }).recordAll
        [.runLeft handle, .log (.engineReturned wrapper.userData),
          .acted surface handle (.run script) .finished] := by
  have acts (surface : Surface) (handle : Handle) (action : Action) (reply : Reply) :
      ∀ event ∈ [Event.acting surface handle action, .acted surface handle action reply],
        (event : Event ν).Quiet := by
    simp only [List.mem_cons, List.not_mem_nil, or_false, forall_eq_or_imp, forall_eq]
    exact ⟨⟨fun _ => rfl, fun _ => rfl, fun _ => rfl⟩, ⟨fun _ => rfl, fun _ => rfl, fun _ => rfl⟩⟩
  cases move with
  | record admissible =>
    exact .inl (.record admissible.quiet)
  | request =>
    refine .inl (.recordAll ?_)
    simp only [List.mem_cons, List.not_mem_nil, or_false, forall_eq_or_imp, forall_eq]
    exact ⟨⟨fun _ => rfl, fun _ => rfl, fun _ => rfl⟩, ⟨fun _ => rfl, fun _ => rfl, fun _ => rfl⟩⟩
  | access | script => exact .inl (.of_same rfl rfl)
  | observe => exact .inl (.recordAll (acts _ _ _ _))
  | @adjust _ handle _ wrapper update present =>
    have adjusted : Quiet before
        (before.place handle { wrapper with engine := update wrapper.engine }) :=
      .place present rfl
    exact .inl (adjusted.trans (.recordAll (acts _ _ _ _)))
  | @reject _ _ script =>
    exact .inl ((Quiet.of_same (before.scheduled_history script)
      (before.scheduled_wrappers script)).trans (.recordAll (acts _ _ _ _)))
  | enter present resting => exact .inr (.inl ⟨_, _, _, _, present, resting, rfl⟩)
  | leave innermost present => exact .inr (.inr ⟨_, _, _, _, innermost, present, rfl⟩)
  | tune _ present => exact .inl (.place present rfl)
  | keep _ present =>
    exact .inl (.trans (.record ⟨fun _ => rfl, fun _ => rfl, fun _ => rfl⟩) (.place present rfl))

/-! ### Run states -/

/-- A wrapper is running exactly while a run of it is open. -/
theorem stateAfter_eq_running_iff {history : List (Event ν)} {handle : Handle} :
    stateAfter history handle = .running ↔ handle ∈ openRuns history := by
  unfold stateAfter
  split
  · simp_all
  · split <;> simp_all

/-- A wrapper that is not running has no open run. -/
theorem Timed.not_mem {handle : Handle} {wrapper : Wrapper σ ν} (timed : Timed world)
    (present : world.wrappers.get? handle = some wrapper) (resting : wrapper.state ≠ .running) :
    handle ∉ openRuns world.history := by
  rw [timed.states handle wrapper present, Ne, stateAfter_eq_running_iff] at resting
  exact resting

/-- Entering a run makes its wrapper run, and opens a run of it. Other wrappers have other handles,
so they are as before. -/
theorem Timed.enter {surface : Surface} {handle : Handle} {wrapper : Wrapper σ ν}
    {script : Option (List EngineOperation)} (timed : Timed before) (registered : Registered before)
    (present : before.wrappers.get? handle = some wrapper) (resting : wrapper.state ≠ .running) :
    Timed (((before.scheduled script).place handle { wrapper with state := .running }).recordAll
      [.acting surface handle (.run script), .runEntered handle,
        .log (.engineRun wrapper.userData)]) := by
  have closed := timed.not_mem present resting
  refine ⟨?_, fun other isOpen => ?_, fun other later found => ?_, fun other ever => ?_⟩
  · simpa [openRuns_append, Event.nest] using ⟨closed, timed.distinct⟩
  · by_cases same : other = handle
    · exact ⟨{ wrapper with state := .running }, by simp [same]⟩
    · simp only [World.history_recordAll, World.history_place, World.scheduled_history,
        openRuns_append, List.foldl_cons, List.foldl_nil, Event.nest, List.mem_cons, same,
        false_or] at isOpen
      obtain ⟨running, there⟩ := timed.live other isOpen
      exact ⟨running, by simp [same, there]⟩
  · by_cases same : other = handle
    · simp only [World.wrappers_recordAll, World.get?_place, same, if_true, Option.some.injEq]
        at found
      rw [← found, same, eq_comm, stateAfter_eq_running_iff]
      simp [openRuns_append, Event.nest]
    · simp only [World.wrappers_recordAll, World.get?_place, same, if_false,
        World.scheduled_wrappers] at found
      rw [timed.states other later found]
      simp [stateAfter, openRuns_append, Event.nest, everRun_append, Event.begins, same,
        Ne.symm same]
  · simp only [World.history_recordAll, World.history_place, World.scheduled_history,
      everRun_append, Bool.or_eq_true] at ever
    rcases ever with earlier | now
    · obtain ⟨bridge, data, attached⟩ := timed.begun other earlier
      exact ⟨bridge, data, by simpa [Attached] using attached⟩
    · have same : handle = other := by simpa [Event.begins] using now
      subst same
      exact ⟨_, _, by simpa [Attached] using registered.own handle wrapper present⟩

/-- Leaving a run halts its wrapper. No other run of it is open, since a wrapper is inside one run
at most. -/
theorem Timed.leave {surface : Surface} {handle : Handle} {wrapper : Wrapper σ ν}
    {script : Option (List EngineOperation)} (timed : Timed before)
    (innermost : (openRuns before.history).head? = some handle) :
    Timed ((before.place handle { wrapper with state := .halted }).recordAll
      [.runLeft handle, .log (.engineReturned wrapper.userData),
        .acted surface handle (.run script) .finished]) := by
  obtain ⟨rest, runs⟩ := List.head?_eq_some_iff.1 innermost
  have distinct := timed.distinct
  rw [runs, List.nodup_cons] at distinct
  have left : openRuns ((before.place handle { wrapper with state := .halted }).recordAll
      [.runLeft handle, .log (.engineReturned wrapper.userData),
        .acted surface handle (.run script) .finished]).history = rest := by
    simp [openRuns_append, Event.nest, runs]
  have begun (other : Handle) : everRun ((before.place handle
      { wrapper with state := .halted }).recordAll [.runLeft handle,
        .log (.engineReturned wrapper.userData),
        .acted surface handle (.run script) .finished]).history other =
      everRun before.history other := by
    simp [everRun_append, Event.begins]
  refine ⟨by rw [left]; exact distinct.2, fun other isOpen => ?_, fun other later found => ?_,
    fun other ever => ?_⟩
  · rw [left] at isOpen
    obtain ⟨running, there⟩ := timed.live other (by rw [runs]; exact List.mem_cons_of_mem _ isOpen)
    by_cases same : other = handle
    · exact ⟨{ wrapper with state := .halted }, by simp [same]⟩
    · exact ⟨running, by simp [same, there]⟩
  · unfold stateAfter
    rw [left, begun]
    by_cases same : other = handle
    · simp only [World.wrappers_recordAll, World.get?_place, same, if_true, Option.some.injEq]
        at found
      have ever : everRun before.history handle = true :=
        everRun_of_mem_openRuns (by rw [runs]; exact List.mem_cons_self)
      rw [← found, same, if_neg distinct.1, if_pos ever]
    · simp only [World.wrappers_recordAll, World.get?_place, same, if_false] at found
      rw [timed.states other later found]
      simp [stateAfter, runs, same]
  · rw [begun] at ever
    obtain ⟨bridge, data, attached⟩ := timed.begun other ever
    exact ⟨bridge, data, by simpa [Attached] using attached⟩

/-- So moves keep the states of wrappers right. -/
theorem Move.timed (move : Move before after) (registered : Registered before)
    (timed : Timed before) : Timed after := by
  rcases move.quiet with quiet | ⟨surface, handle, wrapper, script, present, resting, rfl⟩ |
    ⟨surface, handle, wrapper, script, innermost, present, rfl⟩
  · exact timed.frame move.steady quiet.runs quiet.begun quiet.states move.attachments
  · exact timed.enter registered present resting
  · exact timed.leave innermost

/-! ### Lines about runs -/

/-- What is told about runs stays right where no run is opened or closed. -/
theorem Told.frame (told : Told before) (runs : openRuns after.history = openRuns before.history)
    (lines : openLines after.history = openLines before.history)
    (attachments : ∀ bridge handle data, Attached after.history bridge handle data ↔
      Attached before.history bridge handle data) : Told after := by
  obtain ⟨open_, same, matched⟩ := told
  refine ⟨open_, lines.trans same, ?_⟩
  rw [runs]
  simpa only [attachments] using matched

/-- Moves keep it right: a run that is entered or left is told so with the wrapper's context. -/
theorem Move.told (move : Move before after) (registered : Registered before)
    (told : Told before) : Told after := by
  rcases move.quiet with quiet | ⟨surface, handle, wrapper, script, present, resting, rfl⟩ |
    ⟨surface, handle, wrapper, script, innermost, present, rfl⟩
  · exact told.frame quiet.runs quiet.lines move.attachments
  · obtain ⟨lines, same, matched⟩ := told
    refine ⟨wrapper.userData :: lines, ?_, ?_⟩
    · simp [openLines_append, Event.tell, same]
    · have attached := registered.own handle wrapper present
      have matches_ := List.Forall₂.cons (R := fun handle data => ∃ bridge,
        Attached before.history bridge handle data) ⟨_, attached⟩ matched
      simp only [← move.attachments] at matches_
      simpa [openRuns_append, Event.nest] using matches_
  · obtain ⟨lines, same, matched⟩ := told
    obtain ⟨rest, runs⟩ := List.head?_eq_some_iff.1 innermost
    rw [runs, List.forall₂_cons_left_iff] at matched
    obtain ⟨data, others, ⟨bridge, attached⟩, matched, rfl⟩ := matched
    have sameData : data = wrapper.userData := (registered.once bridge _ handle data _ attached
      (registered.own handle wrapper present)).2
    refine ⟨others, ?_, ?_⟩
    · simp [openLines_append, Event.tell, same, sameData]
    · simp only [← move.attachments] at matched
      simpa [openRuns_append, Event.nest, runs] using matched

/-! ### Kept answers -/

/-- Kept answers stay right where no engine's answer is exchanged and no coprocessor answers. -/
theorem Remembers.frame (remembers : Remembers before)
    (engines : ∀ handle later, after.wrappers.get? handle = some later →
      ∃ wrapper, before.wrappers.get? handle = some wrapper ∧
        later.engine.configuration = wrapper.engine.configuration ∧
        (later.engine.mode = wrapper.engine.mode ∨ later.engine.mode.isStepping))
    (answers : ∀ bridge, lastAnswer bridge after.history = lastAnswer bridge before.history) :
    Remembers after := by
  intro handle later compiled callback found isMode holds
  obtain ⟨wrapper, present, sameConfiguration, sameMode | stepping⟩ := engines handle later found
  · rw [sameConfiguration, answers]
    exact remembers handle wrapper compiled callback present (sameMode ▸ isMode) holds
  · rw [isMode] at stepping
    cases stepping

/-- Another wrapper's engine keeps what it kept, whatever a coprocessor answers to this one. -/
theorem Registered.lastAnswer_other (registered : Registered world) {handle other : Handle}
    {wrapper otherWrapper : Wrapper σ ν} {slot : Nat} {context : Context}
    {request : CompileRequest} {answer : CompileAnswer} (different : other ≠ handle)
    (present : world.wrappers.get? handle = some wrapper)
    (otherPresent : world.wrappers.get? other = some otherWrapper) :
    lastAnswer otherWrapper.engine.configuration.callbacks.slot (world.history ++
        [.compiled wrapper.engine.configuration.callbacks.slot slot context request answer]) =
      lastAnswer otherWrapper.engine.configuration.callbacks.slot world.history := by
  have apart : wrapper.engine.configuration.callbacks.slot ≠
      otherWrapper.engine.configuration.callbacks.slot := by
    intro same
    have isBound := (registered.slots _ handle).2 ⟨_, registered.own handle wrapper present⟩
    have otherBound :=
      (registered.slots _ other).2 ⟨_, registered.own other otherWrapper otherPresent⟩
    rw [same, otherBound] at isBound
    exact different (Option.some.inj isBound)
  rw [lastAnswer_append_singleton]
  simp [Event.answerThrough, apart]

/-- Moves keep it right: when a coprocessor answers, the engine at work keeps the answer in the same
move. -/
theorem Move.remembers (move : Move before after) (registered : Registered before)
    (remembers : Remembers before) : Remembers after := by
  cases move with
  | @record event admissible =>
    by_cases isCompiled : ∃ bridge slot context request answer,
        event = .compiled bridge slot context request answer
    · obtain ⟨_, slot, _, request, answer, rfl⟩ := isCompiled
      obtain ⟨worker, configuration, bridge, work, employed, rfl, -, rfl, stepping⟩ := admissible
      rw [registered.sameSlot work employed]
      obtain ⟨wrapper, present, rfl⟩ := work.employed
      intro handle later compiled callback found isMode holds
      have there : before.wrappers.get? handle = some later := found
      have different : handle ≠ worker := by
        rintro rfl
        simp [World.mode?, there, isMode, EngineMode.isStepping] at stepping
      rw [World.history_record, registered.lastAnswer_other different present there]
      exact remembers handle later compiled callback there isMode holds
    · refine remembers.frame (fun handle later found => ⟨later, found, rfl, .inl rfl⟩)
        fun bridge => ?_
      rw [World.history_record, lastAnswer_append_singleton]
      cases event <;> first | rfl | exact absurd ⟨_, _, _, _, _, rfl⟩ isCompiled
  | request | observe =>
    exact remembers.frame (fun _ later found => ⟨later, by simpa using found, rfl, .inl rfl⟩)
      fun _ => by simp [lastAnswer_append, Event.answerThrough]
  | access | script =>
    exact remembers.frame (fun _ later found => ⟨later, found, rfl, .inl rfl⟩) fun _ => rfl
  | reject =>
    exact remembers.frame (fun _ later found => ⟨later, by simpa using found, rfl, .inl rfl⟩)
      fun _ => by simp [lastAnswer_append, Event.answerThrough]
  | @adjust _ _ _ wrapper update present adjusts =>
    refine remembers.frame (fun other later found => ?_)
      fun _ => by simp [lastAnswer_append, Event.answerThrough]
    rw [World.wrappers_recordAll] at found
    rcases World.get?_place_eq_some found with ⟨rfl, rfl⟩ | ⟨-, there⟩
    · exact ⟨wrapper, present, Action.configuration_adjustment adjusts _,
        .inl (Action.mode_adjustment adjusts _)⟩
    · exact ⟨later, there, rfl, .inl rfl⟩
  | enter present | leave _ present =>
    refine remembers.frame (fun other later found => ?_)
      fun _ => by simp [lastAnswer_append, Event.answerThrough]
    rw [World.wrappers_recordAll] at found
    rcases World.get?_place_eq_some found with ⟨rfl, rfl⟩ | ⟨-, there⟩
    · exact ⟨_, present, rfl, .inl rfl⟩
    · exact ⟨later, by simpa using there, rfl, .inl rfl⟩
  | tune _ present tunes =>
    refine remembers.frame (fun other later found => ?_) fun _ => rfl
    rcases World.get?_place_eq_some found with ⟨rfl, rfl⟩ | ⟨-, there⟩
    · exact ⟨_, present, tunes.configuration, tunes.mode.imp_right And.left⟩
    · exact ⟨later, there, rfl, .inl rfl⟩
  | @keep handle wrapper bridge request answer last compiled innermost present employed scripted own =>
    have sameSlot := registered.shared handle wrapper present bridge employed
    have isBound := (registered.slots _ handle).2 ⟨_, registered.own handle wrapper present⟩
    -- The engine at work holds the answer that was just recorded; any other engine has a slot of
    -- its own, for which the latest answer has not changed.
    intro other later kept callback found isMode holds
    rw [World.history_place, World.history_record, sameSlot]
    rcases World.get?_place_eq_some found with ⟨rfl, rfl⟩ | ⟨different, there⟩
    · cases isMode
      obtain ⟨isHandle, rfl⟩ := own callback holds
      rw [sameSlot, isBound, Option.some.injEq] at isHandle
      exact ⟨isHandle.symm, by simp [Event.answerThrough]⟩
    · rw [registered.lastAnswer_other different present there]
      exact remembers other later kept callback there isMode holds

end RecompilerAdapter
