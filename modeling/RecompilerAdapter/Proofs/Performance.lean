/-
Module: RecompilerAdapter.Proofs.Performance
Purpose: Carrying out actions. Each action is a look at a wrapper, a change of its engine, or a run. A run
  enters, lets the engine work while the runs below it wait, and leaves; so whatever the bound on the
  nesting is, carrying out an action proceeds.
Trusted boundary: none
Main exports: Wrapper.accepted_proceeds, perform_proceeds
-/
import RecompilerAdapter.Adapter.Perform
import RecompilerAdapter.Proofs.ScriptedRuns
import RecompilerAdapter.Proofs.SteppingRuns

namespace RecompilerAdapter

variable {σ ν : Type} {perform : Performer σ ν} {world after : World σ ν} {handle : Handle}
  {waiting : List Handle} {surface : Surface} {action : Action} {turns : Nat}

namespace Wrapper

/-! ### Looks and changes -/

theorem performWith_observation {view : Wrapper σ ν → Reply}
    (observes : action.observation? = some view) :
    performWith perform turns surface handle action =
      (do return view (← Exec.wrapper handle)) := by
  cases action <;> simp only [Action.observation?, reduceCtorEq, Option.some.injEq] at observes <;>
    subst observes <;> simp [performWith, Exec.engine]

theorem performWith_adjustment {update : Engine σ ν → Engine σ ν}
    (adjusts : action.adjustment? = some update) :
    performWith perform turns surface handle action =
      (do Exec.modifyEngine handle update; return .done) := by
  cases action <;> simp only [Action.adjustment?, reduceCtorEq, Option.some.injEq] at adjusts <;>
    subst adjusts <;> rfl

/-- A look is told of before and after, if the wrapper is there. -/
theorem recording_observation {view : Wrapper σ ν → Reply} (observes : action.observation? = some view)
    {completed : Reply → World σ ν → Prop} {stopped : Stop → World σ ν → Prop}
    (present : ∀ found, world.wrappers.get? handle = some found →
      completed (view found) (world.recordAll
        [.acting surface handle action, .acted surface handle action (view found)]))
    (absent : world.wrappers.get? handle = none →
      stopped (.danglingHandle handle) (world.record (.acting surface handle action))) :
    ((performWith perform turns).recording surface handle action).Ensures world completed stopped := by
  unfold Performer.recording
  rw [performWith_observation observes]
  apply Exec.Ensures.emit_bind
  simp only [bind_assoc, pure_bind]
  exact Exec.Ensures.wrapper_bind present absent

/-- So is a change of the engine, which happens in between. -/
theorem recording_adjustment {update : Engine σ ν → Engine σ ν}
    (adjusts : action.adjustment? = some update)
    {completed : Reply → World σ ν → Prop} {stopped : Stop → World σ ν → Prop}
    (present : ∀ found, world.wrappers.get? handle = some found →
      completed .done ((world.place handle { found with engine := update found.engine }).recordAll
        [.acting surface handle action, .acted surface handle action .done]))
    (absent : world.wrappers.get? handle = none →
      stopped (.danglingHandle handle) (world.record (.acting surface handle action))) :
    ((performWith perform turns).recording surface handle action).Ensures world completed stopped := by
  unfold Performer.recording
  rw [performWith_adjustment adjusts]
  apply Exec.Ensures.emit_bind
  simp only [bind_assoc, pure_bind]
  exact Exec.Ensures.modifyEngine_bind present absent

theorem observe_proceeds {view : Wrapper σ ν → Reply}
    (observes : action.observation? = some view) :
    (Performer.recording (performWith perform turns) surface handle action).Proceeds waiting world
      fun _ _ => True := by
  refine recording_observation observes (fun found present => ?_) fun absent =>
    .final (.dangling none absent)
  have observed : Reaches waiting world (world.recordAll
      [.acting surface handle action, .acted surface handle action (view found)]) :=
    ⟨.single (.observe present observes), by simp [openRuns_append, Event.nest], fun _ _ => by simp⟩
  exact ⟨observed, trivial⟩

theorem adjust_proceeds {update : Engine σ ν → Engine σ ν}
    (adjusts : action.adjustment? = some update) :
    (Performer.recording (performWith perform turns) surface handle action).Proceeds waiting world
      fun _ _ => True := by
  refine recording_adjustment adjusts (fun found present => ?_) fun absent =>
    .final (.dangling none absent)
  have adjusted : Reaches waiting world
      ((world.place handle { found with engine := update found.engine }).recordAll
        [.acting surface handle action, .acted surface handle action .done]) := by
    refine ⟨.single (.adjust present adjusts), by simp [openRuns_append, Event.nest],
      fun other _ => ?_⟩
    rw [World.mode?_recordAll, World.mode?_place, Action.mode_adjustment adjusts]
    split
    · rename_i same
      have before : world.wrappers.get? handle = some found := present
      rw [same, World.mode?, before, Option.map_some]
    · rfl
  exact ⟨adjusted, trivial⟩

/-! ### Runs -/

theorem runEngine_proceeds (proceeds : perform.Proceeds)
    {configuration : EngineConfiguration σ ν} (busy : Busy world handle waiting configuration) :
    (runEngine perform turns handle).Proceeds waiting world fun _ _ => True := by
  apply (Exec.engine_proceeds busy).bind
  intro engine middle _ same
  obtain ⟨rfl, -, isMode⟩ := same
  cases kind : engine.mode with
  | stepping lent =>
    refine Stepping.run_advances proceeds turns middle ⟨busy, ?_⟩
    rw [isMode, kind]
    rfl
  | scripted last =>
    exact Scripted.run_proceeds proceeds ⟨busy, isMode.trans (congrArg some kind)⟩

theorem schedule_apply (script : Option (List EngineOperation)) (world : World σ ν) :
    schedule script world = .ok () (world.scheduled script) := by
  cases script <;> rfl

theorem schedule_ensures (script : Option (List EngineOperation)) (event : Event ν)
    {stopped : Stop → World σ ν → Prop} :
    (schedule script).Ensures (world.record event)
      (fun _ after => after = (world.scheduled script).record event) stopped := by
  cases script <;> exact rfl

/-- A run that is accepted enters, works and leaves. In the meantime the wrapper's data stays what
it was, so the line at the end is about the same object. -/
theorem accepted_proceeds (proceeds : perform.Proceeds) {wrapper : Wrapper σ ν}
    {script : Option (List EngineOperation)} (nested : Nested world)
    (present : world.wrappers.get? handle = some wrapper) (resting : wrapper.state ≠ .running)
    (runs : openRuns world.history = waiting) :
    (do
      runEngine perform turns handle
      Exec.setState handle .halted
      Exec.emit (.runLeft handle)
      Exec.emit (.log (.engineReturned wrapper.userData))
      Exec.emit (.acted surface handle (.run script) .finished)
      return Reply.finished).Ensures
      (((world.scheduled script).place handle { wrapper with state := .running }).recordAll
        [.acting surface handle (.run script), .runEntered handle,
          .log (.engineRun wrapper.userData)])
      (fun _ after => Reaches waiting world after ∧ True) (Halts world) := by
  have closed := nested.not_mem present resting
  have entered : Move world (((world.scheduled script).place handle
      { wrapper with state := .running }).recordAll [.acting surface handle (.run script),
        .runEntered handle, .log (.engineRun wrapper.userData)]) := .enter present resting
  have busy : Busy _ handle waiting wrapper.engine.configuration :=
    ⟨entered.nested nested, by simp [openRuns_append, Event.nest, runs], by simp⟩
  refine Exec.Ensures.bind (Exec.Ensures.mono (runEngine_proceeds proceeds busy)
    (fun _ _ holds => holds) fun stop after halts => ?_) ?_
  · obtain ⟨last, moves, final⟩ := halts
    exact ⟨last, .head entered moves, final⟩
  rintro _ worked ⟨reaches, -⟩
  have still := busy.later reaches
  refine Exec.Ensures.modifyWrapper_bind (fun found isFound => ?_) fun _ =>
    ⟨worked, .head entered reaches.moves, .unknown handle⟩
  obtain ⟨later, isLater, fixed⟩ := (entered.steady.trans reaches.steady).find present
  obtain rfl : later = found := Option.some.inj (isLater.symm.trans isFound)
  have sameData : later.userData = wrapper.userData := congrArg (·.1) fixed
  -- The line at the end shows the data that the run has read at its start; they are the wrapper's
  -- still.
  rw [← sameData]
  have left : Reaches waiting world
      ((worked.place handle { later with state := .halted }).recordAll [.runLeft handle,
        .log (.engineReturned later.userData), .acted surface handle (.run script) .finished]) := by
    refine ⟨.head entered (reaches.moves.tail (.leave still.atWork.innermost isLater)), ?_,
      fun other waits => ?_⟩
    · simp [openRuns_append, Event.nest, still.runs, runs]
    · have worked := reaches.modes other waits
      simp only [World.mode?_recordAll, World.mode?_place, still.different waits, if_false] at worked ⊢
      rw [worked, World.mode?, World.mode?, World.scheduled_wrappers]
  exact ⟨left, trivial⟩

theorem run_proceeds (proceeds : perform.Proceeds) {script : Option (List EngineOperation)}
    (nested : Nested world) (runs : openRuns world.history = waiting) :
    (Performer.recording (performWith perform turns) surface handle (.run script)).Proceeds waiting
      world fun _ _ => True := by
  unfold Performer.recording performWith run
  apply Exec.Ensures.emit_bind
  simp only [bind_assoc]
  apply Exec.Ensures.bind (schedule_ensures script (.acting surface handle (.run script)))
  rintro _ _ rfl
  refine Exec.Ensures.wrapper_bind (fun wrapper found => ?_) fun absent =>
    .final (.dangling script (by simpa using absent))
  have present : world.wrappers.get? handle = some wrapper := by simpa using found
  by_cases running : wrapper.state = .running
  · rw [if_pos running]
    cases surface with
    | direct =>
      have rejected : Reaches waiting world ((world.scheduled script).recordAll
          [.acting .direct handle (.run script),
            .acted .direct handle (.run script) .alreadyRunning]) :=
        ⟨.single (.reject present running), by simp [openRuns_append, Event.nest],
          fun _ _ => by simp [World.mode?]⟩
      exact ⟨rejected, trivial⟩
    | foreign => exact .final (.reentrant present running)
  · rw [if_neg running]
    simp only [bind_assoc, pure_bind, if_true]
    refine Exec.Ensures.modifyWrapper_bind (fun again isAgain => ?_) fun absent => ?_
    · obtain rfl : wrapper = again := Option.some.inj (found.symm.trans isAgain)
      refine Exec.Ensures.emit_bind (Exec.Ensures.emit_bind ?_)
      exact accepted_proceeds proceeds nested present running runs
    · rw [found] at absent
      cases absent

theorem performWith_proceeds (proceeds : perform.Proceeds) :
    (Performer.recording (performWith perform turns)).Proceeds := by
  intro surface handle action world nested
  cases action using Action.byKind σ ν with
  | run script => exact run_proceeds proceeds nested rfl
  | adjust action update adjusts => exact adjust_proceeds adjusts
  | observe action view observes => exact observe_proceeds observes
  | arrange number => exact Exec.Ensures.emit_bind (Halts.final .unarranged)

end Wrapper

/-- Whatever the bound is, actions are carried out by moves that come back. -/
theorem perform_proceeds (bound : Nat) :
    (RecompilerAdapter.perform bound : Performer σ ν).Proceeds := by
  induction bound with
  | zero => exact fun _ _ _ _ _ => .throw nofun
  | succ bound ih => exact Wrapper.performWith_proceeds ih

end RecompilerAdapter
