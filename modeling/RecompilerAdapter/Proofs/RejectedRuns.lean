/-
Module: RecompilerAdapter.Proofs.RejectedRuns
Purpose: Rejected runs do not matter. A session in which the runs that the direct surface rejects are left
  out goes as the session with them goes: commands yield the same, it stops at the same point if it stops,
  and everything else happens that happens there, in the same order.
Trusted boundary: none
Main exports: World.rejects, performOmitting, Wrapper.accept, perform_tracks, Command.sessionEndOmitting
-/
import RecompilerAdapter.Proofs.Omission
import RecompilerAdapter.Proofs.ParallelSessions
import RecompilerAdapter.Proofs.Sessions

namespace RecompilerAdapter

variable {σ ν ρ α : Type} {perform counterpart : Performer σ ν} {world after : World σ ν}
  {handle : Handle} {turns : Nat} {script : Option (List EngineOperation)}

/-! ### Leaving out rejected runs -/

/-- Whether the wrapper behind a handle would reject a run. -/
def World.rejects (world : World σ ν) (handle : Handle) : Bool :=
  match world.wrappers.get? handle with
  | some wrapper => wrapper.state = .running
  | none => false

/-- Carries out actions, but not the runs that the direct surface would reject: of those, only the
script is left to the next run. -/
def Performer.omitting (perform : Performer σ ν) : Performer σ ν
  | .direct, handle, .run script => do
    if (← get).rejects handle then
      Wrapper.schedule script
      return .alreadyRunning
    else
      perform .direct handle (.run script)
  | surface, handle, action => perform surface handle action

theorem Performer.omitting_of_ne_run {action : Action} (noRun : ∀ script, action ≠ .run script)
    (surface : Surface) (handle : Handle) :
    Performer.omitting perform surface handle action = perform surface handle action := by
  cases action with
  | run script => exact absurd rfl (noRun script)
  | _ => cases surface <;> rfl

/-- Carries out an action as `perform` does, but leaves out the runs that the direct surface would
reject, at any depth. -/
def performOmitting : (bound : Nat) → Performer σ ν
  | 0, _, _, _ => throw .outOfFuel
  | bound + 1, surface, handle, action =>
    Performer.omitting (Performer.recording (Wrapper.performWith (fun surface handle action =>
      performOmitting bound surface handle action) bound)) surface handle action

namespace Wrapper

/-- A run that is accepted. It is what is left of a run when the state of its wrapper is known to
allow it. -/
def accept (perform : Performer σ ν) (turns : Nat) (handle : Handle) : Exec σ ν Unit := do
  let wrapper ← Exec.wrapper handle
  Exec.setState handle .running
  Exec.emit (.runEntered handle)
  Exec.emit (.log (.engineRun wrapper.userData))
  runEngine perform turns handle
  Exec.setState handle .halted
  Exec.emit (.runLeft handle)
  Exec.emit (.log (.engineReturned wrapper.userData))

theorem accept_parallel (handle : Handle) :
    (accept perform turns handle).Parallel perform counterpart (accept counterpart turns handle) :=
  .bind (.wrapper handle) fun _ => .bind (.modifyWrapper handle _) fun _ =>
    .bind (.emit trivial) fun _ => .bind (.emit trivial) fun _ =>
      .bind (runEngine_parallel handle) fun _ => .bind (.modifyWrapper handle _) fun _ =>
        .bind (.emit trivial) fun _ => .emit trivial

/-- Where a run is not rejected, it is accepted. -/
theorem run_of_not_rejects (accepts : world.rejects handle = false) :
    run perform turns handle world = (do
      accept perform turns handle
      return true : Exec σ ν Bool) world := by
  unfold World.rejects at accepts
  cases found : world.wrappers.get? handle with
  | none =>
    have lost := Exec.wrapper_of_absent found
    refine (Exec.bind_of_error lost).trans (.symm ?_)
    exact Exec.bind_of_error (Exec.bind_of_error lost)
  | some wrapper =>
    have resting : wrapper.state ≠ .running := by simpa [found] using accepts
    have looked := Exec.wrapper_of_present found
    simp only [accept, bind_assoc]
    refine (Exec.bind_of_ok looked).trans (.trans ?_ (Exec.bind_of_ok looked).symm)
    rw [if_neg resting]

/-- Where a run is rejected, nothing happens. -/
theorem run_of_rejects (rejects : world.rejects handle = true) :
    run perform turns handle world = .ok false world := by
  unfold World.rejects at rejects
  cases found : world.wrappers.get? handle with
  | none => simp [found] at rejects
  | some wrapper =>
    have running : wrapper.state = .running := by simpa [found] using rejects
    rw [run, Exec.bind_of_ok (Exec.wrapper_of_present found), if_pos running]
    rfl

/-- How a run is reported, given whether it was accepted. -/
def report (surface : Surface) (handle : Handle) (script : Option (List EngineOperation)) :
    (accepted : Bool) → Exec σ ν Reply
  | true => do
    Exec.emit (.acted surface handle (.run script) .finished)
    return .finished
  | false =>
    match surface with
    | .direct => do
      Exec.emit (.acted .direct handle (.run script) .alreadyRunning)
      return .alreadyRunning
    | .foreign => Exec.abort .reentrantRun

theorem recording_run (surface : Surface) :
    Performer.recording (performWith perform turns) surface handle (.run script) = (do
      Exec.emit (.acting surface handle (.run script))
      schedule script
      let accepted ← run perform turns handle
      report surface handle script accepted) := by
  unfold Performer.recording performWith
  simp only [bind_assoc]
  refine bind_congr fun _ => bind_congr fun _ => bind_congr fun accepted => ?_
  cases accepted <;> cases surface <;> rfl

/-- An attempt to run does not change whether it is rejected. -/
theorem rejects_scheduled (world : World σ ν) (surface : Surface) (handle : Handle)
    (script : Option (List EngineOperation)) :
    ((world.record (.acting surface handle (.run script))).scheduled script).rejects handle =
      world.rejects handle := by
  simp [World.rejects]

section

variable {surface : Surface} {next : Bool → Exec σ ν α}

/-- Where a run is not rejected, an attempt to run leads to an accepted run. -/
theorem attempt_of_not_rejects (accepts : world.rejects handle = false) :
    (do
      Exec.emit (.acting surface handle (.run script))
      schedule script
      let accepted ← run perform turns handle
      next accepted : Exec σ ν α) world = (do
      Exec.emit (.acting surface handle (.run script))
      schedule script
      accept perform turns handle
      next true : Exec σ ν α) world := by
  have still := (rejects_scheduled world surface handle script).trans accepts
  refine Exec.bind_congr_rest (Exec.emit_apply _ world)
    (Exec.bind_congr_rest (schedule_apply script _) ?_)
  apply (Exec.bind_congr_first (run_of_not_rejects still)).trans
  rw [bind_assoc]
  rfl

/-- Where a run is rejected, an attempt to run is told of and leaves its script to the next run. -/
theorem attempt_of_rejects (rejects : world.rejects handle = true) :
    (do
      Exec.emit (.acting surface handle (.run script))
      schedule script
      let accepted ← run perform turns handle
      next accepted : Exec σ ν α) world =
      next false ((world.scheduled script).record (.acting surface handle (.run script))) := by
  have still := (rejects_scheduled world surface handle script).trans rejects
  have rejected : run perform turns handle _ = _ := run_of_rejects still
  refine (Exec.bind_of_ok (schedule_apply script _)).trans ((Exec.bind_of_ok rejected).trans ?_)
  cases script <;> rfl

end

theorem recording_of_not_rejects (surface : Surface) (accepts : world.rejects handle = false) :
    Performer.recording (performWith perform turns) surface handle (.run script) world = (do
      Exec.emit (.acting surface handle (.run script))
      schedule script
      accept perform turns handle
      report surface handle script true : Exec σ ν Reply) world := by
  rw [recording_run]
  exact attempt_of_not_rejects accepts

/-- A run that the direct surface rejects is told of, its script is left to the next run, and
nothing else happens. -/
theorem recording_of_rejects (rejects : world.rejects handle = true) :
    Performer.recording (performWith perform turns) .direct handle (.run script) world =
      .ok .alreadyRunning ((world.scheduled script).recordAll
        [.acting .direct handle (.run script),
          .acted .direct handle (.run script) .alreadyRunning]) := by
  rw [recording_run, attempt_of_rejects rejects]
  rfl

theorem withoutRejections_rejected (world : World σ ν) (surface : Surface) (handle : Handle)
    (script : Option (List EngineOperation)) :
    ((world.scheduled script).recordAll [.acting surface handle (.run script),
      .acted surface handle (.run script) .alreadyRunning]).withoutRejections =
      world.withoutRejections.scheduled script := by
  have told : withoutRejections (world.history ++ [.acting surface handle (.run script),
      .acted surface handle (.run script) .alreadyRunning]) = withoutRejections world.history := by
    rw [List.append_cons, withoutRejections_append_singleton, withoutRejections_append_singleton]
    simp [Event.keep]
  unfold World.withoutRejections
  rw [World.history_recordAll, World.scheduled_history, told]
  cases script <;> rfl

theorem report_parallel {surface : Surface} {accepted : Bool}
    (unrejected : surface = .foreign ∨ accepted = true) (handle : Handle)
    (script : Option (List EngineOperation)) :
    (report surface handle script accepted).Parallel perform counterpart
      (report surface handle script accepted) := by
  cases accepted with
  | true => exact .bind (.emit trivial) fun _ => .pure _
  | false =>
    cases surface with
    | foreign => exact .throw _
    | direct => simp at unrejected

/-- An accepted run, from the attempt to the reply. -/
theorem accepted_parallel (surface : Surface) (handle : Handle)
    (script : Option (List EngineOperation)) :
    (do
      Exec.emit (.acting surface handle (.run script))
      schedule script
      accept perform turns handle
      report surface handle script true : Exec σ ν Reply).Parallel perform counterpart (do
      Exec.emit (.acting surface handle (.run script))
      schedule script
      accept counterpart turns handle
      report surface handle script true : Exec σ ν Reply) :=
  .bind (.emit trivial) fun _ => .bind (schedule_parallel script) fun _ =>
    .bind (accept_parallel handle) fun _ => report_parallel (.inr rfl) handle script

theorem foreign_parallel (handle : Handle) (script : Option (List EngineOperation)) :
    (Performer.recording (performWith perform turns) .foreign handle (.run script)).Parallel perform
      counterpart (Performer.recording (performWith counterpart turns) .foreign handle (.run script)) := by
  rw [recording_run, recording_run]
  exact .bind (.emit trivial) fun _ => .bind (schedule_parallel script) fun _ =>
    .bind (run_parallel handle) fun _ => report_parallel (.inl rfl) handle script

theorem direct_tracks (tracks : perform.Tracks counterpart) (handle : Handle)
    (script : Option (List EngineOperation)) :
    (Performer.recording (performWith perform turns) .direct handle (.run script)).Tracks
      (Performer.omitting (Performer.recording (performWith counterpart turns)) .direct handle
        (.run script)) := by
  intro world
  have same : world.withoutRejections.rejects handle = world.rejects handle := rfl
  show (if world.withoutRejections.rejects handle then _ else _ : Exec σ ν Reply)
    world.withoutRejections = _
  rw [same]
  cases rejects : world.rejects handle with
  | true =>
    rw [recording_of_rejects rejects, if_pos rfl, Exec.bind_of_ok (schedule_apply script _)]
    exact congrArg (EStateM.Result.ok _) (withoutRejections_rejected world .direct handle script).symm
  | false =>
    rw [if_neg Bool.false_ne_true, recording_of_not_rejects .direct rejects,
      recording_of_not_rejects .direct (same.trans rejects)]
    exact (accepted_parallel .direct handle script).tracks tracks world

theorem recording_tracks (tracks : perform.Tracks counterpart) :
    (Performer.recording (performWith perform turns)).Tracks
      (Performer.omitting (Performer.recording (performWith counterpart turns))) := by
  intro surface handle action
  by_cases isRun : ∃ script, action = .run script
  · obtain ⟨script, rfl⟩ := isRun
    cases surface with
    | direct => exact direct_tracks tracks handle script
    | foreign => exact (foreign_parallel handle script).tracks tracks
  · have noRun (script : Option (List EngineOperation)) : action ≠ .run script :=
      fun same => isRun ⟨script, same⟩
    rw [Performer.omitting_of_ne_run noRun]
    exact (recording_parallel noRun surface handle).tracks tracks

end Wrapper

/-- Leaving out rejected runs makes no difference, at any depth. -/
theorem perform_tracks (bound : Nat) :
    (RecompilerAdapter.perform bound : Performer σ ν).Tracks (performOmitting bound) := by
  induction bound with
  | zero => exact fun _ _ _ => .quiet fun _ _ => rfl
  | succ bound ih => exact Wrapper.recording_tracks ih

/-! ### Sessions -/

namespace Command

/-- How a session of these commands ends if the runs that the direct surface would reject are left
out. -/
def sessionEndOmitting (bound : Nat) (own : σ) (commands : List (Command σ ν ρ)) :
    EStateM.Result Stop (World σ ν) (List (Outcome ρ) × Builders σ ν) :=
  execAll (performOmitting bound) .empty commands (.initial own)

/-- A session without the runs that are rejected ends as the session with them does. -/
theorem sessionEndOmitting_eq (bound : Nat) (own : σ) (commands : List (Command σ ν ρ)) :
    sessionEndOmitting bound own commands =
      Exec.endWithoutRejections (sessionEnd bound own commands) :=
  (execAll_parallel .empty commands).tracks (perform_tracks bound) (.initial own)

end Command

end RecompilerAdapter
