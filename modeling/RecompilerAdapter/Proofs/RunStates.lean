/-
Module: RecompilerAdapter.Proofs.RunStates
Purpose: The life of a wrapper. Its run state is a matter of its history: running while a run of it is
  open, halted when runs of it have begun and all are over, constructed before that. A run that begins
  while another run of the wrapper is open is rejected, and does not matter.
Trusted boundary: none
Main exports: RunStates
-/
import RecompilerAdapter.Proofs.RejectedRuns
import RecompilerAdapter.Proofs.SessionCoherence

namespace RecompilerAdapter

variable {σ ν ρ : Type} {world : World σ ν} {handle : Handle} {wrapper : Wrapper σ ν}

/-! ### Histories -/

theorem stateAfter_append_ne_constructed {before : List (Event ν)}
    (begun : stateAfter before handle ≠ .constructed) (rest : List (Event ν)) :
    stateAfter (before ++ rest) handle ≠ .constructed := by
  have ever : everRun before handle = true := by
    by_contra never
    apply begun
    unfold stateAfter
    rw [if_neg fun isOpen => never (everRun_of_mem_openRuns isOpen), if_neg never]
  unfold stateAfter
  rw [everRun_append, ever, Bool.true_or]
  split <;> simp

/-- Once lines are not nested, they stay so. -/
theorem Event.tell_none (event : Event ν) : event.tell none = none := by
  cases event with
  | log line => cases line <;> rfl
  | _ => rfl

theorem openLines_isSome_of_append {before rest : List (Event ν)}
    (nested : (openLines (before ++ rest)).isSome) : (openLines before).isSome := by
  induction rest using List.reverseRecOn with
  | nil => simpa using nested
  | append_singleton rest event ih =>
    apply ih
    rw [← List.append_assoc, openLines_append] at nested
    cases told : openLines (before ++ rest) with
    | some lines => rfl
    | none => simp [told, event.tell_none] at nested

/-! ### Rejected runs -/

theorem rejects_of_running (present : world.wrappers.get? handle = some wrapper) :
    world.rejects handle = decide (wrapper.state = .running) := by
  unfold World.rejects
  rw [present]

/-- A run that is accepted does not yield that the wrapper is running already. -/
theorem perform_ne_alreadyRunning {script : Option (List EngineOperation)} {after : World σ ν}
    (accepts : world.rejects handle = false) (surface : Surface) (depth : Nat) :
    perform (depth + 1) surface handle (.run script) world ≠ .ok .alreadyRunning after := by
  have finishes : (do
      Exec.emit (.acting surface handle (.run script))
      Wrapper.schedule script
      Wrapper.accept (perform depth) depth handle
      Wrapper.report surface handle script true : Exec σ ν Reply).Ensures world
        (fun reply _ => reply = .finished) fun _ _ => True :=
    .bind .any fun _ _ _ => .bind .any fun _ _ _ => .bind .any fun _ _ _ => rfl
  intro rejected
  have accepted := (Wrapper.recording_of_not_rejects surface accepts).symm.trans rejected
  cases finishes.of_completed accepted

/-- The life of wrappers, in a session of these commands: their states follow the runs that are
open, runs inside runs of the same wrapper are rejected, and rejected runs change nothing. -/
structure RunStates (bound : Nat) (own : σ) (commands : List (Command σ ν ρ)) : Prop where
  /-- While the session goes on, a living wrapper is in the state after the history. -/
  states : ∀ world handle wrapper, Reached bound own commands world →
    world.wrappers.get? handle = some wrapper → wrapper.state = stateAfter world.history handle
  /-- So it is where the session ends. -/
  ended : ∀ handle wrapper,
    (Command.sessionWorld bound own commands).wrappers.get? handle = some wrapper →
    wrapper.state = stateAfter (Command.sessionWorld bound own commands).history handle
  /-- The state that is told is the one at that time, and runs begin and end in order. -/
  orderly : EveryEvent Orderly (Command.sessionWorld bound own commands).history
  /-- A run is rejected if one of the wrapper is open, and entered if not. -/
  follows : EveryEvent Follows (Command.sessionWorld bound own commands).history
  /-- A wrapper that has run is never constructed again. -/
  onward : ∀ before rest handle wrapper,
    (Command.sessionWorld bound own commands).history = before ++ rest →
    stateAfter before handle ≠ .constructed →
    (Command.sessionWorld bound own commands).wrappers.get? handle = some wrapper →
    wrapper.state ≠ .constructed
  /-- The lines about runs are nested at any time. -/
  nested : ∀ before rest, (Command.sessionWorld bound own commands).history = before ++ rest →
    (openLines before).isSome
  /-- In the end, the open lines are about the open runs. -/
  told : Told (Command.sessionWorld bound own commands)
  /-- The direct surface rejects a run exactly if the wrapper is running. Then it leaves the script
  to the next run, and changes nothing. -/
  rejected : ∀ world handle wrapper, Reached bound own commands world →
    world.wrappers.get? handle = some wrapper → ∀ depth script,
    (wrapper.state = .running → perform (depth + 1) .direct handle (.run script) world =
      .ok .alreadyRunning ((world.scheduled script).recordAll
        [.acting .direct handle (.run script),
          .acted .direct handle (.run script) .alreadyRunning])) ∧
    (wrapper.state ≠ .running → ∀ after,
      perform (depth + 1) .direct handle (.run script) world ≠ .ok .alreadyRunning after)
  /-- Without the rejected runs everything else is the same: what commands yield, how the session
  ends, and all other events. -/
  omitted : Command.sessionEndOmitting bound own commands =
    Exec.endWithoutRejections (Command.sessionEnd bound own commands)
  /-- Then no rejected run is told of. -/
  unrejected : ∀ surface handle script, .acted surface handle (.run script) .alreadyRunning ∉
    withoutRejections (Command.sessionWorld bound own commands).history

/-- The states of wrappers follow from the history, because a run changes them when it is entered
and when it is left, and nothing else does. -/
theorem runStates (bound : Nat) (own : σ) (commands : List (Command σ ν ρ)) :
    RunStates bound own commands where
  states world handle wrapper reached present := reached.coherent.states handle wrapper present
  ended := (Command.sessionWorld_sound bound own commands).states
  orderly := (Command.sessionWorld_sound bound own commands).orderly
  follows := (Command.sessionWorld_sound bound own commands).follows
  onward before rest handle wrapper split begun present := by
    rw [(Command.sessionWorld_sound bound own commands).states handle wrapper present, split]
    exact stateAfter_append_ne_constructed begun rest
  nested before rest split := by
    obtain ⟨lines, same, -⟩ := (Command.sessionWorld_sound bound own commands).told
    -- The lines of the whole session match up, so those of each part of it have a chance to: no
    -- line closes a run that was not open.
    have whole : (openLines (before ++ rest)).isSome := by
      rw [← split, same]
      rfl
    exact openLines_isSome_of_append whole
  told := (Command.sessionWorld_sound bound own commands).told
  rejected world handle wrapper reached present depth script := by
    have rejects := rejects_of_running present
    refine ⟨fun running => ?_, fun resting after => ?_⟩
    · rw [decide_eq_true running] at rejects
      exact Wrapper.recording_of_rejects rejects
    · rw [decide_eq_false resting] at rejects
      exact perform_ne_alreadyRunning rejects .direct depth
  omitted := Command.sessionEndOmitting_eq bound own commands
  unrejected surface handle script isKept := ne_rejection_of_mem isKept surface handle script rfl

end RecompilerAdapter
