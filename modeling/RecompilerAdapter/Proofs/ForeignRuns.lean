/-
Module: RecompilerAdapter.Proofs.ForeignRuns
Purpose: Rejected runs on the foreign surface. There a rejected run ends everything, where the direct
  surface reports it. So whatever is done ends as if rejected runs were reported, or it ends with the
  first rejected run; up to there it told of the same.
Trusted boundary: none
Main exports: performReporting, Unreported, Exec.Curtails, perform_curtails
-/
import RecompilerAdapter.Proofs.RejectedRuns

namespace RecompilerAdapter

variable {σ ν α β : Type} {perform counterpart : Performer σ ν}

/-! ### Reporting rejected runs -/

/-- Carries out actions as on the direct surface, on whatever surface they are begun. It stands
between the two surfaces: it tells of the foreign one, but goes on where that one ends. -/
def Performer.reporting (perform : Performer σ ν) (turns : Nat) : Performer σ ν :=
  fun surface handle action => do
    Exec.emit (.acting surface handle action)
    let reply ← Wrapper.performWith perform turns .direct handle action
    Exec.emit (.acted surface handle action reply)
    return reply

/-- Carries out an action as `perform` does, but reports rejected runs on both surfaces, at any
depth. -/
def performReporting : (bound : Nat) → Performer σ ν
  | 0, _, _, _ => throw .outOfFuel
  | bound + 1, surface, handle, action =>
    Performer.reporting (fun surface handle action => performReporting bound surface handle action) bound
      surface handle action

/-! ### Computations that are cut off -/

/-- A history does not tell that a run was rejected on the foreign surface and that this was
reported. The foreign surface never reports it, so what it tells is always of this kind. -/
def Unreported (history : List (Event ν)) : Prop :=
  ∀ handle script, .acted .foreign handle (.run script) .alreadyRunning ∉ history

theorem Unreported.append {history events : List (Event ν)} (unreported : Unreported history)
    (others : Unreported events) : Unreported (history ++ events) := by
  intro handle script isTold
  rcases List.mem_append.1 isTold with earlier | isNew
  · exact unreported handle script earlier
  · exact others handle script isNew

/-- Everything ended in a world because a run was rejected there; a history tells that this was
reported, and goes on. -/
def CutShort (world : World σ ν) (history : List (Event ν)) : Prop :=
  ∃ earlier handle script, world.history = earlier ++ [.acting .foreign handle (.run script)] ∧
    world.history ++ [.acted .foreign handle (.run script) .alreadyRunning] <+: history

/-- What was cut short is still cut short in the light of later events. -/
theorem CutShort.later {world : World σ ν} {history later : List (Event ν)} (cut : CutShort world history)
    (grows : history <+: later) : CutShort world later := by
  obtain ⟨earlier, handle, script, begun, told⟩ := cut
  exact ⟨earlier, handle, script, begun, told.trans grows⟩

namespace Exec

/-- From a world, the first computation ends as the second one does, or it is cut off where a run is
rejected. It reports no rejected runs, and the second one only adds to the history. -/
structure CurtailsFrom (world : World σ ν) (computation other : Exec σ ν α) : Prop where
  grows : world.history <+: (other.finalWorld world).history
  strict : Unreported world.history → Unreported (computation.finalWorld world).history
  ends : computation world = other world ∨
    ∃ after, computation world = .error (.fatal .reentrantRun) after ∧
      CutShort after (other.finalWorld world).history

/-- From every world, the first computation ends as the second one does, or it is cut off. Where it
is cut off, the second one has gone on with more events. -/
def Curtails (computation other : Exec σ ν α) : Prop :=
  ∀ world, CurtailsFrom world computation other

/-- Only what happens from the world in question matters. -/
theorem CurtailsFrom.congr {world : World σ ν} {computation other first second : Exec σ ν α}
    (curtails : CurtailsFrom world first second) (same : computation world = first world)
    (sameToo : other world = second world) : CurtailsFrom world computation other := by
  have final : computation.finalWorld world = first.finalWorld world := by
    rw [finalWorld, finalWorld, same]
  have finalToo : other.finalWorld world = second.finalWorld world := by
    rw [finalWorld, finalWorld, sameToo]
  refine ⟨finalToo ▸ curtails.grows, final ▸ curtails.strict, ?_⟩
  rw [same, sameToo, finalToo]
  exact curtails.ends

namespace Curtails

variable {computation other : Exec σ ν α}

/-- What neither tells of anything nor looks back is not cut off. -/
theorem quiet (isQuiet : computation.Quiet) : Curtails computation computation := by
  intro world
  have same : (computation.finalWorld world).history = world.history := by
    rw [World.history, World.history, Quiet.trace_finalWorld isQuiet]
  exact ⟨same ▸ List.prefix_rfl, fun unreported => same ▸ unreported, .inl rfl⟩

/-- Telling of anything but a rejected run does not cut off. -/
theorem emit {event : Event ν} (other : Unreported [event]) :
    Curtails (Exec.emit event : Exec σ ν Unit) (Exec.emit event) := by
  intro world
  have final : ((Exec.emit event : Exec σ ν Unit).finalWorld world).history = world.history ++ [event] :=
    world.history_record event
  exact ⟨⟨[event], final.symm⟩, fun unreported => final ▸ unreported.append other, .inl rfl⟩

/-- What comes next adds to the history of what comes first. -/
theorem finalWorld_bind (computation : Exec σ ν α) {next : α → Exec σ ν β}
    (grows : ∀ answer world, world.history <+: ((next answer).finalWorld world).history)
    (world : World σ ν) : (computation.finalWorld world).history <+:
      ((computation >>= next).finalWorld world).history := by
  cases ends : computation world with
  | ok answer after =>
    have continues := grows answer after
    rw [finalWorld, finalWorld, bind_of_ok ends, ends]
    exact continues
  | error stop after =>
    have same : (computation >>= next).finalWorld world = computation.finalWorld world := by
      rw [finalWorld, finalWorld, bind_of_error ends, ends]
    exact same ▸ List.prefix_rfl

/-- Computations one after the other: if the first one is cut off, nothing of the second one
happens, and else both go on. -/
theorem bind {next onward : α → Exec σ ν β} (first : Curtails computation other)
    (rest : ∀ answer, Curtails (next answer) (onward answer)) :
    Curtails (computation >>= next) (other >>= onward) := by
  intro world
  have continues := finalWorld_bind other (fun answer after => (rest answer after).grows) world
  refine ⟨(first world).grows.trans continues, fun unreported => ?_, ?_⟩
  · have before := (first world).strict unreported
    cases ends : computation world with
    | ok answer after =>
      rw [finalWorld, ends] at before
      have later := (rest answer after).strict before
      rw [finalWorld, bind_of_ok ends]
      exact later
    | error stop after =>
      rw [finalWorld, ends] at before
      rw [finalWorld, bind_of_error ends]
      exact before
  -- Either the first computation was not cut off, and the second is compared where it starts; or it
  -- was, and what happened before is a part of all that happens.
  · rcases (first world).ends with same | ⟨after, rejected, cut⟩
    · cases ends : other world with
      | ok answer after =>
        rw [bind_of_ok (same.trans ends), bind_of_ok ends]
        have goesOn := (rest answer after).ends
        rw [finalWorld, bind_of_ok ends]
        exact goesOn
      | error stop after =>
        rw [bind_of_error (same.trans ends), bind_of_error ends]
        exact .inl rfl
    · exact .inr ⟨after, bind_of_error rejected, cut.later continues⟩

end Curtails

end Exec

/-- Every action that the performer carries out ends as its counterpart, or is cut off. -/
def Performer.Curtails (perform counterpart : Performer σ ν) : Prop :=
  ∀ surface handle action,
    (perform surface handle action).Curtails (counterpart surface handle action)

/-- So what is put together in the same way is cut off only where actions are. -/
theorem Exec.Parallel.curtails (curtails : perform.Curtails counterpart)
    {computation other : Exec σ ν α} (parallel : computation.Parallel perform counterpart other) :
    computation.Curtails other := by
  induction parallel with
  | quiet isQuiet => exact .quiet isQuiet
  | emit told =>
    apply Exec.Curtails.emit
    intro handle script isEvent
    rw [← List.mem_singleton.1 isEvent] at told
    exact told
  | act surface handle action => exact curtails surface handle action
  | bind parts rest ih ihRest => exact ih.bind ihRest

/-! ### Runs -/

namespace Wrapper

variable {world : World σ ν} {surface : Surface} {handle : Handle} {turns : Nat}
  {script : Option (List EngineOperation)}

/-- Carrying out a run with rejections reported, in full. -/
theorem reporting_run :
    Performer.reporting perform turns surface handle (.run script) = (do
      Exec.emit (.acting surface handle (.run script))
      schedule script
      let accepted ← run perform turns handle
      let reply : Reply := if accepted then .finished else .alreadyRunning
      Exec.emit (.acted surface handle (.run script) reply)
      return reply) := by
  unfold Performer.reporting performWith
  simp only [bind_assoc]
  refine bind_congr fun _ => bind_congr fun _ => bind_congr fun accepted => ?_
  cases accepted <;> rfl

theorem reporting_of_not_rejects (accepts : world.rejects handle = false) :
    Performer.reporting perform turns surface handle (.run script) world = (do
      Exec.emit (.acting surface handle (.run script))
      schedule script
      accept perform turns handle
      report surface handle script true : Exec σ ν Reply) world := by
  rw [reporting_run]
  exact attempt_of_not_rejects accepts

/-- A rejected run is reported, on whatever surface. -/
theorem reporting_of_rejects (rejects : world.rejects handle = true) :
    Performer.reporting perform turns surface handle (.run script) world =
      .ok .alreadyRunning ((world.scheduled script).recordAll
        [.acting surface handle (.run script),
          .acted surface handle (.run script) .alreadyRunning]) := by
  rw [reporting_run, attempt_of_rejects rejects]
  rfl

/-- A run that is rejected on the foreign surface ends everything. -/
theorem recording_of_rejects_foreign (rejects : world.rejects handle = true) :
    Performer.recording (performWith perform turns) .foreign handle (.run script) world =
      .error (.fatal .reentrantRun)
        ((world.scheduled script).record (.acting .foreign handle (.run script))) := by
  rw [recording_run, attempt_of_rejects rejects]
  rfl

theorem history_of_reported (rejects : world.rejects handle = true) (surface : Surface) :
    ((Performer.reporting perform turns surface handle (.run script)).finalWorld world).history =
      world.history ++ [.acting surface handle (.run script),
        .acted surface handle (.run script) .alreadyRunning] := by
  have reported : Performer.reporting perform turns surface handle (.run script) world = _ :=
    reporting_of_rejects rejects
  rw [Exec.finalWorld, reported]
  show (World.recordAll _ _).history = _
  rw [World.history_recordAll, World.scheduled_history]

/-- A run that is rejected on the direct surface is reported there anyway. -/
theorem reported_curtails (rejects : world.rejects handle = true) :
    Exec.CurtailsFrom world (Performer.recording (performWith perform turns) .direct handle (.run script))
      (Performer.reporting counterpart turns .direct handle (.run script)) := by
  have same : Performer.recording (performWith perform turns) .direct handle (.run script) world =
      Performer.reporting counterpart turns .direct handle (.run script) world :=
    (recording_of_rejects rejects).trans (reporting_of_rejects rejects).symm
  refine Exec.CurtailsFrom.congr ⟨?_, fun unreported => ?_, .inl rfl⟩ same rfl
  · rw [history_of_reported rejects]
    exact List.prefix_append _ _
  · rw [history_of_reported rejects]
    exact unreported.append (by simp [Unreported])

/-- A run that is rejected on the foreign surface is where everything is cut off. -/
theorem rejected_curtails (rejects : world.rejects handle = true) :
    Exec.CurtailsFrom world (Performer.recording (performWith perform turns) .foreign handle (.run script))
      (Performer.reporting counterpart turns .foreign handle (.run script)) := by
  have rejected : Performer.recording (performWith perform turns) .foreign handle (.run script) world =
    _ := recording_of_rejects_foreign rejects
  have begun : ((world.scheduled script).record (.acting .foreign handle (.run script))).history =
      world.history ++ [.acting .foreign handle (.run script)] := by
    rw [World.history_record, World.scheduled_history]
  refine ⟨?_, fun unreported => ?_, .inr ⟨_, rejected, world.history, handle, script, begun, ?_⟩⟩
  · rw [history_of_reported rejects]
    exact List.prefix_append _ _
  · rw [Exec.finalWorld, rejected]
    exact begun ▸ unreported.append (by simp [Unreported])
  · rw [history_of_reported rejects, begun]
    exact ⟨[], by simp⟩

/-- A run that is accepted goes the same way, but for what it calls. -/
theorem accepted_curtails (curtails : perform.Curtails counterpart)
    (accepts : world.rejects handle = false) (surface : Surface) :
    Exec.CurtailsFrom world
      (Performer.recording (performWith perform turns) surface handle (.run script))
      (Performer.reporting counterpart turns surface handle (.run script)) :=
  ((accepted_parallel surface handle script).curtails curtails world).congr
    (recording_of_not_rejects surface accepts) (reporting_of_not_rejects accepts)

/-- Each action is cut off by a rejected run, or ends as if rejections were reported. -/
theorem recording_curtails (curtails : perform.Curtails counterpart) :
    (Performer.recording (performWith perform turns)).Curtails
      (Performer.reporting counterpart turns) := by
  intro surface handle action
  by_cases isRun : ∃ script, action = .run script
  · obtain ⟨script, rfl⟩ := isRun
    intro world
    cases rejects : world.rejects handle with
    | true =>
      cases surface with
      | direct => exact reported_curtails rejects
      | foreign => exact rejected_curtails rejects
    | false => exact accepted_curtails curtails rejects surface
  · have noRun (script : Option (List EngineOperation)) : action ≠ .run script :=
      fun same => isRun ⟨script, same⟩
    apply Exec.Parallel.curtails curtails
    exact .bind (.emit trivial) fun _ => .bind (performWith_parallel noRun surface .direct handle)
      fun reply => .bind (.emit (unrejected_of_ne_run noRun surface handle reply)) fun _ => .pure reply

end Wrapper

/-- Whatever is done ends as if rejected runs were reported, or it is cut off by the first of
them. -/
theorem perform_curtails (bound : Nat) :
    (RecompilerAdapter.perform bound : Performer σ ν).Curtails (performReporting bound) := by
  induction bound with
  | zero => exact fun _ _ _ => .quiet fun _ _ => rfl
  | succ bound ih => exact Wrapper.recording_curtails ih

end RecompilerAdapter
