/-
Module: RecompilerAdapter.Proofs.ParallelSessions
Purpose: Actions and commands in parallel. With two performers for what callbacks do, the actions that are
  no runs, the work of an engine in a run, all that may be arranged, and all commands of sessions are
  parallel.
Trusted boundary: none
Main exports: Wrapper.performWith_parallel, Wrapper.performWithin_parallel, Command.exec_parallel
-/
import RecompilerAdapter.Adapter.Arrangement
import RecompilerAdapter.Proofs.ParallelEngines

namespace RecompilerAdapter

variable {σ ν ρ : Type} {perform counterpart : Performer σ ν}

/-! ### Actions -/

namespace Wrapper

variable {handle : Handle} {turns : Nat}

/-- Handing over a script calls nobody. -/
theorem schedule_parallel (script : Option (List EngineOperation)) :
    (schedule script).Parallel perform counterpart (schedule script) := by
  cases script with
  | none => exact .pure ()
  | some operations => exact .quiet (.change fun _ _ => rfl)

/-- The engine at work is found in the same way on both sides. -/
theorem runEngine_parallel (handle : Handle) :
    (runEngine perform turns handle).Parallel perform counterpart
      (runEngine counterpart turns handle) := by
  refine .bind (.engine handle) fun engine => ?_
  split
  · exact Stepping.run_parallel handle turns
  · exact Scripted.run_parallel handle

/-- Whether a run is accepted depends on the wrapper's state, which is the same on both sides. -/
theorem run_parallel (handle : Handle) :
    (run perform turns handle).Parallel perform counterpart (run counterpart turns handle) := by
  refine .bind (.wrapper handle) fun wrapper => ?_
  split
  · exact .pure false
  · exact .bind (.modifyWrapper handle _) fun _ => .bind (.emit trivial) fun _ =>
      .bind (.emit trivial) fun _ => .bind (runEngine_parallel handle) fun _ =>
        .bind (.modifyWrapper handle _) fun _ => .bind (.emit trivial) fun _ =>
          .bind (.emit trivial) fun _ => .pure true

/-- An action that is no run. -/
theorem performWith_parallel {action : Action} (noRun : ∀ script, action ≠ .run script)
    (surface other : Surface) (handle : Handle) :
    (performWith perform turns surface handle action).Parallel perform counterpart
      (performWith counterpart turns other handle action) := by
  cases action with
  | run script => exact absurd rfl (noRun script)
  | halt | setRegister | setExtensionRegister | setProgramStatus | setFloatingPointStatus =>
    exact .bind (.modifyEngine handle _) fun _ => .pure _
  | state | userData | describe => exact .bind (.wrapper handle) fun _ => .pure _
  | registers | extensionRegisters | programStatus | floatingPointStatus =>
    exact .bind (.engine handle) fun _ => .pure _
  | arrange number => exact .throw _

/-- Any action, on one surface. -/
theorem performWith_parallel_same (surface : Surface) (handle : Handle) (action : Action) :
    (performWith perform turns surface handle action).Parallel perform counterpart
      (performWith counterpart turns surface handle action) := by
  by_cases isRun : ∃ script, action = .run script
  · obtain ⟨script, rfl⟩ := isRun
    refine .bind (schedule_parallel script) fun _ => .bind (run_parallel handle) fun ran => ?_
    cases ran with
    | true => exact .pure _
    | false =>
      cases surface with
      | direct => exact .pure _
      | foreign => exact .throw _
  · exact performWith_parallel (fun script same => isRun ⟨script, same⟩) surface surface handle

/-- Only runs can be rejected, so what is told of any other action may be told in parallel. -/
theorem unrejected_of_ne_run {action : Action} (noRun : ∀ script, action ≠ .run script)
    (surface : Surface) (handle : Handle) (reply : Reply) :
    (Event.acted surface handle action reply : Event ν).Unrejected := by
  cases action with
  | run script => exact absurd rfl (noRun script)
  | _ => trivial

/-- Carrying out an action other than a run and telling of it. -/
theorem recording_parallel {action : Action} (noRun : ∀ script, action ≠ .run script)
    (surface : Surface) (handle : Handle) :
    (Performer.recording (performWith perform turns) surface handle action).Parallel perform counterpart
      (Performer.recording (performWith counterpart turns) surface handle action) :=
  .bind (.emit trivial) fun _ => .bind (performWith_parallel noRun surface surface handle) fun reply =>
    .bind (.emit (unrejected_of_ne_run noRun surface handle reply)) fun _ => .pure reply

end Wrapper

/-! ### Building and deleting -/

/-- Dropping a builder tells of what is released, and calls nobody. -/
theorem Builder.release_parallel (builder : Builder σ ν) :
    builder.release.Parallel perform counterpart builder.release := by
  apply Exec.Parallel.forM
  intro item
  obtain ⟨_ | table, slot⟩ := item
  · exact .pure ()
  · exact .bind (.emit trivial) fun _ => .emit trivial

theorem EngineConfiguration.drop_parallel (configuration : EngineConfiguration σ ν) :
    configuration.drop.Parallel perform counterpart configuration.drop := by
  apply Exec.Parallel.forM
  intro item
  cases item with
  | none => exact .pure ()
  | some bridge => exact .bind (.emit trivial) fun _ => .emit trivial

theorem EngineChoice.construct_parallel (configuration : EngineConfiguration σ ν)
    (choice : EngineChoice) :
    (choice.construct perform configuration).Parallel perform counterpart
      (choice.construct counterpart configuration) := by
  cases choice with
  | stepping =>
    simp only [construct]
    split
    · exact .pure _
    · exact .pure _
  | scripted operations | refusing reason operations =>
    exact .bind (.emit trivial) fun _ =>
      .bind (Scripted.probe_parallel configuration none operations) fun _ => .pure _

namespace Builder

/-- Changing a slot of a builder calls nobody, also where the slot is rejected. -/
theorem withCoprocessor_parallel (builder : Builder σ ν) (slot : Nat) (table : CoprocessorTable σ ν) :
    (builder.withCoprocessor slot table).Parallel perform counterpart
      (builder.withCoprocessor slot table) := by
  unfold withCoprocessor
  split
  · split
    · exact .bind (.emit trivial) fun _ => .bind (.emit trivial) fun _ => .pure _
    · exact .pure _
  · exact .bind (.emit trivial) fun _ => .bind builder.release_parallel fun _ => .pure _

theorem withCoprocessors_parallel (builder : Builder σ ν) (tables : CoprocessorTables σ ν) :
    (builder.withCoprocessors tables).Parallel perform counterpart (builder.withCoprocessors tables) :=
  .bind builder.release_parallel fun _ => .pure _

theorem attach_parallel (builder : Builder σ ν) (slot : HandleSlot) (engine : Engine σ ν) :
    (builder.attach slot engine).Parallel perform counterpart (builder.attach slot engine) :=
  .bind (.quiet fun _ _ => rfl) fun handle => .bind (.quiet (.bindSlot slot handle)) fun _ =>
    .bind (.emit trivial) fun _ => .pure handle

/-- Building calls entries of coprocessors while the engine is being constructed, by means of either
performer. -/
theorem build_parallel (builder : Builder σ ν) (choice : EngineChoice) :
    (builder.build perform choice).Parallel perform counterpart (builder.build counterpart choice) := by
  refine .bind (.quiet fun _ _ => rfl) fun slot => .bind (.emit trivial) fun _ =>
    .bind (choice.construct_parallel _) fun result => ?_
  cases result with
  | ok engine => exact .bind (builder.attach_parallel slot engine) fun _ => .pure _
  | error error => exact .bind (builder.configuration slot).drop_parallel fun _ => .pure _

end Builder

namespace Wrapper

theorem delete_parallel (handle : Handle) :
    (delete handle).Parallel perform counterpart (delete handle) :=
  .bind (.wrapper handle) fun wrapper => .bind (.emit trivial) fun _ =>
    .bind wrapper.engine.configuration.drop_parallel fun _ => .quiet (.change fun _ _ => rfl)

/-- The foreign surface builds, and ends everything if that fails. -/
theorem construct_parallel (userData : UserData) (callbacks : CallbackTable σ ν)
    (pageTable : Option (PageTable σ))
    (coprocessors : Option (Vector (WireOption (CoprocessorTable σ ν)) coprocessorCount))
    (engine : EngineChoice) :
    (construct perform userData callbacks pageTable coprocessors engine).Parallel perform counterpart
      (construct counterpart userData callbacks pageTable coprocessors engine) := by
  refine .bind (Builder.withCoprocessors_parallel _ _) fun builder =>
    .bind (builder.build_parallel engine) fun result => ?_
  cases result with
  | ok handle => exact .pure handle
  | error error => exact .bind (.emit trivial) fun _ => .throw _

end Wrapper

/-! ### Arrangements -/

namespace Builder

/-- A setting of a builder that was arranged calls nobody. -/
theorem set_parallel (builder : Builder σ ν) (setting : Setting σ ν) :
    (builder.set setting).Parallel perform counterpart (builder.set setting) := by
  cases setting with
  | pageTable | options => exact .pure _
  | coprocessor slot table => exact builder.withCoprocessor_parallel slot table
  | coprocessors tables => exact .bind (builder.withCoprocessors_parallel tables) fun _ => .pure _

/-- By induction on the settings, of which each may fail. -/
theorem setAll_parallel (builder : Builder σ ν) (settings : List (Setting σ ν)) :
    (builder.setAll settings).Parallel perform counterpart (builder.setAll settings) := by
  induction settings generalizing builder with
  | nil => exact .pure _
  | cons setting settings ih =>
    refine .bind (builder.set_parallel setting) fun result => ?_
    cases result with
    | ok builder => exact ih builder
    | error error => exact .pure _

end Builder

/-- What was arranged is building or deleting, of which both have been dealt with. -/
theorem Arrangement.exec_parallel (target : Handle) (arrangement : Arrangement σ ν) :
    (arrangement.exec perform target).Parallel perform counterpart
      (arrangement.exec counterpart target) := by
  cases arrangement with
  | build userData callbacks settings engine =>
    refine .bind (Builder.setAll_parallel _ settings) fun result => ?_
    cases result with
    | error error => exact .pure _
    | ok builder => exact .bind (builder.build_parallel engine) fun _ => .pure _
  | construct userData callbacks pageTable coprocessors engine =>
    exact .bind (Wrapper.construct_parallel userData callbacks pageTable coprocessors engine)
      fun _ => .pure _
  | delete => exact .bind (Wrapper.delete_parallel target) fun _ => .pure _

/-- Any action of a caller with arrangements, on one surface. -/
theorem Wrapper.performWithin_parallel (arrangements : Arrangements σ ν) {turns : Nat}
    (surface : Surface) (handle : Handle) (action : Action) :
    (performWithin arrangements perform turns surface handle action).Parallel perform counterpart
      (performWithin arrangements counterpart turns surface handle action) := by
  unfold performWithin
  split
  · exact Arrangement.exec_parallel handle _
  · exact performWith_parallel_same surface handle action

/-! ### Sessions -/

namespace Command

theorem find_parallel (builders : Builders σ ν) (number : Nat) :
    (find builders number).Parallel perform counterpart (find builders number) := by
  unfold find
  split
  · exact .pure _
  · exact .throw _

/-- What was arranged is building or deleting, of which both have been dealt with. -/
theorem exec_parallel (builders : Builders σ ν) (command : Command σ ν ρ) :
    (command.exec perform builders).Parallel perform counterpart
      (command.exec counterpart builders) := by
  cases command with
  | openBuilder number =>
    refine .bind ?_ fun _ => .pure _
    cases builders.get? number with
    | none => exact .pure ()
    | some builder => exact builder.release_parallel
  | usePageTable number | useOptions number =>
    exact .bind (find_parallel builders number) fun _ => .pure _
  | installCoprocessor number slot table =>
    refine .bind (find_parallel builders number) fun builder =>
      .bind (builder.withCoprocessor_parallel slot table) fun result => ?_
    cases result with
    | ok builder => exact .pure _
    | error error => exact .pure _
  | installCoprocessors number tables =>
    exact .bind (find_parallel builders number) fun builder =>
      .bind (builder.withCoprocessors_parallel tables) fun _ => .pure _
  | dropBuilder number =>
    exact .bind (find_parallel builders number) fun builder =>
      .bind builder.release_parallel fun _ => .pure _
  | build number engine =>
    refine .bind (find_parallel builders number) fun builder =>
      .bind (builder.build_parallel engine) fun result => ?_
    cases result with
    | ok handle => exact .pure _
    | error error => exact .pure _
  | construct userData callbacks pageTable coprocessors engine =>
    exact .bind (Wrapper.construct_parallel userData callbacks pageTable coprocessors engine)
      fun _ => .pure _
  | delete handle => exact .bind (Wrapper.delete_parallel handle) fun _ => .pure _
  | call body => exact .bind (Activity.exec_parallel body) fun _ => .pure _

/-- By induction on the commands. -/
theorem execAll_parallel (builders : Builders σ ν) (commands : List (Command σ ν ρ)) :
    (execAll perform builders commands).Parallel perform counterpart
      (execAll counterpart builders commands) := by
  induction commands generalizing builders with
  | nil => exact .pure _
  | cons command commands ih =>
    exact .bind (exec_parallel builders command) fun result => .bind (ih result.2) fun _ => .pure _

end Command

end RecompilerAdapter
