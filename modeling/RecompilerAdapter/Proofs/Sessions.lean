/-
Module: RecompilerAdapter.Proofs.Sessions
Purpose: Sessions. Commands complete one after the other until one of them stops; between commands no run
  is open.
Trusted boundary: none
Main exports: Session, Command.StopsAmong, Command.sessionEnd, Command.sessionWorld
-/
import RecompilerAdapter.Proofs.Commands

namespace RecompilerAdapter

variable {σ ν ρ : Type} {world after : World σ ν}

namespace Command

variable {builders : Builders σ ν} {command : Command σ ν ρ}

/-- What opening a builder releases. -/
theorem opening_plain (builder : Option (Builder σ ν)) :
    ∀ event ∈ (builder.map Builder.releases).getD [], event.Plain := by
  cases builder with
  | none => exact fun _ isEvent => nomatch isEvent
  | some builder => exact builder.releases_plain

/-- What rejecting a slot number releases. -/
theorem rejecting_plain (table : CoprocessorTable σ ν) (builder : Builder σ ν) :
    ∀ event ∈ Event.destroyed table.context :: builder.releases, event.Plain := by
  intro event isEvent
  rcases List.mem_cons.1 isEvent with rfl | released
  · trivial
  · exact builder.releases_plain event released

/-- What deleting a wrapper records. -/
theorem deleting_plain (wrapper : Wrapper σ ν) :
    ∀ event ∈ .log (.destroyingEngine wrapper.userData) :: wrapper.engine.configuration.releases,
      event.Plain := by
  intro event isEvent
  rcases List.mem_cons.1 isEvent with rfl | released
  · trivial
  · exact wrapper.engine.configuration.releases_plain event released

theorem idle_plain {events : List (Event ν)} (idle : openRuns world.history = [])
    (plain : ∀ event ∈ events, event.Plain) : openRuns (world.recordAll events).history = [] := by
  rw [World.history_recordAll, openRuns_plain _ plain, idle]

theorem idle_builds {builder : Builder σ ν} {result : Except EngineError Handle}
    (builds : builder.Builds world result after) (idle : openRuns world.history = []) :
    openRuns after.history = [] := by
  cases builds with
  | built reaches =>
    rw [World.attached, World.history_record, openRuns_append_singleton]
    exact reaches.runs.trans ((world.openRuns_prepared builder).trans idle)
  | refused reaches =>
    exact idle_plain (reaches.runs.trans ((world.openRuns_prepared builder).trans idle))
      (EngineConfiguration.releases_plain _)

/-- After a command no run is open either. -/
theorem Completes.idle {outcome : Outcome ρ} {remaining : Builders σ ν}
    (completes : Completes builders world command outcome remaining after)
    (idle : openRuns world.history = []) : openRuns after.history = [] := by
  cases completes with
  | openBuilder => exact idle_plain idle (opening_plain _)
  | usePageTable | useOptions => exact idle
  | install => exact idle_plain idle (CoprocessorTable.replaces_plain _ _)
  | reject => exact idle_plain idle (rejecting_plain _ _)
  | installAll | dropBuilder => exact idle_plain idle (Builder.releases_plain _)
  | build _ builds | refuse _ builds | construct builds => exact idle_builds builds idle
  | delete => exact idle_plain idle (deleting_plain _)
  | call reaches => exact reaches.runs.trans idle

end Command

/-- Commands have completed one after the other, the first one without builders in a world in which
nothing had happened yet. -/
inductive Session (own : σ) :
    List (Command σ ν ρ) → List (Outcome ρ) → Builders σ ν → World σ ν → Prop where
  | nil : Session own [] [] .empty (.initial own)
  | snoc {commands : List (Command σ ν ρ)} {outcomes : List (Outcome ρ)}
      {builders remaining : Builders σ ν} {world after : World σ ν} {command : Command σ ν ρ}
      {outcome : Outcome ρ} (session : Session own commands outcomes builders world)
      (completes : Command.Completes builders world command outcome remaining after) :
      Session own (commands ++ [command]) (outcomes ++ [outcome]) remaining after

theorem Session.idle {own : σ} {commands : List (Command σ ν ρ)} {outcomes : List (Outcome ρ)}
    {builders : Builders σ ν} (session : Session own commands outcomes builders world) :
    openRuns world.history = [] := by
  induction session with
  | nil => rfl
  | snoc session completes ih => exact completes.idle ih

namespace Command

/-- Commands are carried out in two parts. -/
theorem execAll_append {perform : Performer σ ν} (builders : Builders σ ν)
    (first second : List (Command σ ν ρ)) :
    execAll perform builders (first ++ second) = (do
      let (outcomes, between) ← execAll perform builders first
      let (further, remaining) ← execAll perform between second
      return (outcomes ++ further, remaining)) := by
  induction first generalizing builders with
  | nil => simp [execAll]
  | cons command commands ih => simp [execAll, ih]

theorem execAll_snoc {perform : Performer σ ν} {start : World σ ν} {builders : Builders σ ν}
    {between remaining : Builders σ ν} {commands : List (Command σ ν ρ)}
    {outcomes : List (Outcome ρ)} {command : Command σ ν ρ} {outcome : Outcome ρ}
    (ran : execAll perform builders commands start = .ok (outcomes, between) world)
    (completes : command.exec perform between world = .ok (outcome, remaining) after) :
    execAll perform builders (commands ++ [command]) start =
      .ok (outcomes ++ [outcome], remaining) after := by
  have last : execAll perform between [command] world = .ok ([outcome], remaining) after :=
    Exec.bind_of_ok completes
  rw [execAll_append, Exec.bind_of_ok ran]
  exact Exec.bind_of_ok last

/-- Some commands have completed, and the next one stops. All that is known of completed sessions is
thereby known of a session that stops, up to its last command. -/
def StopsAmong (perform : Performer σ ν) (own : σ) (commands : List (Command σ ν ρ)) (stop : Stop)
    (after : World σ ν) : Prop :=
  ∃ completed command rest outcomes builders world, commands = completed ++ command :: rest ∧
    execAll perform .empty completed (.initial own) = .ok (outcomes, builders) world ∧
    Session own completed outcomes builders world ∧
    command.exec perform builders world = .error stop after ∧
    command.Stops builders world stop after

theorem execAll_ensures {perform : Performer σ ν} (proceeds : perform.Proceeds) {own : σ}
    {completed : List (Command σ ν ρ)} {outcomes : List (Outcome ρ)} {builders : Builders σ ν}
    (ran : execAll perform .empty completed (.initial own) = .ok (outcomes, builders) world)
    (session : Session own completed outcomes builders world) (commands : List (Command σ ν ρ)) :
    (execAll perform builders commands).Ensures world
      (fun result => Session own (completed ++ commands) (outcomes ++ result.1) result.2)
      (StopsAmong perform own (completed ++ commands)) := by
  induction commands generalizing completed outcomes builders world with
  | nil => exact Exec.Ensures.pure (by simpa using session)
  | cons command commands ih =>
    -- How the command ends is kept beside what it ensures, so that the run can be told.
    have carried : (command.exec perform builders).Ensures world
        (fun outcome after => command.exec perform builders world = .ok outcome after ∧
          Completes builders world command outcome.1 outcome.2 after)
        (StopsAmong perform own (completed ++ command :: commands)) := by
      have ensured := exec_ensures proceeds builders command session.idle
      unfold Exec.Ensures at ensured ⊢
      cases ends : command.exec perform builders world with
      | ok outcome after =>
        rw [ends] at ensured
        exact ⟨rfl, ensured⟩
      | error stop after =>
        rw [ends] at ensured
        exact ⟨completed, command, commands, outcomes, builders, world, rfl, ran, session, ends,
          ensured⟩
    apply Exec.Ensures.bind carried
    rintro ⟨outcome, remaining⟩ after ⟨ends, completes⟩
    have further := ih (execAll_snoc ran ends) (session.snoc completes)
    rw [List.append_assoc, List.singleton_append] at further
    refine Exec.Ensures.bind further fun results final finished => Exec.Ensures.pure ?_
    simpa using finished

/-- How a session of these commands ends. It begins with no builder and no wrapper, in the world
that has nothing but the state of the host. -/
def sessionEnd (bound : Nat) (own : σ) (commands : List (Command σ ν ρ)) :
    EStateM.Result Stop (World σ ν) (List (Outcome ρ) × Builders σ ν) :=
  execAll (perform bound) .empty commands (.initial own)

/-- The world in which a session of these commands ends, whether they all complete or not. -/
def sessionWorld (bound : Nat) (own : σ) (commands : List (Command σ ν ρ)) : World σ ν :=
  (execAll (perform bound) .empty commands).finalWorld (.initial own)

/-- Commands that all complete make a session. -/
theorem session_of_end {bound : Nat} {own : σ} {commands : List (Command σ ν ρ)}
    {outcomes : List (Outcome ρ)} {builders : Builders σ ν}
    (ran : sessionEnd bound own commands = .ok (outcomes, builders) world) :
    Session own commands outcomes builders world := by
  have begins : execAll (perform bound) .empty ([] : List (Command σ ν ρ)) (.initial own) =
      .ok ([], .empty) (.initial own) := rfl
  have ensured := execAll_ensures (perform_proceeds bound) begins .nil commands
  simpa using ensured.of_completed ran

/-- Commands that do not all complete stop at one of them. -/
theorem stopsAmong_of_end {bound : Nat} {own : σ} {commands : List (Command σ ν ρ)} {stop : Stop}
    (ran : sessionEnd bound own commands = .error stop after) :
    StopsAmong (perform bound) own commands stop after := by
  have begins : execAll (perform bound) .empty ([] : List (Command σ ν ρ)) (.initial own) =
      .ok ([], .empty) (.initial own) := rfl
  have ensured := execAll_ensures (perform_proceeds bound) begins .nil commands
  simpa using ensured.of_stopped ran

theorem sessionWorld_of_ok {bound : Nat} {own : σ} {commands : List (Command σ ν ρ)}
    {result : List (Outcome ρ) × Builders σ ν}
    (ends : sessionEnd bound own commands = .ok result after) :
    sessionWorld bound own commands = after := by
  unfold sessionEnd at ends
  rw [sessionWorld, Exec.finalWorld, ends]

theorem sessionWorld_of_error {bound : Nat} {own : σ} {commands : List (Command σ ν ρ)}
    {stop : Stop} (ends : sessionEnd bound own commands = .error stop after) :
    sessionWorld bound own commands = after := by
  unfold sessionEnd at ends
  rw [sessionWorld, Exec.finalWorld, ends]

end Command

end RecompilerAdapter
