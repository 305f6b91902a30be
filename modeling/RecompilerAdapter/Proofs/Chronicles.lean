/-
Module: RecompilerAdapter.Proofs.Chronicles
Purpose: Chronicles. Of a session it is told, command by command, what each one yielded and what happened
  meanwhile. A session in which nothing is barred has the same chronicle when what is done to others is
  left out where it stops.
Trusted boundary: none
Main exports: Entry, Chronicle, Chronicle.execAll, Command.chronicle_of_execAll
-/
import RecompilerAdapter.Proofs.BarredActions
import RecompilerAdapter.Proofs.ObliviousRuns

namespace RecompilerAdapter

variable {σ ν ρ : Type} {performer counterpart : Performer σ ν} {builders remaining : Builders σ ν}
  {world after : World σ ν}

/-- A command that has completed, with what it yielded and what happened meanwhile. -/
structure Entry (σ ν ρ : Type) where
  command : Command σ ν ρ
  outcome : Outcome ρ
  events : List (Event ν)

/-- Commands have completed one after the other, from some builders and a world on. Each entry holds
the events that the world was told meanwhile, so the events of a session are those of its entries in
order. -/
inductive Chronicle (performer : Performer σ ν) :
    Builders σ ν → World σ ν → List (Entry σ ν ρ) → Builders σ ν → World σ ν → Prop where
  | nil {builders : Builders σ ν} {world : World σ ν} :
      Chronicle performer builders world [] builders world
  | cons {builders between remaining : Builders σ ν} {world middle after : World σ ν}
      {entry : Entry σ ν ρ} {entries : List (Entry σ ν ρ)}
      (completes : entry.command.exec performer builders world = .ok (entry.outcome, between) middle)
      (told : middle.history = world.history ++ entry.events)
      (rest : Chronicle performer between middle entries remaining after) :
      Chronicle performer builders world (entry :: entries) remaining after

/-- Commands complete in the same way if the actions of callbacks do. -/
theorem Command.exec_completedBy (completed : ∀ surface handle action,
      (performer surface handle action).CompletedBy (counterpart surface handle action))
    (builders : Builders σ ν) (command : Command σ ν ρ) :
    (command.exec performer builders).CompletedBy (command.exec counterpart builders) :=
  (exec_parallel builders command).completedBy completed

namespace Chronicle

variable {entries : List (Entry σ ν ρ)}

/-- A chronicle tells how its commands end. -/
theorem execAll (chronicle : Chronicle performer builders world entries remaining after) :
    Command.execAll performer builders (entries.map (·.command)) world =
      .ok (entries.map (·.outcome), remaining) after := by
  induction chronicle with
  | nil => rfl
  | cons completes told rest ih =>
    rw [List.map_cons, Command.execAll, Exec.bind_of_ok completes]
    exact Exec.bind_of_ok ih

/-- A chronicle tells of everything that happens. -/
theorem history (chronicle : Chronicle performer builders world entries remaining after) :
    after.history = world.history ++ entries.flatMap (·.events) := by
  induction chronicle with
  | nil => simp
  | cons completes told rest ih => rw [ih, told, List.flatMap_cons, List.append_assoc]

theorem completedBy (completed : ∀ surface handle action,
      (performer surface handle action).CompletedBy (counterpart surface handle action))
    (chronicle : Chronicle performer builders world entries remaining after) :
    Chronicle counterpart builders world entries remaining after := by
  induction chronicle with
  | nil => exact .nil
  | cons completes told rest ih =>
    exact .cons (Command.exec_completedBy completed _ _ _ _ _ completes) told ih

/-- If commands also complete while callbacks are barred, they have the same chronicle then, also
when what is done to others is left out where it stops. -/
theorem attended {arrangements : Arrangements σ ν} {handle : Handle} {slot : HandleSlot} {bound : Nat}
    (chronicle : Chronicle (performArranged arrangements bound) builders world entries remaining after)
    {result : List (Outcome ρ) × Builders σ ν} {final : World σ ν}
    (barred : Command.execAll (barring arrangements handle slot bound) builders
      (entries.map (·.command)) world = .ok result final) :
    Chronicle (attending arrangements handle slot bound) builders world entries remaining after := by
  induction chronicle generalizing result final with
  | nil => exact .nil
  | cons completes told rest ih =>
    obtain ⟨⟨outcome, between⟩, middle, first, further⟩ := Exec.of_bind_ok barred
    have same := Command.exec_completedBy (barring_completedBy arrangements handle slot bound) _ _ _ _ _
      first
    rw [completes] at same
    cases same
    obtain ⟨others, _, second, -⟩ := Exec.of_bind_ok further
    have kept := Command.exec_completedBy (barring_attended arrangements handle slot bound) _ _ _ _ _
      first
    exact .cons kept told (ih second)

end Chronicle

/-! ### Sessions and their chronicles -/

namespace Command

variable {arrangements : Arrangements σ ν} {bound : Nat}

/-- A command only adds to what was told before. -/
theorem exec_grows {command : Command σ ν ρ} {result : Outcome ρ × Builders σ ν}
    (completes : command.exec (performArranged arrangements bound) builders world = .ok result after) :
    ∃ events, after.history = world.history ++ events := by
  have oblivious := (exec_parallel builders command).oblivious
    (performArranged_oblivious arrangements bound) world.history []
  obtain ⟨_, _, -, -, events, told, -⟩ := oblivious.completes (.of_retold world []) completes
  exact ⟨events, told⟩

/-- All that completes has a chronicle. -/
theorem chronicle_of_execAll {commands : List (Command σ ν ρ)} {outcomes : List (Outcome ρ)}
    (ran : execAll (performArranged arrangements bound) builders commands world =
      .ok (outcomes, remaining) after) :
    ∃ entries, Chronicle (performArranged arrangements bound) builders world entries remaining after ∧
      entries.map (·.command) = commands ∧ entries.map (·.outcome) = outcomes := by
  induction commands generalizing builders world outcomes with
  | nil =>
    cases ran
    exact ⟨[], .nil, rfl, rfl⟩
  | cons command commands ih =>
    obtain ⟨⟨outcome, between⟩, middle, first, further⟩ := Exec.of_bind_ok ran
    obtain ⟨⟨others, left⟩, final, second, finishes⟩ := Exec.of_bind_ok further
    cases finishes
    obtain ⟨events, told⟩ := exec_grows first
    obtain ⟨entries, chronicle, isCommands, isOutcomes⟩ := ih second
    exact ⟨⟨command, outcome, events⟩ :: entries, .cons first told chronicle,
      congrArg (command :: ·) isCommands, congrArg (outcome :: ·) isOutcomes⟩

/-- If all commands also complete while callbacks are barred from a wrapper, no callback of another
wrapper acts on it or takes its place. -/
theorem undisturbed_of_completes {handle : Handle} {slot : HandleSlot} {own : σ}
    {commands : List (Command σ ν ρ)}
    (barred : (execAll (barring arrangements handle slot bound) .empty commands).completes
      (.initial own)) : Undisturbed arrangements handle slot bound own commands := by
  unfold Exec.completes at barred
  unfold Undisturbed
  cases ends : execAll (barring arrangements handle slot bound) .empty commands (.initial own) with
  | ok result after =>
    exact ((execAll_parallel .empty commands).completedBy
      (barring_completedBy arrangements handle slot bound) _ _ _ ends).symm
  | error stop after =>
    rw [ends] at barred
    cases barred

end Command

end RecompilerAdapter
