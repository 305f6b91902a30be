/-
Module: RecompilerAdapter.Scenario.Transcript
Purpose: Transcripts of scenarios. A scenario performs steps one after the other and then takes everything
  down. Its transcript says for each completed step what it yielded and what happened during it, and how
  it all ended: with the events of the teardown, or with a stop and the events since the last completed
  step. Steps after a stop are not performed.
Trusted boundary: the definitions of this module
Main exports: Stage, Ending, Transcript, Transcript.record
-/
import RecompilerAdapter.Adapter.Perform
import RecompilerAdapter.Scenario.Caller

namespace RecompilerAdapter.Scenario

/-- The state of everything in a scenario. -/
abbrev Stage : Type :=
  World Caller Note

/-- A computation of a scenario. -/
abbrev Play : Type → Type :=
  Exec Caller Note

/-- The bound on the nesting of runs, and on the turns of each, in all scenarios. It is beyond what
a scenario can reach. -/
def turnBound : Nat :=
  Nat.pow 10 15

/-- Carries out actions in all scenarios. -/
def performer : Performer Caller Note :=
  perform turnBound

/-- A completed step: what it yielded and what happened during it. -/
structure StepRecord (ρ : Type) where
  result : ρ
  events : List (Event Note)

/-- The end of a scenario. -/
inductive Ending where
  /-- All steps were completed, and everything was taken down. -/
  | completed (events : List (Event Note))
  /-- A step, or the teardown, stopped. -/
  | stopped (stop : Stop) (events : List (Event Note))

/-- The transcript of a scenario, with the state of everything at its end. -/
structure Transcript (ρ : Type) where
  steps : List (StepRecord ρ)
  ending : Ending
  stage : Stage

namespace Transcript

variable {ρ κ τ : Type}

/-- What happened between two states, the second of which is later. -/
def eventsBetween (before after : Stage) : List (Event Note) :=
  (after.trace.extract before.trace.size after.trace.size).toList

/-- Performs steps, then the teardown. The scenario's own state `τ` is passed from step to step. -/
def record (step : τ → κ → Play (ρ × τ)) (teardown : τ → Play Unit) :
    τ → Stage → List κ → Transcript ρ
  | state, before, [] =>
    match teardown state before with
    | .ok () after => ⟨[], .completed (eventsBetween before after), after⟩
    | .error stop after => ⟨[], .stopped stop (eventsBetween before after), after⟩
  | state, before, next :: rest =>
    match step state next before with
    | .ok (result, state) after =>
      let transcript := record step teardown state after rest
      { transcript with
        steps := ⟨result, eventsBetween before after⟩ :: transcript.steps }
    | .error stop after => ⟨[], .stopped stop (eventsBetween before after), after⟩

end Transcript

end RecompilerAdapter.Scenario
