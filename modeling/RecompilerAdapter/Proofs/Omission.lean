/-
Module: RecompilerAdapter.Proofs.Omission
Purpose: Leaving out runs that are rejected. A computation tracks another one if it does the same in a
  world whose history does not tell of rejected runs, and leaves such a world behind. No computation looks
  at the history, so if the actions that one performer carries out track those of another one, then so
  does everything that calls callbacks.
Trusted boundary: none
Main exports: Event.keep, withoutRejections, Exec.Tracks, Performer.Tracks
-/
import Mathlib.Data.List.Induction
import RecompilerAdapter.Proofs.ParallelEngines

namespace RecompilerAdapter

variable {σ ν α β : Type}

/-! ### Histories without rejected runs -/

/-- What is kept of a history after one more event. Of a rejected run, the reply is left out, and
the attempt, which is the event right before it. -/
def Event.keep (kept : List (Event ν)) : Event ν → List (Event ν)
  | acted _ _ (.run _) .alreadyRunning => kept.dropLast
  | event => kept ++ [event]

theorem Event.Unrejected.keep {event : Event ν} (told : event.Unrejected) (history : List (Event ν)) :
    event.keep history = history ++ [event] := by
  unfold Event.keep
  split
  · exact told.elim
  · rfl

/-- A history that does not tell of rejected runs. A rejected run has told twice of itself, when it
was asked for and when it was refused; both go. -/
def withoutRejections (history : List (Event ν)) : List (Event ν) :=
  history.foldl Event.keep []

@[simp] theorem withoutRejections_append_singleton (history : List (Event ν)) (event : Event ν) :
    withoutRejections (history ++ [event]) = event.keep (withoutRejections history) := by
  simp [withoutRejections]

/-- No rejected run is told of. -/
theorem ne_rejection_of_mem {history : List (Event ν)} {event : Event ν}
    (isKept : event ∈ withoutRejections history) (surface : Surface) (handle : Handle)
    (script : Option (List EngineOperation)) :
    event ≠ .acted surface handle (.run script) .alreadyRunning := by
  induction history using List.reverseRecOn with
  | nil => cases isKept
  | append_singleton history last ih =>
    rw [withoutRejections_append_singleton] at isKept
    unfold Event.keep at isKept
    split at isKept
    · exact ih (List.dropLast_subset _ isKept)
    · rename_i isOther
      rcases List.mem_append.1 isKept with earlier | isLast
      · exact ih earlier
      · rw [List.mem_singleton.1 isLast]
        exact isOther surface handle script

/-- The world with a history that does not tell of rejected runs. -/
def World.withoutRejections (world : World σ ν) : World σ ν :=
  { world with trace := (RecompilerAdapter.withoutRejections world.history).toArray }

namespace World

theorem withoutRejections_record {event : Event ν} (world : World σ ν)
    (kept : ∀ history, event.keep history = history ++ [event]) :
    (world.record event).withoutRejections = world.withoutRejections.record event := by
  simp [withoutRejections, record, history, kept]

end World

namespace Exec

/-- An end of a computation, in a world that does not tell of rejected runs. The answer stays, and
so does the reason of a stop. -/
def endWithoutRejections :
    EStateM.Result Stop (World σ ν) α → EStateM.Result Stop (World σ ν) α
  | .ok answer after => .ok answer after.withoutRejections
  | .error stop after => .error stop after.withoutRejections

/-- From a world that does not tell of rejected runs, the counterpart ends as the computation does,
in a world that does not tell of them either. -/
def Tracks (computation counterpart : Exec σ ν α) : Prop :=
  ∀ world, counterpart world.withoutRejections = endWithoutRejections (computation world)

namespace Tracks

variable {computation counterpart : Exec σ ν α}

theorem quiet (isQuiet : computation.Quiet) : computation.Tracks computation := by
  intro world
  refine (isQuiet world _).trans ?_
  have same := Quiet.trace_finalWorld isQuiet world
  unfold finalWorld at same
  cases ends : computation world <;> rw [ends] at same <;>
    simp only [endWith, endWithoutRejections, World.withoutRejections, World.history, same]

theorem emit {event : Event ν} (told : event.Unrejected) :
    Tracks (Exec.emit event : Exec σ ν Unit) (Exec.emit event) :=
  fun world => congrArg (EStateM.Result.ok ()) (world.withoutRejections_record told.keep).symm

theorem bind {next other : α → Exec σ ν β} (first : Tracks computation counterpart)
    (rest : ∀ answer, Tracks (next answer) (other answer)) :
    Tracks (computation >>= next) (counterpart >>= other) := by
  intro world
  have same := first world
  cases ends : computation world with
  | ok answer after =>
    rw [ends] at same
    rw [bind_of_ok ends, bind_of_ok same]
    exact rest answer after
  | error stop after =>
    rw [ends] at same
    rw [bind_of_error ends, bind_of_error same]
    rfl

end Tracks

end Exec

/-- Every action that the performer carries out tracks what its counterpart carries out. -/
def Performer.Tracks (perform counterpart : Performer σ ν) : Prop :=
  ∀ surface handle action, (perform surface handle action).Tracks (counterpart surface handle action)

/-- Parallel computations track each other if their performers do. -/
theorem Exec.Parallel.tracks {perform counterpart : Performer σ ν}
    (tracks : perform.Tracks counterpart) {computation other : Exec σ ν α}
    (parallel : computation.Parallel perform counterpart other) : computation.Tracks other := by
  induction parallel with
  | quiet isQuiet => exact .quiet isQuiet
  | emit told => exact .emit told
  | act surface handle action => exact tracks surface handle action
  | bind parts rest ih ihRest => exact ih.bind ihRest

end RecompilerAdapter
