/-
Module: RecompilerAdapter.Proofs.ArrangedActions
Purpose: Actions of a caller with arrangements. Where a computation completes by means of one performer,
  it completes in the same way by means of any other one that completes what the first one does. So
  whatever a caller completes without arrangements, it completes in the same way with them.
Trusted boundary: none
Main exports: Exec.CompletedBy, Performer.recording_completedBy, Wrapper.performWithin_none,
  performArranged_none, perform_completedBy
-/
import RecompilerAdapter.Proofs.ParallelSessions

namespace RecompilerAdapter

variable {σ ν α β : Type} {perform counterpart : Performer σ ν} {turns : Nat} {surface : Surface}
  {handle : Handle} {action : Action}

/-! ### Computations that complete in the same way -/

namespace Exec

/-- Wherever the first computation completes, the other one completes in the same way. Where the
first one stops, nothing is said of the other. -/
def CompletedBy (computation other : Exec σ ν α) : Prop :=
  ∀ world answer after, computation world = .ok answer after → other world = .ok answer after

namespace CompletedBy

variable {computation other : Exec σ ν α}

theorem refl (computation : Exec σ ν α) : computation.CompletedBy computation :=
  fun _ _ _ => id

theorem bind {next onward : α → Exec σ ν β} (first : computation.CompletedBy other)
    (rest : ∀ answer, (next answer).CompletedBy (onward answer)) :
    (computation >>= next).CompletedBy (other >>= onward) := by
  intro world answer after completes
  obtain ⟨middle, between, ends, goesOn⟩ := of_bind_ok completes
  rw [bind_of_ok (first world middle between ends)]
  exact rest middle between answer after goesOn

theorem trans {further : Exec σ ν α} (first : computation.CompletedBy other)
    (second : other.CompletedBy further) : computation.CompletedBy further :=
  fun world answer after completes => second world answer after (first world answer after completes)

theorem throw (stop : Stop) : (MonadExcept.throw stop : Exec σ ν α).CompletedBy other :=
  fun _ _ _ stops => nomatch stops

end CompletedBy

/-- Parallel computations complete in the same way if their performers do. -/
theorem Parallel.completedBy {computation other : Exec σ ν α}
    (parallel : Parallel perform counterpart computation other)
    (completed : ∀ surface handle action,
      (perform surface handle action).CompletedBy (counterpart surface handle action)) :
    computation.CompletedBy other := by
  induction parallel with
  | quiet | emit => exact .refl _
  | act surface handle action => exact completed surface handle action
  | bind parts rest ih ihRest => exact ih.bind ihRest

end Exec

/-- Recording an action does not keep it from completing. -/
theorem Performer.recording_completedBy
    (completed : (perform surface handle action).CompletedBy (counterpart surface handle action)) :
    (perform.recording surface handle action).CompletedBy
      (counterpart.recording surface handle action) :=
  .bind (.refl _) fun _ => completed.bind fun _ => .refl _

/-- What is recorded of an action depends on how this action is carried out only. -/
theorem Performer.recording_congr
    (same : perform surface handle action = counterpart surface handle action) :
    perform.recording surface handle action = counterpart.recording surface handle action := by
  unfold recording
  rw [same]

/-! ### With arrangements and without -/

namespace Wrapper

section

variable {arrangements : Arrangements σ ν}

theorem performWithin_of_arranged {arrangement : Arrangement σ ν}
    (arranged : arrangements.find? action = some arrangement) :
    performWithin arrangements perform turns surface handle action =
      arrangement.exec perform handle := by
  rw [performWithin, arranged]

theorem performWithin_of_unarranged (unarranged : arrangements.find? action = none) :
    performWithin arrangements perform turns surface handle action =
      performWith perform turns surface handle action := by
  rw [performWithin, unarranged]

end

/-- Without arrangements, nothing is added to what a caller can do. -/
theorem performWithin_none :
    performWithin (fun _ => none) perform turns = performWith perform turns := by
  funext surface handle action
  apply performWithin_of_unarranged
  cases action <;> rfl

/-- An action that completes without arrangements has nothing to do with any. -/
theorem performWith_completedBy (arrangements : Arrangements σ ν)
    (completed : ∀ surface handle action,
      (perform surface handle action).CompletedBy (counterpart surface handle action)) :
    (performWith perform turns surface handle action).CompletedBy
      (performWithin arrangements counterpart turns surface handle action) := by
  cases action with
  | arrange number => exact .throw _
  | _ => exact (performWith_parallel_same _ _ _).completedBy completed

end Wrapper

/-- To have arranged nothing is to have no arrangements. -/
theorem performArranged_none (bound : Nat) :
    (performArranged (fun _ => none) bound : Performer σ ν) = RecompilerAdapter.perform bound := by
  induction bound with
  | zero => rfl
  | succ bound ih =>
    show Performer.recording
      (Wrapper.performWithin (fun _ => none) (performArranged (fun _ => none) bound) bound) = _
    rw [Wrapper.performWithin_none, ih]
    rfl

/-- Whatever a caller completes without arrangements, it completes in the same way with them. -/
theorem perform_completedBy (arrangements : Arrangements σ ν) (bound : Nat) (surface : Surface)
    (handle : Handle) (action : Action) :
    (RecompilerAdapter.perform bound surface handle action).CompletedBy
      (performArranged arrangements bound surface handle action) := by
  induction bound generalizing surface handle action with
  | zero => exact .throw _
  | succ bound ih =>
    exact Performer.recording_completedBy (Wrapper.performWith_completedBy arrangements ih)

end RecompilerAdapter
