/-
Module: RecompilerAdapter.Proofs.ObliviousRuns
Purpose: Nothing looks back. What was told before has no influence on what a callback, an engine or an
  action does: with another history they end in the same way, and tell of the same events.
Trusted boundary: none
Main exports: World.retold, Exec.Oblivious, perform_oblivious, performArranged_oblivious
-/
import RecompilerAdapter.Proofs.Correspondence
import RecompilerAdapter.Proofs.ParallelSessions

namespace RecompilerAdapter

variable {σ ν α : Type} {world other : World σ ν}

/-! ### Worlds with another history -/

namespace World

/-- The world with another history. -/
def retold (world : World σ ν) (history : List (Event ν)) : World σ ν :=
  { world with trace := history.toArray }

@[simp] theorem history_retold (world : World σ ν) (history : List (Event ν)) :
    (world.retold history).history = history := by
  simp [retold, World.history]

@[simp] theorem retold_history (world : World σ ν) : world.retold world.history = world := by
  simp [retold, World.history]

@[simp] theorem retold_retold (world : World σ ν) (history again : List (Event ν)) :
    (world.retold history).retold again = world.retold again :=
  rfl

@[simp] theorem retold_record (world : World σ ν) (event : Event ν) (history : List (Event ν)) :
    (world.record event).retold history = world.retold history :=
  rfl

/-- To record an event is to tell another history. -/
theorem record_eq_retold (world : World σ ν) (event : Event ν) :
    world.record event = world.retold (world.history ++ [event]) := by
  simp [record, retold, World.history, ← List.push_toArray]

theorem recordAll_eq_retold (world : World σ ν) (events : List (Event ν)) :
    world.recordAll events = world.retold (world.history ++ events) := by
  induction events generalizing world with
  | nil => simp
  | cons event events ih =>
    rw [recordAll_cons, ih, history_record, retold_record, List.append_assoc, List.singleton_append]

end World

/-- Two worlds are the same, except that different events were told before the latest ones. The
latest ones are the same in both, so the difference is settled when it starts. -/
def World.Apart (first second : List (Event ν)) (world other : World σ ν) : Prop :=
  ∃ events, world.history = first ++ events ∧ other = world.retold (second ++ events)

namespace World.Apart

variable {first second : List (Event ν)}

theorem of_retold (world : World σ ν) (history : List (Event ν)) :
    Apart world.history history world (world.retold history) :=
  ⟨[], by simp, by simp⟩

/-- Two worlds that differ in their histories still do so by the same amount when both tell of one
more event. -/
theorem record (apart : Apart first second world other) (event : Event ν) :
    Apart first second (world.record event) (other.record event) := by
  obtain ⟨events, told, rfl⟩ := apart
  refine ⟨events ++ [event], by simp [told], ?_⟩
  rw [record_eq_retold, history_retold, retold_retold, retold_record, List.append_assoc]

end World.Apart

/-! ### Computations that do not look back -/

namespace Exec

/-- With another history, the computation ends in the same way and tells of the same events. No
function of the adapter reads what was told, but this has to be proved function by function. -/
def Oblivious (computation : Exec σ ν α) : Prop :=
  ∀ first second, Corresponds (World.Apart first second) (World.Apart first second)
    (World.Apart first second) (· = ·) computation computation

/-- What neither looks at the history nor tells of anything. -/
theorem Quiet.oblivious {computation : Exec σ ν α} (isQuiet : computation.Quiet) :
    computation.Oblivious := by
  rintro first second world _ ⟨events, told, rfl⟩
  have still := isQuiet.trace_finalWorld world
  have elsewhere := isQuiet world (second ++ events).toArray
  unfold finalWorld at still
  unfold World.retold
  rw [elsewhere]
  cases ends : computation world with
  | ok answer after | error stop after =>
    rw [ends] at still
    exact ⟨rfl, events, (congrArg Array.toList still).trans told, rfl⟩

theorem Oblivious.emit (event : Event ν) : (Exec.emit event : Exec σ ν Unit).Oblivious :=
  fun _ _ => .emit fun _ _ apart => apart.record event

end Exec

/-- Actions do not look back, whatever was told. -/
def Performer.Oblivious (perform : Performer σ ν) : Prop :=
  ∀ surface handle action, (perform surface handle action).Oblivious

section

variable {perform : Performer σ ν}

/-- What is put together from computations that do not look back does not look back either. -/
theorem Exec.Parallel.oblivious {computation counterpart : Exec σ ν α}
    (parallel : Parallel perform perform computation counterpart) (oblivious : perform.Oblivious)
    (first second : List (Event ν)) :
    Corresponds (World.Apart first second) (World.Apart first second) (World.Apart first second) (· = ·)
      computation counterpart := by
  induction parallel with
  | quiet isQuiet => exact isQuiet.oblivious first second
  | emit told => exact Oblivious.emit _ first second
  | act surface handle action => exact oblivious surface handle action first second
  | bind parts rest ih ihRest => exact ih.bind_same ihRest

/-- No body of a callback looks back. -/
theorem Activity.exec_oblivious (oblivious : perform.Oblivious) (body : Activity σ ν α) :
    (body.exec perform).Oblivious :=
  (Activity.exec_parallel body).oblivious oblivious

/-- No action looks back, if those inside it do not. -/
theorem Wrapper.performWith_oblivious (oblivious : perform.Oblivious) (turns : Nat) :
    (performWith perform turns).Oblivious := fun surface handle action =>
  (performWith_parallel_same surface handle action).oblivious oblivious

/-- Neither does what was arranged. -/
theorem Wrapper.performWithin_oblivious (arrangements : Arrangements σ ν)
    (oblivious : perform.Oblivious) (turns : Nat) :
    (performWithin arrangements perform turns).Oblivious := fun surface handle action =>
  (performWithin_parallel arrangements surface handle action).oblivious oblivious

/-- Neither does an action that is recorded. -/
theorem Performer.recording_oblivious (oblivious : perform.Oblivious) :
    perform.recording.Oblivious := by
  intro surface handle action first second
  apply (Exec.Oblivious.emit (.acting surface handle action) first second).bind_same
  intro _
  apply (oblivious surface handle action first second).bind_same
  intro reply
  exact (Exec.Oblivious.emit (.acted surface handle action reply) first second).bind_same
    fun _ => .pure rfl

end

/-- No action looks back. -/
theorem perform_oblivious (bound : Nat) : (perform bound : Performer σ ν).Oblivious := by
  induction bound with
  | zero => exact fun _ _ _ _ _ => .throw fun _ _ apart => apart
  | succ bound ih => exact Performer.recording_oblivious (Wrapper.performWith_oblivious ih bound)

/-- Nor does an action of a caller with arrangements. -/
theorem performArranged_oblivious (arrangements : Arrangements σ ν) (bound : Nat) :
    (performArranged arrangements bound).Oblivious := by
  induction bound with
  | zero => exact fun _ _ _ _ _ => .throw fun _ _ apart => apart
  | succ bound ih =>
    exact Performer.recording_oblivious (Wrapper.performWithin_oblivious arrangements ih bound)

end RecompilerAdapter
