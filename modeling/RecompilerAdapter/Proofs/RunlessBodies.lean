/-
Module: RecompilerAdapter.Proofs.RunlessBodies
Purpose: Bodies that start no runs. Whatever such a body does to wrappers, no engine works while it is
  carried out: nothing happens that a guest takes part in, and no engine changes its mode. So the bound on
  the nesting of runs does not matter to it.
Trusted boundary: none
Main exports: fetches, Undisturbed, Activity.Runless
-/
import RecompilerAdapter.Adapter.Perform
import RecompilerAdapter.Proofs.Performance

namespace RecompilerAdapter

variable {σ ν α : Type}

/-! ### What a guest takes part in -/

/-- Whether a request is about ticks, which a guest does not know of. How often an engine makes such
requests depends on how it is interrupted. -/
def HostRequest.isTiming : HostRequest → Bool
  | addTicks _ => true
  | ticksRemaining => true
  | _ => false

namespace Event

/-- Whether an event belongs to the execution of guest code: a word is fetched, a request is made
that is not about ticks, an instruction is compiled for a coprocessor, or a deferred operation is
called. -/
def ofGuest : Event ν → Bool
  | fetched .. => true
  | calling _ request _ => !request.isTiming
  | requested _ request => !request.isTiming
  | answered _ request _ => !request.isTiming
  | compiling .. => true
  | compiled .. => true
  | invoked .. => true
  | _ => false

/-- Whether an event is the fetch of an instruction word. -/
def isFetch : Event ν → Bool
  | fetched .. => true
  | _ => false

/-- Fetching a word is something that a guest takes part in. -/
theorem ofGuest_of_isFetch {event : Event ν} (fetch : event.isFetch) : event.ofGuest := by
  cases event with
  | fetched => rfl
  | _ => cases fetch

end Event

/-- The events that belong to the execution of guest code. Runs, halts and requests about ticks are
not among them, nor actions on wrappers. -/
def guestEvents (history : List (Event ν)) : List (Event ν) :=
  history.filter Event.ofGuest

/-- The number of instructions that engines have begun to execute. -/
def fetches (history : List (Event ν)) : Nat :=
  history.countP Event.isFetch

/-- What the guest takes part in is told in two parts like all else. -/
@[simp] theorem guestEvents_append (history events : List (Event ν)) :
    guestEvents (history ++ events) = guestEvents history ++ guestEvents events := by
  simp [guestEvents]

/-- Fetched words are counted in two parts. -/
@[simp] theorem fetches_append (history events : List (Event ν)) :
    fetches (history ++ events) = fetches history + fetches events := by
  simp [fetches]

/-- A single event is of the guest or it is not. -/
theorem guestEvents_singleton (event : Event ν) :
    guestEvents [event] = if event.ofGuest then [event] else [] := by
  cases isGuest : event.ofGuest <;> simp [guestEvents, isGuest]

/-- Nothing is lost when words are counted among the events of the guest only. -/
theorem fetches_guestEvents (history : List (Event ν)) :
    fetches (guestEvents history) = fetches history := by
  unfold fetches guestEvents
  rw [List.countP_filter]
  apply List.countP_congr
  intro event _
  simpa using Event.ofGuest_of_isFetch

/-- No guest has been at work between two worlds, and engines are in the modes in which they were.
Only runs let guests work. -/
structure Undisturbed (before after : World σ ν) : Prop where
  guest : guestEvents after.history = guestEvents before.history
  modes : ∀ handle, after.mode? handle = before.mode? handle

namespace Undisturbed

variable {before middle after : World σ ν}

/-- Where nothing happens, nobody is disturbed. -/
theorem refl (world : World σ ν) : Undisturbed world world :=
  ⟨rfl, fun _ => rfl⟩

/-- Nor by two things that disturb nobody. -/
theorem trans (first : Undisturbed before middle) (second : Undisturbed middle after) :
    Undisturbed before after :=
  ⟨second.guest.trans first.guest, fun handle => (second.modes handle).trans (first.modes handle)⟩

/-- Events that the guest takes no part in may be told. -/
theorem record {event : Event ν} (hidden : event.ofGuest = false) :
    Undisturbed before (before.record event) := by
  constructor
  · simp [guestEvents_singleton, hidden]
  · intro handle
    rfl

/-- Wrappers may be changed as long as their engines keep their modes. -/
theorem place {handle : Handle} {wrapper replacement : Wrapper σ ν}
    (present : before.wrappers.get? handle = some wrapper)
    (mode : replacement.engine.mode = wrapper.engine.mode) :
    Undisturbed before (before.place handle replacement) := by
  constructor
  · rfl
  · intro other
    rw [World.mode?_place]
    split
    · rename_i same
      rw [same, mode, World.mode?, present, Option.map_some]
    · rfl

/-- So no word is fetched. -/
theorem fetches_eq (undisturbed : Undisturbed before after) :
    fetches after.history = fetches before.history := by
  rw [← fetches_guestEvents after.history, undisturbed.guest, fetches_guestEvents]

end Undisturbed

/-! ### Actions that are not runs -/

namespace Wrapper

variable {perform : Performer σ ν} {turns : Nat} {surface : Surface} {handle : Handle}
  {action : Action}

/-- A computation after which no guest has been at work. -/
abbrev Undisturbing (computation : Exec σ ν α) : Prop :=
  ∀ world, computation.Ensures world (fun _ after => Undisturbed world after) fun _ _ => True

/-- Looking at a wrapper disturbs nobody. -/
theorem observe_undisturbing {view : Wrapper σ ν → Reply}
    (observes : action.observation? = some view) :
    Undisturbing ((performWith perform turns).recording surface handle action) := by
  intro world
  apply recording_observation observes
  · intro found _
    have begins : Undisturbed world (world.record (.acting surface handle action)) := .record rfl
    exact begins.trans (.record rfl)
  · exact fun _ => trivial

/-- Nor does an action that changes an engine from outside, since no such action touches its
mode. -/
theorem adjust_undisturbing {update : Engine σ ν → Engine σ ν}
    (adjusts : action.adjustment? = some update) :
    Undisturbing ((performWith perform turns).recording surface handle action) := by
  intro world
  apply recording_adjustment adjusts
  · intro found present
    have begins : Undisturbed world (world.record (.acting surface handle action)) := .record rfl
    have adjusted : Undisturbed (world.record (.acting surface handle action))
        ((world.record (.acting surface handle action)).place handle
          { found with engine := update found.engine }) :=
      .place present (Action.mode_adjustment adjusts found.engine)
    exact (begins.trans adjusted).trans (.record rfl)
  · exact fun _ => trivial

/-- An action that is not a run is carried out without any other action. -/
theorem performWith_of_ne_run (noRun : ∀ script, action ≠ .run script) (other : Performer σ ν)
    (otherTurns : Nat) :
    performWith perform turns surface handle action =
      performWith other otherTurns surface handle action := by
  cases action with
  | run script => exact absurd rfl (noRun script)
  | _ => rfl

end Wrapper

/-- One more than zero is enough of a bound for a single action, and the rest of it is for what
happens inside. -/
theorem perform_succ (bound : Nat) : (perform (bound + 1) : Performer σ ν) =
    (Wrapper.performWith (perform bound) bound).recording :=
  rfl

/-- An action that is no run has nothing inside, so the bound does not matter to it. -/
theorem perform_of_ne_run {action : Action} (noRun : ∀ script, action ≠ .run script) (bound : Nat)
    (surface : Surface) (handle : Handle) :
    (perform (bound + 1) surface handle action : Exec σ ν Reply) =
      perform 1 surface handle action := by
  rw [perform_succ, perform_succ, Performer.recording, Performer.recording,
    Wrapper.performWith_of_ne_run noRun]

/-- A change of an engine is recorded and carried out. -/
theorem perform_adjust {action : Action} {update : Engine σ ν → Engine σ ν}
    (adjusts : action.adjustment? = some update) {world : World σ ν} {handle : Handle}
    {wrapper : Wrapper σ ν} (present : world.wrappers.get? handle = some wrapper) (bound : Nat)
    (surface : Surface) :
    perform (bound + 1) surface handle action world =
      .ok .done (((world.record (.acting surface handle action)).place handle
        { wrapper with engine := update wrapper.engine }).record
          (.acted surface handle action .done)) := by
  have presentToo : (world.record (.acting surface handle action)).wrappers.get? handle =
      some wrapper := present
  rw [perform_succ, Performer.recording, Wrapper.performWith_adjustment adjusts,
    Exec.bind_of_ok (Exec.emit_apply _ _), bind_assoc]
  exact Exec.bind_of_ok (Exec.modifyEngine_of_present presentToo update)

/-- A look at a wrapper is recorded and changes nothing. -/
theorem perform_observe {action : Action} {view : Wrapper σ ν → Reply}
    (observes : action.observation? = some view) {world : World σ ν} {handle : Handle}
    {wrapper : Wrapper σ ν} (present : world.wrappers.get? handle = some wrapper) (bound : Nat)
    (surface : Surface) :
    perform (bound + 1) surface handle action world =
      .ok (view wrapper) ((world.record (.acting surface handle action)).record
        (.acted surface handle action (view wrapper))) := by
  have presentToo : (world.record (.acting surface handle action)).wrappers.get? handle =
      some wrapper := present
  rw [perform_succ, Performer.recording, Wrapper.performWith_observation observes,
    Exec.bind_of_ok (Exec.emit_apply _ _), bind_assoc]
  exact Exec.bind_of_ok (Exec.wrapper_of_present presentToo)

/-- So all actions but runs disturb nobody. -/
theorem perform_undisturbing {action : Action} (noRun : ∀ script, action ≠ .run script) (bound : Nat)
    (surface : Surface) (handle : Handle) :
    Wrapper.Undisturbing (perform (bound + 1) surface handle action : Exec σ ν Reply) := by
  rw [perform_succ]
  cases action using Action.byKind σ ν with
  | run script => exact absurd rfl (noRun script)
  | adjust action update adjusts => exact Wrapper.adjust_undisturbing adjusts
  | observe action view observes => exact Wrapper.observe_undisturbing observes
  | arrange number => exact fun _ => Exec.Ensures.emit_bind trivial

/-! ### Bodies -/

/-- A body that starts no runs, whatever it learns. Such a body does the same under every bound on
the nesting of runs, so it can be compared where the bounds differ. -/
inductive Activity.Runless : Activity σ ν α → Prop where
  | finish (answer : α) : Runless (.finish answer)
  | access {update : Shared σ → Shared σ} {next : Shared σ → Activity σ ν α}
      (rest : ∀ before, Runless (next before)) : Runless (.access update next)
  | record {note : ν} {next : Activity σ ν α} (rest : Runless next) : Runless (.record note next)
  | perform {surface : Surface} {target : Handle} {action : Action} {next : Reply → Activity σ ν α}
      (noRun : ∀ script, action ≠ .run script) (rest : ∀ reply, Runless (next reply)) :
      Runless (.perform surface target action next)

namespace Activity.Runless

variable {body : Activity σ ν α}

/-- A body without runs does the same under every bound. -/
theorem exec_perform (runless : body.Runless) (bound : Nat) :
    body.exec (RecompilerAdapter.perform (bound + 1)) = body.exec (RecompilerAdapter.perform 1) := by
  induction runless with
  | finish answer => simp only [exec]
  | access rest ih => simp only [exec, ih]
  | record rest ih => simp only [exec, ih]
  | perform noRun rest ih => simp only [exec, ih, perform_of_ne_run noRun]

/-- It disturbs nobody, by induction on the body. -/
theorem undisturbing (runless : body.Runless) :
    Wrapper.Undisturbing (body.exec (RecompilerAdapter.perform 1)) := by
  induction runless with
  | finish answer => exact fun world => .refl world
  | access rest ih =>
    intro world
    apply Exec.Ensures.modifyGet_bind
    apply (ih _ _).mono
    · exact fun _ _ undisturbed => ⟨undisturbed.guest, undisturbed.modes⟩
    · exact fun _ _ _ => trivial
  | record rest ih =>
    intro world
    apply Exec.Ensures.emit_bind
    apply (ih _).mono
    · exact fun _ _ undisturbed => (Undisturbed.record rfl).trans undisturbed
    · exact fun _ _ _ => trivial
  | perform noRun rest ih =>
    intro world
    apply (perform_undisturbing noRun 0 _ _ world).bind
    intro reply middle performed
    apply (ih reply middle).mono
    · exact fun _ _ undisturbed => performed.trans undisturbed
    · exact fun _ _ _ => trivial

end Activity.Runless

end RecompilerAdapter
