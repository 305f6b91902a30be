/-
Module: RecompilerAdapter.Proofs.BarredActions
Purpose: Barring callbacks from a wrapper. Actions may be carried out so that everything stops where a
  callback of another wrapper acts on a given one, or where a wrapper that is built in a callback gets its
  place. If that changes nothing, no callback does so; then everything that is done to the other wrappers
  passes the given one by.
Trusted boundary: none
Main exports: Performer.sparing, shunning, barring, attending, Command.Undisturbed,
  Performer.recording_spares, shunning_aside
-/
import RecompilerAdapter.Proofs.ArrangedActions
import RecompilerAdapter.Proofs.BystandingBuilders

namespace RecompilerAdapter

variable {σ ν ω ρ α β : Type}

/-- Carries out actions, but stops after one that gives a wrapper's place to another one: the handle
to a new wrapper, or the slot to its bridges. -/
def Performer.sparing (handle : Handle) (slot : HandleSlot) (perform : Performer σ ν) : Performer σ ν :=
  fun surface target action => do
    let before := (← get).slots.get? slot
    let reply ← perform surface target action
    if reply = .built handle ∨ (← get).slots.get? slot ≠ before then
      throw (.danglingHandle handle)
    return reply

section

variable (arrangements : Arrangements σ ν) (handle : Handle) (slot : HandleSlot)

/-- Carries out actions, but stops where the wrapper behind the handle is acted on or its place is
taken, at any depth. -/
def shunning : (bound : Nat) → Performer σ ν
  | 0, _, _, _ => throw .outOfFuel
  | bound + 1, surface, target, action =>
    if target = handle then
      throw (.danglingHandle handle)
    else
      Performer.sparing handle slot
        (Performer.recording (Wrapper.performWithin arrangements
          (fun surface target action => shunning bound surface target action) bound))
        surface target action

/-- Carries out actions, but stops where a callback of another wrapper acts on the one behind the
handle, or where a callback has its place taken, at any depth. -/
def barring : (bound : Nat) → Performer σ ν
  | 0, _, _, _ => throw .outOfFuel
  | bound + 1, surface, target, action =>
    if target = handle then
      Performer.recording
        (Wrapper.performWith (fun surface target action => barring bound surface target action) bound)
        surface target action
    else
      shunning arrangements handle slot (bound + 1) surface target action

/-- No callback of another wrapper acts on the one behind the handle in a session of these commands,
and none has its place taken: to bar them from it changes nothing. -/
def Command.Undisturbed (bound : Nat) (own : σ) (commands : List (Command σ ν ρ)) : Prop :=
  execAll (barring arrangements handle slot bound) .empty commands (.initial own) =
    execAll (performArranged arrangements bound) .empty commands (.initial own)

end

/-! ### Computations that complete in the same way -/

namespace Exec

/-- Stops in the same way behind all handles if no wrapper is there. Otherwise it could be seen from
the stop which handle was tried. -/
def ifPresent (handle : Handle) (computation : Exec σ ν α) : Exec σ ν α :=
  fun world =>
    match world.wrappers.get? handle with
    | some _ => computation world
    | none => .error .outOfFuel world

/-- What stops is left out: it leaves no trace and has a given answer. In the session with one
wrapper, this stands for everything that happens to the other wrappers. -/
def caught (computation : Exec σ ν α) (missing : α) : Exec σ ν α :=
  fun world =>
    match computation world with
    | .ok answer after => .ok answer after
    | .error _ _ => .ok missing world

namespace CompletedBy

variable {computation other : Exec σ ν α}

theorem caught (computation : Exec σ ν α) (missing : α) :
    computation.CompletedBy (computation.caught missing) := by
  intro world answer after completes
  rw [Exec.caught, completes]

theorem of_ifPresent (handle : Handle) (computation : Exec σ ν α) :
    (computation.ifPresent handle).CompletedBy computation := by
  intro world answer after completes
  unfold ifPresent at completes
  split at completes
  · exact completes
  · cases completes

theorem ifPresent {handle : Handle} (stops : ∀ world, world.wrappers.get? handle = none →
      computation.Ensures world (fun _ _ => False) fun _ _ => True) :
    computation.CompletedBy (computation.ifPresent handle) := by
  intro world answer after completes
  unfold Exec.ifPresent
  cases present : world.wrappers.get? handle with
  | some wrapper => exact completes
  | none => exact ((stops world present).of_completed completes).elim

end CompletedBy

end Exec

/-! ### Leaving out what is done to others -/

/-- No action on a wrapper completes that is not there. Each action looks the wrapper up at some
point, and stops there. -/
theorem Wrapper.recording_absent {perform : Performer σ ν} {turns : Nat} {handle : Handle}
    (surface : Surface) (action : Action) (world : World σ ν)
    (absent : world.wrappers.get? handle = none) :
    ((performWith perform turns).recording surface handle action).Ensures world (fun _ _ => False)
      fun _ _ => True := by
  have missing (found : Wrapper σ ν) : world.wrappers.get? handle ≠ some found := by
    rw [absent]
    rintro ⟨⟩
  cases action using Action.byKind σ ν with
  | run script =>
    rw [recording_run]
    apply Exec.Ensures.emit_bind
    -- A script is laid down before the wrapper is looked up, so the lookup may come one step later.
    cases script with
    | none =>
      rw [schedule, pure_bind, run, bind_assoc]
      exact Exec.Ensures.wrapper_bind (fun found present => (missing found present).elim)
        fun _ => trivial
    | some operations =>
      apply Exec.Ensures.modify_bind
      rw [run, bind_assoc]
      exact Exec.Ensures.wrapper_bind (fun found present => (missing found present).elim)
        fun _ => trivial
  | adjust action update adjusts =>
    exact recording_adjustment adjusts (fun found present => (missing found present).elim)
      fun _ => trivial
  | observe action view observes =>
    exact recording_observation observes (fun found present => (missing found present).elim)
      fun _ => trivial
  | arrange number => exact Exec.Ensures.emit_bind trivial

/-- Carries out actions as `perform` does, but those on wrappers that are not there stop in the same
way behind all handles. -/
def performPresent : (bound : Nat) → Performer σ ν
  | 0, _, _, _ => throw .outOfFuel
  | bound + 1, surface, target, action =>
    (Performer.recording
      (Wrapper.performWith (fun surface target action => performPresent bound surface target action)
        bound) surface target action).ifPresent target

section

variable (arrangements : Arrangements σ ν) (handle : Handle) (slot : HandleSlot)

/-- Carries out actions as `barring` does, but leaves out what stops while another wrapper is acted
on. -/
def attending : (bound : Nat) → Performer σ ν
  | 0, surface, target, action =>
    if target = handle then
      throw .outOfFuel
    else
      (shunning arrangements handle slot 0 surface target action).caught .done
  | bound + 1, surface, target, action =>
    if target = handle then
      (Performer.recording
        (Wrapper.performWith (fun surface target action => attending bound surface target action)
          bound) surface target action).ifPresent target
    else
      (shunning arrangements handle slot (bound + 1) surface target action).caught .done

variable (bound : Nat) (surface : Surface) (target : Handle) (action : Action)

theorem performPresent_completedBy :
    (performPresent (σ := σ) (ν := ν) bound surface target action).CompletedBy
      (perform bound surface target action) := by
  induction bound generalizing surface target action with
  | zero => exact .throw _
  | succ bound ih =>
    exact (Exec.CompletedBy.of_ifPresent target _).trans (Performer.recording_completedBy
      ((Wrapper.performWith_parallel_same surface target action).completedBy ih))

/-- To spare a wrapper does not change how an action completes. -/
theorem Performer.sparing_completedBy (performer : Performer σ ν) :
    (performer.sparing handle slot surface target action).CompletedBy
      (performer surface target action) := by
  intro world reply after completes
  have begins : (do
      let reply ← performer surface target action
      if reply = .built handle ∨ (← get).slots.get? slot ≠ world.slots.get? slot then
        throw (.danglingHandle handle)
      return reply : Exec σ ν Reply) world = .ok reply after := completes
  obtain ⟨answer, middle, ends, checked⟩ := Exec.of_bind_ok begins
  have isUntaken : (if answer = .built handle ∨ middle.slots.get? slot ≠ world.slots.get? slot then
      throw (.danglingHandle handle) >>= fun _ : Unit => return answer
    else return answer : Exec σ ν Reply) middle = .ok reply after := checked
  split at isUntaken
  · cases isUntaken
  · cases isUntaken
    exact ends

theorem shunning_completedBy :
    (shunning arrangements handle slot bound surface target action).CompletedBy
      (performArranged arrangements bound surface target action) := by
  induction bound generalizing surface target action with
  | zero => exact .throw _
  | succ bound ih =>
    unfold shunning performArranged
    split
    · exact .throw _
    · exact (Performer.sparing_completedBy handle slot surface target action _).trans
        (Performer.recording_completedBy
          ((Wrapper.performWithin_parallel arrangements surface target action).completedBy ih))

/-- What completes with barred callbacks completes in the same way without. -/
theorem barring_completedBy :
    (barring arrangements handle slot bound surface target action).CompletedBy
      (performArranged arrangements bound surface target action) := by
  induction bound generalizing surface target action with
  | zero => exact .throw _
  | succ bound ih =>
    unfold barring
    split
    · exact Performer.recording_completedBy (Wrapper.performWith_completedBy arrangements ih)
    · exact shunning_completedBy arrangements handle slot (bound + 1) surface target action

/-- What completes with barred callbacks completes in the same way if the rest is left out. -/
theorem barring_attended :
    (barring arrangements handle slot bound surface target action).CompletedBy
      (attending arrangements handle slot bound surface target action) := by
  induction bound generalizing surface target action with
  | zero => exact .throw _
  | succ bound ih =>
    unfold barring attending
    split
    · exact (Performer.recording_completedBy
        ((Wrapper.performWith_parallel_same surface target action).completedBy ih)).trans
          (.ifPresent fun world absent => Wrapper.recording_absent surface action world absent)
    · exact .caught _ _

end

theorem attending_other {arrangements : Arrangements σ ν} {handle target : Handle} {slot : HandleSlot}
    (different : target ≠ handle) (bound : Nat) (surface : Surface) (action : Action) :
    attending arrangements handle slot bound surface target action =
      (shunning arrangements handle slot bound surface target action).caught .done := by
  cases bound with
  | zero => exact if_neg different
  | succ bound => exact if_neg different

/-! ### What is done to others passes by -/

section

variable {own : Belongings σ ν ω} {start : World σ ν} {performer : Performer σ ν} {surface : Surface}
  {target : Handle} {action : Action}

/-- What spares the wrapper passes it by, once it is made sure that its place is not taken. -/
theorem Performer.sparing_aside (spares : (performer surface target action).Spares own start
      fun reply => reply = .built own.handle) :
    (performer.sparing own.handle own.slot surface target action).Aside own start
      fun reply => reply ≠ .built own.handle := by
  intro world passed
  apply Exec.Ensures.get_bind
  refine (spares world passed).bind fun reply after spared => ?_
  apply Exec.Ensures.get_bind
  dsimp only
  split
  · exact trivial
  · rename_i untaken
    rw [not_or, not_not, passed.slot] at untaken
    exact ⟨spared untaken.1 untaken.2, untaken.1⟩

/-- Recording an action on another wrapper is nothing to the wrapper. -/
theorem Performer.recording_spares (different : target ≠ own.handle) {taken : Reply → Prop}
    (spares : (performer surface target action).Spares own start taken) :
    (performer.recording surface target action).Spares own start taken := by
  have permits : own.Permits target := fun _ => different
  have begins : (Exec.emit (.acting surface target action)).Aside own start fun _ => True :=
    .emit permits.foreign fun _ => rfl
  refine begins.bind_spares fun _ _ world passed => (spares world passed).bind fun reply after spared => ?_
  apply Exec.Ensures.emit_bind
  exact fun untaken slot => (spared untaken slot).record permits.foreign fun _ => if_neg different

/-- While the wrapper is shunned, all that is done passes it by, and nobody else gets its handle. -/
theorem shunning_aside {arrangements : Arrangements σ ν} (avoid : arrangements.Avoid own)
    (start : World σ ν) (bound : Nat) (surface : Surface) (target : Handle) (action : Action) :
    (shunning arrangements own.handle own.slot bound surface target action).Aside own start
      fun reply => reply ≠ .built own.handle := by
  induction bound generalizing surface target action with
  | zero => exact .throw _
  | succ bound ih =>
    have nested : (shunning arrangements own.handle own.slot bound).Aside own start :=
      fun surface target action => (ih surface target action).weaken fun _ _ => trivial
    unfold shunning
    split
    · exact .throw _
    · rename_i different
      apply Performer.sparing_aside
      cases arranged : arrangements.find? action with
      | none =>
        rw [Performer.recording_congr (Wrapper.performWithin_of_unarranged arranged)]
        exact (Wrapper.recording_aside nested (fun _ => different) fun same =>
          absurd same different).spares
      | some arrangement =>
        apply Performer.recording_spares different
        rw [Wrapper.performWithin_of_arranged arranged]
        exact Arrangement.exec_spares (avoid.find arranged) different

end

end RecompilerAdapter
