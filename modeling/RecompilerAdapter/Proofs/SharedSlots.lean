/-
Module: RecompilerAdapter.Proofs.SharedSlots
Purpose: Handle slots that are shared by references. However many references to a slot there are and
  whichever of them is used, the slot holds the first handle that it was given and that is not null. Until
  then it is unbound for all references; from then on every further attempt to bind it fails and changes
  nothing.
Trusted boundary: none
Main exports: SlotStep.Run, SlotStep.Holds, SlotStep.WriteOnce, SlotStep.playSlots_run,
  SlotStep.Holds.next
-/
import RecompilerAdapter.Proofs.Execution
import RecompilerAdapter.Proofs.SlotBindings
import RecompilerAdapter.Scenario.Slots

namespace RecompilerAdapter.Scenario.SlotStep

variable {references : List HandleSlot} {start stage after : Stage} {slot : HandleSlot}
  {number : Nat} {handle : Handle} {attempts : List (HandleSlot × Handle)}

/-! ### Single steps -/

/-- A number stands for the slot that its reference is to. -/
theorem find_of_named (named : references[number]? = some slot) (stage : Stage) :
    find references number stage = .ok slot stage := by
  rw [find, named]
  rfl

/-- A reference that does not exist cannot be used. -/
theorem find_bind_of_unnamed {α : Type} (unnamed : references[number]? = none)
    (next : HandleSlot → Play α) (stage : Stage) :
    (find references number >>= next) stage = .error (.unknownNumber number) stage := by
  have stops : find references number stage = .error (.unknownNumber number) stage := by
    rw [find, unnamed]
    rfl
  exact Exec.bind_of_error stops

/-- Copying a reference makes another one to the same slot, and touches no slot. -/
theorem perform_clone (named : references[number]? = some slot) (stage : Stage) :
    perform references (.clone number) stage =
      .ok (.reference references.length, references ++ [slot]) stage := by
  rw [perform, Exec.bind_of_ok (find_of_named named stage)]
  rfl

/-- Asking a slot touches none either. -/
theorem perform_isBound (named : references[number]? = some slot) (stage : Stage) :
    perform references (.isBound number) stage =
      .ok (.flag (stage.slots.isBound slot), references) stage := by
  rw [perform, Exec.bind_of_ok (find_of_named named stage)]
  rfl

/-- Reading a bound slot yields what it holds. -/
theorem perform_read_of_bound (named : references[number]? = some slot)
    (bound : stage.slots.get? slot = some handle) :
    perform references (.read number) stage = .ok (.handle handle, references) stage := by
  rw [perform, Exec.bind_of_ok (find_of_named named stage),
    Exec.bind_of_ok (Exec.boundHandle_of_bound bound)]
  rfl

/-- Reading an unbound slot ends everything. -/
theorem perform_read_of_unbound (named : references[number]? = some slot)
    (unbound : stage.slots.get? slot = none) :
    perform references (.read number) stage = .error (.fatal .unboundHandle) stage := by
  rw [perform, Exec.bind_of_ok (find_of_named named stage),
    Exec.bind_of_error (Exec.boundHandle_of_unbound unbound)]

/-- The stage after a slot was given a handle. -/
def given (stage : Stage) (slot : HandleSlot) (handle : Handle) : Stage :=
  { stage with slots := stage.slots.fill slot handle }

/-- An unbound slot takes the handle that it is given, also the null handle, with which it stays
unbound. -/
theorem bindSlot_of_unbound (unbound : stage.slots.get? slot = none) (handle : Handle) :
    Exec.bindSlot slot handle stage = .ok () (given stage slot handle) := by
  have looked : (get : Play Stage) stage = .ok stage stage := rfl
  rw [Exec.bindSlot, Exec.bind_of_ok looked, HandleSlots.bind?_of_unbound unbound]
  rfl

/-- A bound slot refuses. -/
theorem bindSlot_of_bound {bound : Handle} (isBound : stage.slots.get? slot = some bound)
    (handle : Handle) : Exec.bindSlot slot handle stage = .error .slotBoundTwice stage := by
  have looked : (get : Play Stage) stage = .ok stage stage := rfl
  rw [Exec.bindSlot, Exec.bind_of_ok looked, HandleSlots.bind?_of_bound isBound]
  rfl

/-- Binding an unbound slot through any of its references. -/
theorem perform_bind_of_unbound (named : references[number]? = some slot)
    (unbound : stage.slots.get? slot = none) (handle : Handle) :
    perform references (.bind number handle) stage =
      .ok (.done, references) (given stage slot handle) := by
  have binds : bindOnce slot handle stage = .ok .done (given stage slot handle) := by
    apply Exec.tryCatch_of_ok
    rw [Exec.bind_of_ok (bindSlot_of_unbound unbound handle)]
    rfl
  rw [perform, Exec.bind_of_ok (find_of_named named stage), Exec.bind_of_ok binds]
  rfl

/-- Binding a bound slot is caught, told as a failure, and leaves the slot as it is. -/
theorem perform_bind_of_bound {bound : Handle} (named : references[number]? = some slot)
    (isBound : stage.slots.get? slot = some bound) (handle : Handle) :
    perform references (.bind number handle) stage = .ok (.boundTwice, references) stage := by
  have refused : bindOnce slot handle stage = .ok .boundTwice stage := by
    have stops : (Exec.bindSlot slot handle >>= fun _ => pure SlotResult.done : Play SlotResult)
        stage = .error .slotBoundTwice stage :=
      Exec.bind_of_error (bindSlot_of_bound isBound handle)
    unfold bindOnce
    rw [Exec.tryCatch_of_error stops]
    rfl
  rw [perform, Exec.bind_of_ok (find_of_named named stage), Exec.bind_of_ok refused]
  rfl

/-- All that a step can do. To bind a slot that is bound already is refused, and to read one that is
not bound aborts; neither changes a slot. -/
inductive Performs (references : List HandleSlot) (stage : Stage) :
    SlotStep → EStateM.Result Stop Stage (SlotResult × List HandleSlot) → Prop where
  | created : Performs references stage .create
      (.ok (.reference references.length, references ++ [stage.slots.allocate.1])
        { stage with slots := stage.slots.allocate.2 })
  | copied {number : Nat} {slot : HandleSlot} : references[number]? = some slot →
      Performs references stage (.clone number)
        (.ok (.reference references.length, references ++ [slot]) stage)
  | told {number : Nat} {slot : HandleSlot} : references[number]? = some slot →
      Performs references stage (.isBound number)
        (.ok (.flag (stage.slots.isBound slot), references) stage)
  | read {number : Nat} {slot : HandleSlot} {handle : Handle} : references[number]? = some slot →
      stage.slots.get? slot = some handle →
      Performs references stage (.read number) (.ok (.handle handle, references) stage)
  | aborted {number : Nat} {slot : HandleSlot} : references[number]? = some slot →
      stage.slots.get? slot = none →
      Performs references stage (.read number) (.error (.fatal .unboundHandle) stage)
  | bound {number : Nat} {slot : HandleSlot} {handle : Handle} : references[number]? = some slot →
      stage.slots.get? slot = none →
      Performs references stage (.bind number handle)
        (.ok (.done, references) (given stage slot handle))
  | refused {number : Nat} {slot : HandleSlot} {handle holds : Handle} :
      references[number]? = some slot → stage.slots.get? slot = some holds →
      Performs references stage (.bind number handle) (.ok (.boundTwice, references) stage)
  | unnamed {step : SlotStep} {number : Nat} : references[number]? = none →
      Performs references stage step (.error (.unknownNumber number) stage)

/-- Each step does one of the things listed in `Performs`. A step with a number that no reference
has stops, and changes nothing. -/
theorem performs (references : List HandleSlot) (stage : Stage) (step : SlotStep) :
    Performs references stage step (perform references step stage) := by
  -- All steps but creating begin by looking up a reference.
  have absent {number : Nat} (unnamed : references[number]? = none)
      (next : HandleSlot → Play (SlotResult × List HandleSlot)) :
      Performs references stage step ((find references number >>= next) stage) := by
    rw [find_bind_of_unnamed unnamed]
    exact .unnamed unnamed
  cases step with
  | create => exact .created
  | clone number =>
    cases named : references[number]? with
    | none => exact absent named _
    | some slot =>
      rw [perform_clone named]
      exact .copied named
  | isBound number =>
    cases named : references[number]? with
    | none => exact absent named _
    | some slot =>
      rw [perform_isBound named]
      exact .told named
  | read number =>
    cases named : references[number]? with
    | none => exact absent named _
    | some slot =>
      cases held : stage.slots.get? slot with
      | none =>
        rw [perform_read_of_unbound named held]
        exact .aborted named held
      | some handle =>
        rw [perform_read_of_bound named held]
        exact .read named held
  | bind number handle =>
    cases named : references[number]? with
    | none => exact absent named _
    | some slot =>
      cases held : stage.slots.get? slot with
      | none =>
        rw [perform_bind_of_unbound named held]
        exact .bound named held
      | some bound =>
        rw [perform_bind_of_bound named held]
        exact .refused named held

/-- A step that stops has changed nothing. -/
theorem stage_of_stopped {step : SlotStep} {stop : Stop}
    (stops : perform references step stage = .error stop after) : after = stage := by
  have outcome := performs references stage step
  rw [stops] at outcome
  cases outcome with
  | aborted => rfl
  | unnamed => rfl

/-! ### Attempts to bind -/

/-- The slot that a step attempts to bind, and the handle that it is given. An attempt counts
whether or not it succeeds. -/
def attempt? (references : List HandleSlot) : SlotStep → Option (HandleSlot × Handle)
  | bind number handle => references[number]?.map fun slot => (slot, handle)
  | _ => none

/-- The first handle that a slot was given and that is not null. Binding the null handle leaves the
slot unbound, so it may be bound again. -/
def firstHandle (slot : HandleSlot) (attempts : List (HandleSlot × Handle)) : Option Handle :=
  (attempts.find? fun attempt => attempt.1 == slot && !attempt.2.isNull).map (·.2)

/-- One more attempt matters only if no handle was given before it. -/
theorem firstHandle_append (attempts : List (HandleSlot × Handle)) (given : HandleSlot × Handle) :
    firstHandle slot (attempts ++ [given]) = (firstHandle slot attempts).or
      (if given.1 = slot ∧ given.2.isNull = false then some given.2 else none) := by
  unfold firstHandle
  rw [List.find?_append, Option.map_or]
  congr 1
  by_cases counts : given.1 = slot ∧ given.2.isNull = false
  · simp [counts]
  · rw [if_neg counts]
    simp_all

/-- A slot that no attempt names was given no handle. -/
theorem firstHandle_eq_none (absent : ∀ attempt ∈ attempts, attempt.1 ≠ slot) :
    firstHandle slot attempts = none := by
  rw [firstHandle, Option.map_eq_none_iff, List.find?_eq_none]
  intro attempt isMember counts
  simp only [Bool.and_eq_true, beq_iff_eq] at counts
  exact absent attempt isMember counts.1

/-! ### Runs -/

/-- What steps with handle slots lead to from a stage without references: the references, the stage,
and the attempts to bind so far. -/
inductive Run (start : Stage) :
    List HandleSlot → Stage → List (HandleSlot × Handle) → Prop where
  | start : Run start [] start []
  | next {references others : List HandleSlot} {stage after : Stage}
      {attempts : List (HandleSlot × Handle)} {result : SlotResult} (step : SlotStep) :
      Run start references stage attempts →
      perform references step stage = .ok (result, others) after →
      Run start others after (attempts ++ (attempt? references step).toList)

/-- Whatever steps follow, performed or stopped at, their stage is reached by a run. -/
theorem Run.record (run : Run start references stage attempts) (steps : List SlotStep) :
    ∃ others given, Run start others
      (Transcript.record perform (fun _ => pure ()) references stage steps).stage given := by
  induction steps generalizing references stage attempts with
  | nil => exact ⟨references, attempts, run⟩
  | cons step steps ih =>
    rw [Transcript.record]
    cases ends : perform references step stage with
    | ok answer after =>
      obtain ⟨result, others⟩ := answer
      exact ih (run.next step ends)
    | error stop after =>
      rw [stage_of_stopped ends]
      exact ⟨references, attempts, run⟩

/-- Scenarios about handle slots are runs. -/
theorem playSlots_run (caller : Caller) (steps : List SlotStep) :
    ∃ references attempts, Run (.initial caller) references (playSlots caller steps).stage attempts :=
  Run.start.record steps

/-- Each slot holds the first handle that it was given. This is the invariant of a run, and the
attempts are carried beside it. -/
structure Holds (references : List HandleSlot) (stage : Stage)
    (attempts : List (HandleSlot × Handle)) : Prop where
  existing : ∀ slot ∈ references, slot.index < stage.slots.bindings.size
  attempted : ∀ attempt ∈ attempts, attempt.1 ∈ references
  first : ∀ slot ∈ references, stage.slots.get? slot = firstHandle slot attempts

namespace Holds

variable (holds : Holds references stage attempts)

include holds

/-- A new slot is none of those that references are to. -/
theorem fresh_not_mem : stage.slots.allocate.1 ∉ references := by
  intro isMember
  have inside := holds.existing _ isMember
  exact Nat.lt_irrefl _ inside

/-- A new slot was given nothing yet, and the attempts that were made were made on others. -/
theorem create :
    Holds (references ++ [stage.slots.allocate.1]) { stage with slots := stage.slots.allocate.2 }
      attempts where
  existing := by
    intro slot isMember
    have grows : stage.slots.allocate.2.bindings.size = stage.slots.bindings.size + 1 :=
      Array.size_push _
    rcases List.mem_append.1 isMember with isOld | isNew
    · have := holds.existing slot isOld
      dsimp only
      omega
    · rw [List.mem_singleton.1 isNew, grows]
      exact Nat.lt_succ_self _
  attempted := fun attempt isMember => List.mem_append_left _ (holds.attempted attempt isMember)
  first := by
    intro slot isMember
    dsimp only
    rw [HandleSlots.get?_allocate]
    rcases List.mem_append.1 isMember with isOld | isNew
    · exact holds.first slot isOld
    · rw [List.mem_singleton.1 isNew, HandleSlots.get?_new, firstHandle_eq_none]
      rintro attempt isAttempt isFresh
      exact holds.fresh_not_mem (isFresh ▸ holds.attempted attempt isAttempt)

/-- One more reference to a slot changes nothing about any slot. -/
theorem clone (isMember : slot ∈ references) : Holds (references ++ [slot]) stage attempts where
  existing := by
    intro other isOther
    rcases List.mem_append.1 isOther with isOld | isNew
    · exact holds.existing other isOld
    · rw [List.mem_singleton.1 isNew]
      exact holds.existing slot isMember
  attempted := fun attempt isAttempt => List.mem_append_left _ (holds.attempted attempt isAttempt)
  first := by
    intro other isOther
    rcases List.mem_append.1 isOther with isOld | isNew
    · exact holds.first other isOld
    · rw [List.mem_singleton.1 isNew]
      exact holds.first slot isMember

/-- All attempts are made on slots that references are to. -/
theorem attempted_append (isMember : slot ∈ references) (handle : Handle) :
    ∀ attempt ∈ attempts ++ [(slot, handle)], attempt.1 ∈ references := by
  intro attempt isAttempt
  rcases List.mem_append.1 isAttempt with isOld | isNew
  · exact holds.attempted attempt isOld
  · rw [List.mem_singleton.1 isNew]
    exact isMember

/-- A slot that holds nothing takes the handle, unless it is null. -/
theorem bind_unbound (isMember : slot ∈ references) (unbound : stage.slots.get? slot = none)
    (handle : Handle) : Holds references (given stage slot handle) (attempts ++ [(slot, handle)]) where
  existing := by
    intro other isOther
    change other.index < (stage.slots.fill slot handle).bindings.size
    rw [HandleSlots.size_fill]
    exact holds.existing other isOther
  attempted := holds.attempted_append isMember handle
  first := by
    intro other isOther
    change (stage.slots.fill slot handle).get? other = _
    rw [firstHandle_append, ← holds.first other isOther]
    by_cases same : slot = other
    · subst same
      rw [unbound, Option.none_or]
      cases isNull : handle.isNull with
      | true => simpa using HandleSlots.get?_fill_null isNull
      | false => simpa using HandleSlots.get?_fill_self (holds.existing slot isMember) isNull
    · rw [HandleSlots.get?_fill_other (Ne.symm same)]
      simp [same]

/-- A slot that holds a handle keeps it. -/
theorem bind_bound {bound : Handle} (isMember : slot ∈ references)
    (isBound : stage.slots.get? slot = some bound) (handle : Handle) :
    Holds references stage (attempts ++ [(slot, handle)]) where
  existing := holds.existing
  attempted := holds.attempted_append isMember handle
  first := by
    intro other isOther
    rw [firstHandle_append, ← holds.first other isOther]
    by_cases same : slot = other
    · rw [← same, isBound, Option.some_or]
    · simp [same]

/-- Whatever a step does, each slot still holds the first handle that it was given. -/
theorem next {step : SlotStep} {others : List HandleSlot} {result : SlotResult}
    (performed : perform references step stage = .ok (result, others) after) :
    Holds others after (attempts ++ (attempt? references step).toList) := by
  have unattempted {others : List HandleSlot} {after : Stage} (kept : Holds others after attempts) :
      Holds others after (attempts ++ []) := by
    rwa [List.append_nil]
  have outcome := performs references stage step
  rw [performed] at outcome
  cases outcome with
  | created => exact unattempted holds.create
  | copied named => exact unattempted (holds.clone (List.mem_of_getElem? named))
  | told => exact unattempted holds
  | read => exact unattempted holds
  | bound named held =>
    simp only [attempt?, named, Option.map_some, Option.toList_some]
    exact holds.bind_unbound (List.mem_of_getElem? named) held _
  | refused named held =>
    simp only [attempt?, named, Option.map_some, Option.toList_some]
    exact holds.bind_bound (List.mem_of_getElem? named) held _

end Holds

/-- By induction on the run: each slot holds the first handle that it was given. -/
theorem Run.holds (run : Run start references stage attempts) : Holds references stage attempts := by
  induction run with
  | start =>
    constructor
    case existing => simp
    case attempted => simp
    case first => simp
  | next step _ performed holds => exact holds.next performed

/-- A slot is bound once, for all of its references, at a stage that a run has reached. -/
structure WriteOnce (start : Stage) (references : List HandleSlot) (stage : Stage)
    (attempts : List (HandleSlot × Handle)) : Prop where
  /-- Whatever steps follow, until they are over or one of them stops, the stage is reached by a
  run, so that all of this holds there again. -/
  continued : ∀ steps, ∃ others given, Run start others
    (Transcript.record perform (fun _ => pure ()) references stage steps).stage given
  /-- The stage at which a scenario ends is reached by a run as well. -/
  scenarios : ∀ caller steps, ∃ others given,
    Run (.initial caller) others (playSlots caller steps).stage given
  /-- A new slot is another one than all before, and was given nothing. -/
  created : ∃ slot after, slot ∉ references ∧ firstHandle slot attempts = none ∧
    perform references .create stage =
      .ok (.reference references.length, references ++ [slot]) after
  /-- A copy of a reference names the same slot. -/
  copied : ∀ (number : Nat) (slot : HandleSlot), references[number]? = some slot →
    perform references (.clone number) stage =
      .ok (.reference references.length, references ++ [slot]) stage
  /-- References to one slot never differ. -/
  agreed : ∀ (number other : Nat) (slot : HandleSlot), references[number]? = some slot →
    references[other]? = some slot →
    perform references (.isBound number) stage = perform references (.isBound other) stage ∧
    perform references (.read number) stage = perform references (.read other) stage ∧
    ∀ handle, perform references (.bind number handle) stage =
      perform references (.bind other handle) stage
  /-- As long as a slot was given nothing but null it is unbound, and may be bound. -/
  unbound : ∀ (number : Nat) (slot : HandleSlot), references[number]? = some slot →
    firstHandle slot attempts = none →
    perform references (.isBound number) stage = .ok (.flag false, references) stage ∧
    perform references (.read number) stage = .error (.fatal .unboundHandle) stage ∧
    ∀ handle, ∃ after, perform references (.bind number handle) stage =
      .ok (.done, references) after
  /-- From then on it holds the first handle that it was given: another attempt fails and changes
  nothing. -/
  bound : ∀ (number : Nat) (slot : HandleSlot) (first : Handle), references[number]? = some slot →
    firstHandle slot attempts = some first →
    perform references (.isBound number) stage = .ok (.flag true, references) stage ∧
    perform references (.read number) stage = .ok (.handle first, references) stage ∧
    ∀ handle, perform references (.bind number handle) stage =
        .ok (.boundTwice, references) stage ∧
      ∃ stop, Exec.bindSlot slot handle stage = .error stop stage ∧
        stop.wording? = some "handle slot bound twice"

/-- A slot is written once, whoever refers to it. The first two fields are about runs as a whole;
the others follow from the invariant that a slot holds the first handle it was given. -/
theorem writeOnce (run : Run start references stage attempts) :
    WriteOnce start references stage attempts where
  continued := run.record
  scenarios := playSlots_run
  created := by
    have holds := run.holds
    refine ⟨stage.slots.allocate.1, _, holds.fresh_not_mem, firstHandle_eq_none ?_, rfl⟩
    intro attempt isAttempt isFresh
    exact holds.fresh_not_mem (isFresh ▸ holds.attempted attempt isAttempt)
  copied := by
    intro number slot named
    exact perform_clone named stage
  agreed := by
    intro number other slot named namedOther
    have found : find references number = find references other := by
      rw [find, find, named, namedOther]
    refine ⟨?_, ?_, fun handle => ?_⟩
    · rw [perform, perform, found]
    · rw [perform, perform, found]
    · rw [perform, perform, found]
  unbound := by
    intro number slot named nothing
    have held := run.holds.first slot (List.mem_of_getElem? named)
    rw [nothing] at held
    refine ⟨?_, perform_read_of_unbound named held, fun handle => ?_⟩
    · rw [perform_isBound named, HandleSlots.get?_eq_none_iff.1 held]
    · exact ⟨_, perform_bind_of_unbound named held handle⟩
  bound := by
    intro number slot first named given
    have held := run.holds.first slot (List.mem_of_getElem? named)
    rw [given] at held
    refine ⟨?_, perform_read_of_bound named held, fun handle => ?_⟩
    · rw [perform_isBound named, HandleSlots.isBound_of_get? held]
    · exact ⟨perform_bind_of_bound named held handle, _, bindSlot_of_bound held handle, rfl⟩

/-- Two references to one slot: null does not count, the first handle stays. -/
theorem writeOnce_shared : ∃ stage,
    Run (.initial (Caller.initial 0 0 [] [] [])) [⟨0⟩, ⟨0⟩] stage [(⟨0⟩, ⟨0⟩), (⟨0⟩, ⟨7⟩), (⟨0⟩, ⟨9⟩)] ∧
      WriteOnce (.initial (Caller.initial 0 0 [] [] [])) [⟨0⟩, ⟨0⟩] stage
        [(⟨0⟩, ⟨0⟩), (⟨0⟩, ⟨7⟩), (⟨0⟩, ⟨9⟩)] := by
  have created : Run (.initial (Caller.initial 0 0 [] [] [])) [⟨0⟩] _ [] :=
    .next .create .start rfl
  have copied : Run (.initial (Caller.initial 0 0 [] [] [])) [⟨0⟩, ⟨0⟩] _ [] :=
    .next (.clone 0) created rfl
  have null : Run (.initial (Caller.initial 0 0 [] [] [])) [⟨0⟩, ⟨0⟩] _ [(⟨0⟩, ⟨0⟩)] :=
    .next (.bind 1 ⟨0⟩) copied rfl
  have bound : Run (.initial (Caller.initial 0 0 [] [] [])) [⟨0⟩, ⟨0⟩] _ [(⟨0⟩, ⟨0⟩), (⟨0⟩, ⟨7⟩)] :=
    .next (.bind 0 ⟨7⟩) null rfl
  have twice : Run (.initial (Caller.initial 0 0 [] [] [])) [⟨0⟩, ⟨0⟩] _
      [(⟨0⟩, ⟨0⟩), (⟨0⟩, ⟨7⟩), (⟨0⟩, ⟨9⟩)] :=
    .next (.bind 1 ⟨9⟩) bound rfl
  exact ⟨_, twice, writeOnce twice⟩

end RecompilerAdapter.Scenario.SlotStep
