/-
Module: RecompilerAdapter.Proofs.RegisterEffects
Purpose: What the steps of a run do to the registers. It depends on the instruction whether a program
  counter that a callback writes outlives its step: a coprocessor instruction that completes moves on from
  where it was fetched, while after a supervisor call or an exception the run goes on where the callbacks
  have put it.
Trusted boundary: none
Main exports: Stepping.pause, Stepping.paced, Stepping.CoprocessorEffect, Stepping.RegisterEffects
-/
import RecompilerAdapter.Proofs.DirectAccess
import RecompilerAdapter.Proofs.InstructionEffects
import RecompilerAdapter.Proofs.StepOutcomes
import RecompilerAdapter.Proofs.TickAccounts

namespace RecompilerAdapter

variable {σ ν : Type} {world ready after : World σ ν} {handle : Handle}
  {wrapper later : Wrapper σ ν} {bound : Nat} {events : List (Event ν)} {next : UInt32}
  {instruction : CoprocessorInstruction}

namespace Stepping

/-! ### Between two steps -/

/-- What an engine does before a step of a run: it looks for a halt request, then it asks for its
ticks; false if the run is over. -/
def begins (perform : Performer σ ν) (handle : Handle) : Exec σ ν Bool := do
  if ← takeHalt handle then
    return false
  if (← ask perform handle .ticksRemaining) = 0 then
    return false
  return true

/-- What an engine does between two steps of a run; false if the run is over. One tick is added for
the step before, and then it is asked whether anything is left. -/
def pause (perform : Performer σ ν) (handle : Handle) : Exec σ ν Bool := do
  ask perform handle (.addTicks 1)
  begins perform handle

/-- The steps of a run, with a pause between any two of them, within a bound on their number. A run
is exactly this once it has begun, which makes the state between two steps a state to speak of. -/
def paced (perform : Performer σ ν) (handle : Handle) : Nat → Exec σ ν Unit
  | 0 => do
    let _ ← step perform handle
    ask perform handle (.addTicks 1)
    throw .outOfFuel
  | turns + 1 => do
    let _ ← step perform handle
    if ← pause perform handle then
      paced perform handle turns

/-- A run is a number of steps with pauses between them. -/
theorem run_eq (performer : Performer σ ν) (turns : Nat) : run performer handle (turns + 1) = (do
      if ← begins performer handle then
        paced performer handle turns) := by
  have first (turns : Nat) : run performer handle (turns + 1) = (do
      if ← begins performer handle then
        let _ ← step performer handle
        ask performer handle (.addTicks 1)
        run performer handle turns) := by
    rw [run, turn, begins]
    simp only [bind_assoc]
    refine bind_congr fun halted => ?_
    cases halted with
    | true => simp
    | false =>
      simp only [Bool.false_eq_true, if_false, bind_assoc]
      refine bind_congr fun ticks => ?_
      split <;> simp
  induction turns with
  | zero => rw [first, paced, run]
  | succ turns ih =>
    rw [first, paced, ih, pause]
    simp only [bind_assoc]

/-- In a pause, too, only actions write the program counter. The requests about ticks are calls of
the host, so their events tell of such actions. -/
theorem pause_counter (attends : Attends world handle wrapper) (idle : wrapper.Idle) :
    (pause (perform bound) handle).Ensures world (fun _ after => ∃ meanwhile later,
      after.history = world.history ++ meanwhile ∧ after.wrappers.get? handle = some later ∧
      later.engine.registers.get pc = lastCounter handle (wrapper.engine.registers.get pc) meanwhile)
      fun _ _ => True := by
  apply Exec.Ensures.bind (ask_visits attends idle rfl)
  rintro _ asked ⟨events, visited⟩
  let taken := relieved (wrapper.replay handle events)
  have attendsTaken : Attends (asked.place handle taken) handle taken :=
    visited.attends.place visited.attends.running rfl
  have counter : taken.engine.registers.get pc =
      lastCounter handle (wrapper.engine.registers.get pc) events := wrapper.replay_counter events
  apply Exec.Ensures.after (takeHalt_of_present visited.attends.present)
  split
  · exact ⟨events, taken, visited.history, attendsTaken.present, counter⟩
  · apply Exec.Ensures.bind (ask_visits attendsTaken (idle.replay events) rfl)
    rintro ticks after ⟨further, onward⟩
    have still : ∃ meanwhile later, after.history = world.history ++ meanwhile ∧
        after.wrappers.get? handle = some later ∧ later.engine.registers.get pc =
          lastCounter handle (wrapper.engine.registers.get pc) meanwhile := by
      refine ⟨events ++ further, _, ?_, onward.attends.present, ?_⟩
      · rw [onward.history, World.history_place, visited.history, List.append_assoc]
      · rw [Wrapper.replay_counter, lastCounter_append, counter]
    split
    · exact still
    · exact still

/-! ### Steps -/

/-- What a coprocessor instruction that has completed has done to the guest, if no callback has
written a register. It has received two words, the second of which may not matter; both its operands
and what it leaves alone are as they were before the step. -/
structure CoprocessorEffect (bound : Nat) (handle : Handle) (slot : Fin 16)
    (instruction : CoprocessorInstruction) (wrapper : Wrapper σ ν) (ready after : World σ ν)
    (later : Wrapper σ ν) : Prop where
  extensionRegisters : later.engine.extensionRegisters = wrapper.engine.extensionRegisters
  programStatus : later.engine.programStatus = wrapper.engine.programStatus
  floatingPointStatus : later.engine.floatingPointStatus = wrapper.engine.floatingPointStatus
  registers : ∃ compiled asked low high,
    withCoprocessor handle slot (fun bridge => bridge.compile (perform bound) instruction.request)
      ready = .ok (some compiled) asked ∧
    Provides bound handle wrapper.engine.registers instruction compiled asked after low high ∧
    ∀ number, later.engine.registers.get number =
      if number = pc then wrapper.engine.registers.get pc + 4
      else instruction.received low high wrapper.engine.registers number

/-- What a step does to the registers of an engine. First a word is fetched from the program
counter, in the course of which `reading` happens, then it is executed, in the course of which
`executing` does. -/
structure RegisterEffects (bound : Nat) (handle : Handle) (world : World σ ν) (wrapper : Wrapper σ ν)
    (word : UInt32) (fetched after : World σ ν) (later : Wrapper σ ν)
    (reading executing : List (Event ν)) (done : Bool) : Prop where
  fetch : fetch (perform bound) handle (wrapper.engine.registers.get pc) world = .ok word fetched
  history : after.history = world.history ++
    (reading ++ .fetched handle (wrapper.engine.registers.get pc) word :: executing)
  present : after.wrappers.get? handle = some later
  /-- A coprocessor instruction that completes reads its operands when its coprocessor has answered,
  and writes its targets and then the program counter when its deferred operation is over. -/
  concludes : ∀ slot instruction, Instruction.decode word = .coprocessor slot instruction →
    done = true → Concludes bound handle slot instruction
      (fetched.record (.fetched handle (wrapper.engine.registers.get pc) word))
      (wrapper.replay handle reading) after later (wrapper.engine.registers.get pc + 4) executing
  /-- If no callback writes a register, that is all that happens to the registers. -/
  coprocessor : ∀ slot instruction, Instruction.decode word = .coprocessor slot instruction →
    done = true → Unwritten handle (reading ++ executing) →
    CoprocessorEffect bound handle slot instruction wrapper
      (fetched.record (.fetched handle (wrapper.engine.registers.get pc) word)) after later
  /-- It moves the program counter on, whatever callbacks and targets have written to it. -/
  advance : ∀ slot instruction, Instruction.decode word = .coprocessor slot instruction →
    done = true → later.engine.registers.get pc = wrapper.engine.registers.get pc + 4
  /-- A supervisor call always completes, and leaves the program counter where its callback has put
  it. -/
  supervisorCall : ∀ number, Instruction.decode word = .supervisorCall number → done = true ∧
    later.engine.registers.get pc =
      lastCounter handle (wrapper.engine.registers.get pc + 4) executing
  /-- An exception leaves the program counter where callbacks have put it, its own being the
  last. -/
  exception : done = false → later.engine.registers.get pc =
    lastCounter handle (wrapper.engine.registers.get pc) (reading ++ executing)
  /-- The next step of the run fetches from there, unless a callback has written the program counter
  again by then. -/
  next : ∀ onward, pause (perform bound) handle after = .ok true onward →
    ∀ finished last, step (perform bound) handle onward = .ok finished last →
    ∃ meanwhile word fetched, onward.history = after.history ++ meanwhile ∧
      Stepping.fetch (perform bound) handle
        (lastCounter handle (later.engine.registers.get pc) meanwhile) onward = .ok word fetched
  /-- A run that has begun takes such a step. -/
  begun : ∀ before turns, begins (perform bound) handle before = .ok true world →
    run (perform bound) handle (turns + 1) before = paced (perform bound) handle turns world
  /-- It goes on from the end of the step with a pause, and then with its other steps. -/
  goesOn : ∀ turns, paced (perform bound) handle (turns + 1) world = (do
    if ← pause (perform bound) handle then
      paced (perform bound) handle turns) after

theorem Concludes.counter {slot : Fin 16} {next : UInt32}
    (concludes : Concludes bound handle slot instruction ready wrapper after later next events) :
    later.engine.registers.get pc = next := by
  obtain ⟨compiled, asked, low, high, compiling, calling, -, -, -, rfl⟩ := concludes
  exact Wrapper.advance_counter next _

/-- Where no callback has written a register, the instruction finds and leaves what it alone makes
of them. -/
theorem Concludes.effect {slot : Fin 16} {reading : List (Event ν)}
    (concludes : Concludes bound handle slot instruction ready (wrapper.replay handle reading) after
      later (wrapper.engine.registers.get pc + 4) events)
    (unwritten : Unwritten handle (reading ++ events)) :
    CoprocessorEffect bound handle slot instruction wrapper ready after later := by
  obtain ⟨compiled, asked, low, high, compiling, calling, rfl, consults, provides, rfl⟩ := concludes
  have asking : Unwritten handle (reading ++ compiling) := by
    rw [← List.append_assoc, unwritten_append] at unwritten
    exact unwritten.1
  have found := asking.guestState wrapper
  have kept := unwritten.guestState wrapper
  rw [Wrapper.replay_append] at found kept
  simp only [Engine.guestState, Prod.mk.injEq] at found kept
  obtain ⟨registers, extension, status, floating⟩ := kept
  rw [found.1] at provides
  obtain ⟨written, same⟩ := instruction.receive_eq low high
    ((wrapper.replay handle reading).replay handle (compiling ++ calling)).engine
  constructor
  case extensionRegisters =>
    rw [Wrapper.advance, Wrapper.receive, same]
    exact extension
  case programStatus =>
    rw [Wrapper.advance, Wrapper.receive, same]
    exact status
  case floatingPointStatus =>
    rw [Wrapper.advance, Wrapper.receive, same]
    exact floating
  case registers =>
    refine ⟨compiled, asked, low, high, consults, provides, fun number => ?_⟩
    rw [Wrapper.advance, Engine.withRegister_get, Wrapper.receive,
      CoprocessorInstruction.receive_get, registers]

/-- A step has the effect of the instruction that it fetched, with the words that its registers
held. What callbacks have written meanwhile is told by the events of the step. -/
theorem step_effect (attends : Attends world handle wrapper) (idle : wrapper.Idle) :
    (step (perform bound) handle).Ensures world (fun done after =>
      ∃ word fetched later reading executing, RegisterEffects bound handle world wrapper word fetched
        after later reading executing done) fun _ _ => True := by
  -- What the step does to a run depends on how the whole step ends, which its parts do not tell.
  suffices holds : (step (perform bound) handle).Ensures world (fun done after =>
      step (perform bound) handle world = .ok done after →
        ∃ word fetched later reading executing, RegisterEffects bound handle world wrapper word fetched
          after later reading executing done) fun _ _ => True by
    apply holds.remember.mono
    · intro done after remembered
      exact remembered.2 remembered.1
    · intro _ _ _
      trivial
  unfold step
  apply Exec.Ensures.after (readRegister_of_present attends.present pc)
  apply Exec.Ensures.bind (fetch_visits attends idle _).remember
  rintro word fetched ⟨fetches, reading, visited⟩
  apply Exec.Ensures.emit_bind
  have told := visited.attends.record (.fetched handle (wrapper.engine.registers.get pc) word)
  apply Exec.Ensures.mono (execute_effect told (idle.replay reading) _ (Instruction.decode word))
  · rintro done after ⟨later, executing, effect⟩ stepped
    refine ⟨word, fetched, later, reading, executing, ?_⟩
    constructor
    case fetch => exact fetches
    case history =>
      rw [effect.history, World.history_record, visited.history]
      simp
    case present => exact effect.attends.present
    case concludes =>
      intro slot instruction isCoprocessor completed
      exact effect.completed slot instruction isCoprocessor completed
    case coprocessor =>
      intro slot instruction isCoprocessor completed unwritten
      exact (effect.completed slot instruction isCoprocessor completed).effect unwritten
    case advance =>
      intro slot instruction isCoprocessor completed
      exact (effect.completed slot instruction isCoprocessor completed).counter
    case supervisorCall =>
      intro number isCall
      obtain ⟨completed, rfl⟩ := effect.supervisorCall number isCall
      refine ⟨completed, ?_⟩
      rw [Wrapper.replay_counter, Wrapper.advance_counter]
      rfl
    case exception =>
      intro failed
      rw [effect.raised failed, Wrapper.replay_counter, Wrapper.replay_counter, lastCounter_append]
    case next =>
      intro onward paused finished last stepped
      obtain ⟨meanwhile, latest, history, present, counter⟩ :=
        (pause_counter effect.attends effect.idle).of_completed paused
      rw [step, Exec.bind_of_ok (readRegister_of_present present pc)] at stepped
      obtain ⟨word, fetched, fetches, -⟩ := Exec.of_bind_ok stepped
      refine ⟨meanwhile, word, fetched, history, ?_⟩
      rw [← counter]
      exact fetches
    case begun =>
      intro before turns begin
      rw [run_eq, Exec.bind_of_ok begin]
      rfl
    case goesOn =>
      intro turns
      rw [paced]
      exact Exec.bind_of_ok stepped
  · intro _ _ holds
    exact holds

/-- Whatever the state of the engine, a step does to its registers what its instruction says, unless
a callback stops everything. -/
theorem registerEffects (bound : Nat) (attends : Attends world handle wrapper) (idle : wrapper.Idle) :
    (step (perform bound) handle).Ensures world (fun done after =>
      ∃ word fetched later reading executing, RegisterEffects bound handle world wrapper word fetched
        after later reading executing done)
      (StopsInCallback bound handle wrapper.engine.configuration) := by
  have stops := step_stopsInCallback bound attends idle
  apply (stops.and (step_effect attends idle)).mono
  · rintro done after ⟨-, effects⟩
    exact effects
  · rintro stop after ⟨stopped, -⟩
    exact stopped

/-! ### An engine that receives a word in its program counter -/

/-- The program counter moves on from the instruction, not from the word that it has received. The
transfer writes to it first, and then it is moved. -/
theorem registerEffects_counter :
    let transfer := Assembly.mrc 3 5 15 1 7 6
    let start := Lone.world (fun _ => transfer.encode false) Lone.granting
    let stepping := Lone.wrapper (fun _ => transfer.encode false) Lone.granting
    ∃ word fetched after later reading executing,
      step (RecompilerAdapter.perform 0) Lone.worker start = .ok true after ∧
      RegisterEffects 0 Lone.worker start stepping word fetched after later reading executing true ∧
      later.engine.registers.get pc = 4 := by
  intro transfer start stepping
  have attends : Attends start Lone.worker stepping := Lone.attends _ Lone.granting
  have completes : step (RecompilerAdapter.perform 0) Lone.worker start =
      .ok true (Exec.finalWorld (step (RecompilerAdapter.perform 0) Lone.worker) start) :=
    Exec.eq_of_yields (by decide +kernel)
  obtain ⟨word, fetched, later, reading, executing, effects⟩ :=
    (registerEffects 0 attends rfl).of_completed completes
  have isWord : word = transfer.encode false := by
    have fetches : fetch (RecompilerAdapter.perform 0) Lone.worker 0 start =
        .ok (transfer.encode false) _ := rfl
    have again := effects.fetch.symm.trans fetches
    cases again
    rfl
  have decodes : Instruction.decode word = .coprocessor 3 (transfer.instruction false) := by
    rw [isWord]
    exact transfer.decode_encode false
  exact ⟨word, fetched, _, later, reading, executing, completes, effects,
    effects.advance _ _ decodes rfl⟩

end Stepping

end RecompilerAdapter
