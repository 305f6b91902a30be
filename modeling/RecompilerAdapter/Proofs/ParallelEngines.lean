/-
Module: RecompilerAdapter.Proofs.ParallelEngines
Purpose: Computations in parallel. Two computations are parallel if they are put together from the same
  parts in the same way, except that one carries out actions by means of one performer and the other one
  by means of another. Whatever calls callbacks is parallel to itself with another performer, so a
  relation of computations that the ways of putting them together respect holds of all of them once it
  holds of the performers.
Trusted boundary: none
Main exports: Exec.endWith, Exec.Quiet, Exec.Parallel
-/
import RecompilerAdapter.Adapter.Perform
import RecompilerAdapter.Proofs.Execution

namespace RecompilerAdapter

variable {σ ν α β : Type} {perform counterpart : Performer σ ν}

/-- An event that does not tell of a rejected run. -/
def Event.Unrejected : Event ν → Prop
  | .acted _ _ (.run _) .alreadyRunning => False
  | _ => True

namespace Exec

/-! ### Computations that ignore the history -/

/-- The same end, with another history. -/
def endWith (trace : Array (Event ν)) :
    EStateM.Result Stop (World σ ν) α → EStateM.Result Stop (World σ ν) α
  | .ok answer after => .ok answer { after with trace := trace }
  | .error stop after => .error stop { after with trace := trace }

/-- A computation that neither looks at the history nor tells of anything. With another history
before it, it does the same and leaves that history. -/
def Quiet (computation : Exec σ ν α) : Prop :=
  ∀ world trace, computation { world with trace := trace } = endWith trace (computation world)

namespace Quiet

/-- A quiet computation leaves the history as it was, however it ends: this is what quietness says
when the history is exchanged for itself. -/
theorem trace_finalWorld {computation : Exec σ ν α} (isQuiet : computation.Quiet) (world : World σ ν) :
    (computation.finalWorld world).trace = world.trace := by
  have same := isQuiet world world.trace
  unfold finalWorld
  cases ends : computation world with
  | ok answer after =>
    rw [ends] at same
    show after.trace = world.trace
    rw [(EStateM.Result.ok.inj same).2]
  | error stop after =>
    rw [ends] at same
    show after.trace = world.trace
    rw [(EStateM.Result.error.inj same).2]

/-- A change of the world is quiet if it leaves the history as it is and does not look at it. -/
theorem change {update : World σ ν → World σ ν}
    (same : ∀ world trace, update { world with trace := trace } = { update world with trace := trace }) :
    Quiet (modify update : Exec σ ν Unit) :=
  fun world trace => congrArg (EStateM.Result.ok ()) (same world trace)

/-- Fetching a handle is quiet, whether the slot is bound or not. -/
theorem boundHandle (slot : HandleSlot) : Quiet (Exec.boundHandle slot : Exec σ ν Handle) := by
  intro world trace
  cases bound : world.slots.get? slot with
  | none =>
    have boundToo : ({ world with trace := trace } : World σ ν).slots.get? slot = none := bound
    rw [boundHandle_of_unbound bound, boundHandle_of_unbound boundToo]
    rfl
  | some handle =>
    have boundToo : ({ world with trace := trace } : World σ ν).slots.get? slot = some handle := bound
    rw [boundHandle_of_bound bound, boundHandle_of_bound boundToo]
    rfl

/-- Binding a slot is quiet, also where it fails. -/
theorem bindSlot (slot : HandleSlot) (handle : Handle) :
    Quiet (Exec.bindSlot slot handle : Exec σ ν Unit) := by
  intro world trace
  have got (world : World σ ν) : (get : Exec σ ν (World σ ν)) world = .ok world world := rfl
  rw [Exec.bindSlot, Exec.bind_of_ok (got _), Exec.bind_of_ok (got _)]
  dsimp only
  cases world.slots.bind? slot handle <;> rfl

/-- Looking up a wrapper is quiet, whether it is there or not. -/
theorem wrapper (handle : Handle) : Quiet (Exec.wrapper handle : Exec σ ν (Wrapper σ ν)) := by
  intro world trace
  cases found : world.wrappers.get? handle with
  | none =>
    have foundToo : ({ world with trace := trace } : World σ ν).wrappers.get? handle = none := found
    rw [wrapper_of_absent found, wrapper_of_absent foundToo]
    rfl
  | some wrapper =>
    have foundToo : ({ world with trace := trace } : World σ ν).wrappers.get? handle = some wrapper :=
      found
    rw [wrapper_of_present found, wrapper_of_present foundToo]
    rfl

end Quiet

/-! ### Parallel computations -/

/-- Two computations are put together from the same parts, except for the performers of actions.
What is to be shown of two performers thus has to be shown of what they carry out, and of the four
ways to put parts together. -/
inductive Parallel (perform counterpart : Performer σ ν) :
    {α : Type} → Exec σ ν α → Exec σ ν α → Prop where
  | quiet {α : Type} {computation : Exec σ ν α} (isQuiet : computation.Quiet) :
      Parallel perform counterpart computation computation
  | emit {event : Event ν} (told : event.Unrejected) :
      Parallel perform counterpart (Exec.emit event) (Exec.emit event)
  | act (surface : Surface) (handle : Handle) (action : Action) :
      Parallel perform counterpart (perform surface handle action) (counterpart surface handle action)
  | bind {α β : Type} {first other : Exec σ ν α} {next onward : α → Exec σ ν β}
      (parts : Parallel perform counterpart first other)
      (rest : ∀ answer, Parallel perform counterpart (next answer) (onward answer)) :
      Parallel perform counterpart (first >>= next) (other >>= onward)

namespace Parallel

variable {computation other : Exec σ ν α}

theorem pure (answer : α) : Parallel perform counterpart (Pure.pure answer) (Pure.pure answer) :=
  .quiet fun _ _ => rfl

theorem throw (stop : Stop) :
    Parallel perform counterpart (MonadExcept.throw stop : Exec σ ν α) (MonadExcept.throw stop) :=
  .quiet fun _ _ => rfl

/-- Passing an answer on in another form calls nobody. -/
theorem map {image : α → β} (parallel : Parallel perform counterpart computation other) :
    Parallel perform counterpart (image <$> computation) (image <$> other) := by
  rw [← bind_pure_comp, ← bind_pure_comp]
  exact parallel.bind fun _ => .pure _

/-- Items that are gone through one after the other may each be handled by parallel computations. -/
theorem forM {body copy : β → Exec σ ν Unit} (items : List β)
    (each : ∀ item, Parallel perform counterpart (body item) (copy item)) :
    Parallel perform counterpart (items.forM body) (items.forM copy) := by
  induction items with
  | nil => exact .pure ()
  | cons item items ih => exact (each item).bind fun _ => ih

/-- The same where each item yields something. -/
theorem mapM {body copy : β → Exec σ ν α} (items : List β)
    (each : ∀ item, Parallel perform counterpart (body item) (copy item)) :
    Parallel perform counterpart (items.mapM body) (items.mapM copy) := by
  induction items with
  | nil => exact .pure []
  | cons item items ih =>
    rw [List.mapM_cons, List.mapM_cons]
    exact (each item).bind fun _ => ih.bind fun _ => .pure _

theorem accessShared (update : Shared σ → Shared σ) :
    Parallel perform counterpart (Exec.accessShared update) (Exec.accessShared update) :=
  .quiet fun _ _ => rfl

theorem loadWord (location : Location) :
    Parallel perform counterpart (Exec.loadWord location) (Exec.loadWord location) :=
  .quiet fun _ _ => rfl

theorem storeWord (location : Location) (word : UInt32) :
    Parallel perform counterpart (Exec.storeWord location word) (Exec.storeWord location word) :=
  .quiet fun _ _ => rfl

theorem takeScript : Parallel perform counterpart Exec.takeScript Exec.takeScript :=
  .quiet fun _ _ => rfl

theorem boundHandle (slot : HandleSlot) :
    Parallel perform counterpart (Exec.boundHandle slot) (Exec.boundHandle slot) :=
  .quiet (.boundHandle slot)

theorem wrapper (handle : Handle) :
    Parallel perform counterpart (Exec.wrapper handle) (Exec.wrapper handle) :=
  .quiet (.wrapper handle)

theorem modifyWrapper (handle : Handle) (update : Wrapper σ ν → Wrapper σ ν) :
    Parallel perform counterpart (Exec.modifyWrapper handle update)
      (Exec.modifyWrapper handle update) :=
  (wrapper handle).bind fun _ => .quiet (.change fun _ _ => rfl)

theorem engine (handle : Handle) :
    Parallel perform counterpart (Exec.engine handle) (Exec.engine handle) :=
  (wrapper handle).bind fun _ => .pure _

theorem modifyEngine (handle : Handle) (update : Engine σ ν → Engine σ ν) :
    Parallel perform counterpart (Exec.modifyEngine handle update) (Exec.modifyEngine handle update) :=
  modifyWrapper handle _

end Parallel

end Exec

/-- Caller code is parallel to itself with another performer: the performer carries out its actions
and has no part in anything else. -/
theorem Activity.exec_parallel (body : Activity σ ν α) :
    (body.exec perform).Parallel perform counterpart (body.exec counterpart) := by
  induction body with
  | finish answer => exact .pure answer
  | access update next ih => exact .bind (.accessShared update) ih
  | record note next ih => exact .bind (.emit trivial) fun _ => ih
  | perform surface target action next ih => exact .bind (.act surface target action) ih

namespace Stepping

/-- Lending out a part of an engine is the same on both sides of what is done meanwhile. -/
theorem lending_parallel {body other : Exec σ ν α} (same : body.Parallel perform counterpart other)
    (handle : Handle) (part : EnginePart) :
    (lending handle part body).Parallel perform counterpart
      (lending handle part other) := by
  refine .bind (.engine handle) fun engine => ?_
  dsimp only
  split
  · exact .bind (.throw _) fun _ => .bind (.modifyEngine handle _) fun _ =>
      .bind same fun _ => .bind (.modifyEngine handle _) fun _ => .pure _
  · exact .bind (.modifyEngine handle _) fun _ => .bind same fun _ =>
      .bind (.modifyEngine handle _) fun _ => .pure _

theorem readRegister_parallel (handle : Handle) (number : RegisterNumber) :
    (readRegister handle number : Exec σ ν UInt32).Parallel perform counterpart
      (readRegister handle number) :=
  .bind (.engine handle) fun _ => .pure _

theorem writeRegister_parallel (handle : Handle) (number : RegisterNumber) (value : UInt32) :
    (writeRegister handle number value : Exec σ ν Unit).Parallel perform counterpart
      (writeRegister handle number value) :=
  .modifyEngine handle _

/-- A coprocessor is looked up in the same way whatever it is asked. -/
theorem withCoprocessor_parallel (handle : Handle) (slot : Fin 16)
    {compile other : CoprocessorBridge σ ν → Exec σ ν α}
    (same : ∀ bridge, (compile bridge).Parallel perform counterpart (other bridge)) :
    (withCoprocessor handle slot compile).Parallel perform counterpart
      (withCoprocessor handle slot other) := by
  refine lending_parallel (.bind (.engine handle) fun engine => ?_) handle .coprocessors
  split
  · rename_i bridge _
    exact .bind (same bridge) fun _ => .pure _
  · exact .pure _

/-- Taking a request to halt calls nobody. -/
theorem takeHalt_parallel (handle : Handle) :
    (takeHalt handle : Exec σ ν Bool).Parallel perform counterpart (takeHalt handle) :=
  .bind (.engine handle) fun _ => .bind (.modifyEngine handle _) fun _ => .pure _

end Stepping

section

/-! ### Bridges -/

/-- Forwarding a request calls the entry for it, and only there the performers differ. -/
theorem CallbackBridge.forward_parallel (bridge : CallbackBridge σ ν) (request : HostRequest) :
    (bridge.forward perform request).Parallel perform counterpart (bridge.forward counterpart request) := by
  refine .bind (.emit trivial) fun _ => ?_
  split
  · cases request <;> exact .pure _
  · rename_i entry _
    exact .bind (.boundHandle _) fun handle => .bind (.emit trivial) fun _ =>
      .bind (Activity.exec_parallel (entry handle)) fun _ =>
        .bind (.emit trivial) fun _ => .pure _

namespace CoprocessorBridge

/-- So it is where a coprocessor's entry is called, for any form of its answer. -/
theorem consult_parallel (bridge : CoprocessorBridge σ ν) (request : CompileRequest)
    (entry : Activity σ ν α) (report : α → CompileAnswer) (decode : α → Handle → β) :
    (bridge.consult perform request entry report decode).Parallel perform counterpart
      (bridge.consult counterpart request entry report decode) :=
  .bind (.emit trivial) fun _ => .bind (Activity.exec_parallel entry) fun _ =>
    .bind (.emit trivial) fun _ => .bind (.boundHandle _) fun _ => .pure _

/-- The seven forms of compile requests are consultations, each with an entry of its own. -/
theorem compile_parallel (bridge : CoprocessorBridge σ ν) (request : CompileRequest) :
    (bridge.compile perform request).Parallel perform counterpart (bridge.compile counterpart request) := by
  cases request <;> exact .map (consult_parallel bridge _ _ _ _)

end CoprocessorBridge

/-- Running a deferred operation is calling it. -/
theorem Callback.run_parallel (callback : Callback (DeferredFunction σ ν)) (first second : UInt32) :
    (callback.run perform first second).Parallel perform counterpart
      (callback.run counterpart first second) :=
  .bind (.emit trivial) fun _ => Activity.exec_parallel _

/-! ### The scripted engine -/

namespace Scripted

/-- A scripted engine may call the operation that a coprocessor answered with, or access the words
that it granted, which calls nobody. -/
theorem useAnswer_parallel (last : Last σ ν) (use : AnswerUse) :
    (useAnswer perform last use).Parallel perform counterpart (useAnswer counterpart last use) := by
  cases use with
  | call first second =>
    simp only [useAnswer]
    split
    · exact .bind (Callback.run_parallel _ first second) fun _ => .pure _
    · exact .pure _
  | load =>
    simp only [useAnswer]
    split
    · exact .pure _
    · exact .bind (.mapM _ .loadWord) fun _ => .pure _
  | store first second =>
    simp only [useAnswer]
    split
    · exact .pure _
    · exact .bind (.forM _ fun _ => .storeWord _ _) fun _ => .pure _

/-- Each operation of a script is a request, a consultation or a use of an answer. -/
theorem execute_parallel (configuration : EngineConfiguration σ ν) (last : Last σ ν)
    (operation : EngineOperation) :
    (execute perform configuration last operation).Parallel perform counterpart
      (execute counterpart configuration last operation) := by
  cases operation with
  | request request =>
    exact .bind (configuration.callbacks.forward_parallel request) fun _ => .pure _
  | fallback pc instructions =>
    exact .bind (.bind (.emit trivial) fun _ => .throw _) fun _ => .pure _
  | compile slot request =>
    simp only [execute]
    split
    · rename_i bridge _
      exact .bind (bridge.compile_parallel request) fun _ => .pure _
    · exact .pure _
  | use use => exact .bind (useAnswer_parallel last use) fun _ => .pure _

/-- Operations that are carried out while the engine is being constructed. -/
theorem probe_parallel (configuration : EngineConfiguration σ ν) (last : Last σ ν)
    (operations : List EngineOperation) :
    (probe perform configuration last operations).Parallel perform counterpart
      (probe counterpart configuration last operations) := by
  induction operations generalizing last with
  | nil => exact .pure last
  | cons operation rest ih =>
    exact .bind (execute_parallel configuration last operation) fun _ =>
      .bind (.emit trivial) fun _ => ih _

/-- By induction on the script. The operations left are the same on both sides, since halt requests
are looked for in the engine and not in the history. -/
theorem runOperations_parallel (handle : Handle) (operations : List EngineOperation) :
    (runOperations perform handle operations).Parallel perform counterpart
      (runOperations counterpart handle operations) := by
  induction operations with
  | nil => exact .pure ()
  | cons operation rest ih =>
    refine .bind (.engine handle) fun engine => ?_
    split
    · exact .modifyEngine handle _
    · exact .bind (execute_parallel engine.configuration (lastAnswer engine) operation)
        fun _ => .bind (.modifyEngine handle _) fun _ => .bind (.emit trivial) fun _ => ih

theorem run_parallel (handle : Handle) :
    (run perform handle).Parallel perform counterpart (run counterpart handle) :=
  .bind .takeScript fun operations => runOperations_parallel handle operations

end Scripted

/-! ### The stepping engine -/

namespace Stepping

theorem ask_parallel (handle : Handle) (request : HostRequest) :
    (ask perform handle request).Parallel perform counterpart (ask counterpart handle request) :=
  lending_parallel (.bind (.engine handle) fun engine =>
    engine.configuration.callbacks.forward_parallel request) handle .callbacks

/-- A word is found in a page or asked for, depending on the engine and on the caller's own state,
which both sides share. -/
theorem fetch_parallel (handle : Handle) (address : UInt32) :
    (fetch perform handle address).Parallel perform counterpart (fetch counterpart handle address) := by
  have shares (performer : Performer σ ν) : fetch performer handle address = (do
      let engine ← Exec.engine handle
      let shared ← Exec.accessShared id
      (engine.configuration.pageTable.bind fun table => table.fetch? shared.own address).elim
        (do return ⟨← ask performer handle (.read .word address)⟩) pure) := by
    unfold fetch
    refine bind_congr fun engine => funext fun world => ?_
    refine (Exec.bind_of_ok rfl).trans (.trans ?_ (Exec.bind_of_ok rfl).symm)
    cases engine.configuration.pageTable.bind fun table => table.fetch? world.shared.own address <;> rfl
  rw [shares, shares]
  refine .bind (.engine handle) fun engine => .bind (.accessShared id) fun shared => ?_
  cases engine.configuration.pageTable.bind fun table => table.fetch? shared.own address with
  | some word => exact .pure word
  | none => exact .bind (ask_parallel handle _) fun _ => .pure _

/-- The operands of a deferred operation are registers or constants, which are read in the same way
on both sides. -/
theorem runOperation_parallel (compiled : Option (Option (Callback (DeferredFunction σ ν))))
    {first second : Exec σ ν UInt32} (firstSame : first.Parallel perform counterpart first)
    (secondSame : second.Parallel perform counterpart second) :
    (runOperation perform compiled first second).Parallel perform counterpart
      (runOperation counterpart compiled first second) := by
  unfold runOperation
  split
  · exact .bind firstSame fun _ => .bind secondSame fun _ =>
      .bind (Callback.run_parallel _ _ _) fun _ => .pure _
  · exact .pure _

theorem sendOneWord_parallel (handle : Handle) (source : RegisterNumber)
    (compiled : Option (Transfer (DeferredFunction σ ν) Location)) :
    (sendOneWord perform handle source compiled).Parallel perform counterpart
      (sendOneWord counterpart handle source compiled) := by
  unfold sendOneWord
  split
  · exact .pure _
  · exact .pure _
  · exact .bind (readRegister_parallel handle source) fun _ =>
      .bind (Callback.run_parallel _ _ _) fun _ => .pure _
  · exact .bind (readRegister_parallel handle source) fun _ => .bind (.storeWord _ _) fun _ => .pure _

theorem getOneWord_parallel (handle : Handle) (target : RegisterNumber)
    (compiled : Option (Transfer (DeferredFunction σ ν) Location)) :
    (getOneWord perform handle target compiled).Parallel perform counterpart
      (getOneWord counterpart handle target compiled) := by
  unfold getOneWord
  split
  · exact .pure _
  · exact .pure _
  · exact .bind (Callback.run_parallel _ _ _) fun _ =>
      .bind (writeRegister_parallel handle target _) fun _ => .pure _
  · exact .bind (.loadWord _) fun _ => .bind (writeRegister_parallel handle target _) fun _ => .pure _

theorem sendTwoWords_parallel (handle : Handle) (lowSource highSource : RegisterNumber)
    (compiled : Option (Transfer (DeferredFunction σ ν) (Location × Location))) :
    (sendTwoWords perform handle lowSource highSource compiled).Parallel perform counterpart
      (sendTwoWords counterpart handle lowSource highSource compiled) := by
  unfold sendTwoWords
  split
  · exact .pure _
  · exact .pure _
  · exact .bind (readRegister_parallel handle lowSource) fun _ =>
      .bind (readRegister_parallel handle highSource) fun _ =>
        .bind (Callback.run_parallel _ _ _) fun _ => .pure _
  · exact .bind (readRegister_parallel handle lowSource) fun _ => .bind (.storeWord _ _) fun _ =>
      .bind (readRegister_parallel handle highSource) fun _ => .bind (.storeWord _ _) fun _ => .pure _

theorem getTwoWords_parallel (handle : Handle) (lowTarget highTarget : RegisterNumber)
    (compiled : Option (Transfer (DeferredFunction σ ν) (Location × Location))) :
    (getTwoWords perform handle lowTarget highTarget compiled).Parallel perform counterpart
      (getTwoWords counterpart handle lowTarget highTarget compiled) := by
  unfold getTwoWords
  split
  · exact .pure _
  · exact .pure _
  · exact .bind (Callback.run_parallel _ _ _) fun _ =>
      .bind (writeRegister_parallel handle lowTarget _) fun _ =>
        .bind (writeRegister_parallel handle highTarget _) fun _ => .pure _
  · exact .bind (.loadWord _) fun _ => .bind (writeRegister_parallel handle lowTarget _) fun _ =>
      .bind (.loadWord _) fun _ => .bind (writeRegister_parallel handle highTarget _) fun _ => .pure _

/-- The instructions for coprocessors, form by form: each consults and then uses the answer.
Performers matter only to the callbacks inside. -/
theorem coprocessor_parallel (handle : Handle) (slot : Fin 16)
    (instruction : CoprocessorInstruction) :
    (coprocessor perform handle slot instruction).Parallel perform counterpart
      (coprocessor counterpart handle slot instruction) := by
  cases instruction with
  | internalOperation =>
    exact .bind (withCoprocessor_parallel handle slot fun bridge =>
      bridge.consult_parallel _ _ _ _) fun compiled =>
        runOperation_parallel compiled (.pure _) (.pure _)
  | sendOneWord =>
    exact .bind (withCoprocessor_parallel handle slot fun bridge =>
      bridge.consult_parallel _ _ _ _) fun compiled => sendOneWord_parallel handle _ compiled
  | getOneWord =>
    exact .bind (withCoprocessor_parallel handle slot fun bridge =>
      bridge.consult_parallel _ _ _ _) fun compiled => getOneWord_parallel handle _ compiled
  | sendTwoWords =>
    exact .bind (withCoprocessor_parallel handle slot fun bridge =>
      bridge.consult_parallel _ _ _ _) fun compiled =>
        sendTwoWords_parallel handle _ _ compiled
  | getTwoWords =>
    exact .bind (withCoprocessor_parallel handle slot fun bridge =>
      bridge.consult_parallel _ _ _ _) fun compiled =>
        getTwoWords_parallel handle _ _ compiled
  | loadWords | storeWords =>
    exact .bind (withCoprocessor_parallel handle slot fun bridge =>
      bridge.consult_parallel _ _ _ _) fun compiled =>
        runOperation_parallel compiled (readRegister_parallel handle _) (.pure _)

theorem raise_parallel (handle : Handle) (address : UInt32) :
    (raise perform handle address).Parallel perform counterpart (raise counterpart handle address) :=
  .bind (ask_parallel handle _) fun _ => .pure _

/-- The instructions of all classes. -/
theorem execute_parallel (handle : Handle) (address : UInt32) (instruction : Instruction) :
    (execute perform handle address instruction).Parallel perform counterpart
      (execute counterpart handle address instruction) := by
  cases instruction with
  | idle | branch => exact .bind (writeRegister_parallel handle pc _) fun _ => .pure _
  | supervisorCall number =>
    exact .bind (writeRegister_parallel handle pc _) fun _ =>
      .bind (ask_parallel handle _) fun _ => .pure _
  | coprocessor slot instruction =>
    refine .bind (coprocessor_parallel handle slot instruction) fun implemented => ?_
    cases implemented with
    | true => exact .bind (writeRegister_parallel handle pc _) fun _ => .pure _
    | false => exact raise_parallel handle address
  | undefined => exact raise_parallel handle address

theorem step_parallel (handle : Handle) :
    (step perform handle).Parallel perform counterpart (step counterpart handle) :=
  .bind (readRegister_parallel handle pc) fun address => .bind (fetch_parallel handle address)
    fun _ => .bind (.emit trivial) fun _ => execute_parallel handle address _

/-- A turn of the run loop, whatever becomes of it. -/
theorem turn_parallel (handle : Handle) :
    (turn perform handle).Parallel perform counterpart (turn counterpart handle) := by
  refine .bind (takeHalt_parallel handle) fun halted => ?_
  cases halted with
  | true => exact .pure _
  | false =>
    refine .bind (ask_parallel handle _) fun left => ?_
    split
    · exact .pure _
    · exact .bind (step_parallel handle) fun _ => .bind (ask_parallel handle _)
        fun _ => .pure _

/-- By induction on the number of turns. -/
theorem run_parallel (handle : Handle) (turns : Nat) :
    (run perform handle turns).Parallel perform counterpart (run counterpart handle turns) := by
  induction turns with
  | zero => exact .throw _
  | succ turns ih =>
    refine .bind (turn_parallel handle) fun goesOn => ?_
    cases goesOn with
    | true => exact ih
    | false => exact .pure _

end Stepping

end

end RecompilerAdapter
