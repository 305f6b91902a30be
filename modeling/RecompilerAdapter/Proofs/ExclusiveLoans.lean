/-
Module: RecompilerAdapter.Proofs.ExclusiveLoans
Purpose: Loans are exclusive. A stepping engine needs a part only when it has lent out nothing, and it
  gets every part back, whatever is done meanwhile; a run keeps all loans of the runs around it. So in no
  session a part is needed while it is lent out.
Trusted boundary: none
Main exports: Exec.Serves, Exec.StaysExclusive, ExclusiveLoans, Stepping.lentParts_returned,
  perform_careful
-/
import RecompilerAdapter.Proofs.Loans
import RecompilerAdapter.Proofs.RunStates
import RecompilerAdapter.Proofs.RunlessBodies

namespace RecompilerAdapter

open Stepping (lentParts setLentParts)

variable {σ ν ρ α β : Type} {perform : Performer σ ν} {start world after : World σ ν}
  {handle : Handle} {part : EnginePart}

/-! ### Computations of a stepping engine -/

/-- A computation that an engine carries out inside a run of its wrapper, while it has lent out
nothing. It needs no part that is lent out, and has lent out nothing in the end. -/
def Exec.Serves (handle : Handle) (computation : Exec σ ν α) : Prop :=
  ∀ start world, Serving start handle [] world →
    computation.Ensures world (fun _ => Serving start handle []) ExclusiveStop

/-- What keeps all loans may be done on behalf of an engine that has lent out nothing. -/
theorem Exec.Careful.serves {computation : Exec σ ν α} (careful : computation.Careful) :
    computation.Serves handle := by
  intro start world serving
  apply (careful world serving.toExclusive).mono
  · intro _ after loans
    exact serving.later loans
  · intro _ _ stopped
    exact stopped

namespace Exec.Serves

/-- An engine at rest may answer at once. -/
theorem pure (answer : α) : (Pure.pure answer : Exec σ ν α).Serves handle :=
  (Careful.pure answer).serves

/-- What the engine does in sequence starts from rest each time, so no loan is left over between two
parts. -/
theorem bind {computation : Exec σ ν α} {next : α → Exec σ ν β} (first : computation.Serves handle)
    (rest : ∀ answer, (next answer).Serves handle) : (computation >>= next).Serves handle := by
  intro start world serving
  apply Ensures.bind (first start world serving)
  intro answer middle still
  exact rest answer start middle still

end Exec.Serves

namespace Stepping

/-- An engine that has lent out the part and nothing else, or nothing at all, has lent out nothing
when it has got the part back. -/
theorem lentParts_returned {engine other : Engine σ ν}
    (same : lentParts engine = lentParts (setLentParts [part] other)) :
    lentParts (setLentParts ((lentParts engine).erase part) engine) = [] := by
  have nothing : (lentParts engine).erase part = [] := by
    rw [same, lentParts_setLentParts]
    split <;> simp
  rw [nothing, lentParts_setLentParts, ite_self]

/-- At most one part is lent out at a time. -/
theorem lentParts_lent_length (part : EnginePart) (engine : Engine σ ν) :
    (lentParts (setLentParts [part] engine)).length ≤ 1 := by
  rw [lentParts_setLentParts]
  split <;> simp

/-- While nothing is lent out any part may be needed, and whoever has it meanwhile may do
anything. -/
theorem lending_serves {body : Exec σ ν α} (careful : body.Careful) (part : EnginePart) :
    (lending handle part body).Serves handle := by
  intro start world serving
  obtain ⟨wrapper, present, running, nothing⟩ := serving.serving
  unfold lending
  apply Exec.Ensures.after (Exec.engine_of_present present)
  have free : (lentParts wrapper.engine).contains part = false := by simp [nothing]
  simp only [free, Bool.false_eq_true, if_false]
  apply Exec.Ensures.after (Exec.modifyEngine_of_present present _)
  have lent : Serving start handle (lentParts (setLentParts [part] wrapper.engine))
      (world.place handle { wrapper with
        engine := setLentParts (part :: lentParts wrapper.engine) wrapper.engine }) := by
    apply serving.lend
    · exact running
    · simp only [nothing]
    · exact lentParts_lent_length part wrapper.engine
  apply Exec.Ensures.bind (careful _ lent.toExclusive)
  intro answer middle loans
  have still := lent.later loans
  obtain ⟨later, isLater, stillRunning, same⟩ := still.serving
  apply Exec.Ensures.after (Exec.modifyEngine_of_present isLater _)
  exact still.lend stillRunning (lentParts_returned same) (Nat.zero_le 1)

theorem readRegister_careful (handle : Handle) (number : RegisterNumber) :
    (readRegister handle number : Exec σ ν UInt32).Careful :=
  .bind (.engine handle) fun _ => .pure _

theorem writeRegister_careful (handle : Handle) (number : RegisterNumber) (value : UInt32) :
    (writeRegister handle number value : Exec σ ν Unit).Careful := by
  apply Exec.Careful.modifyEngine
  exact fun _ => rfl

/-- The callbacks are lent out for the time of a request, and only then. -/
theorem ask_serves (careful : perform.Careful) (request : HostRequest) :
    (ask perform handle request).Serves handle := by
  apply lending_serves
  apply Exec.Careful.bind (.engine handle)
  intro engine
  exact engine.configuration.callbacks.forward_careful careful request

/-- Fetching a word from a page lends out nothing. -/
theorem fetch_serves (careful : perform.Careful) (address : UInt32) :
    (fetch perform handle address).Serves handle := by
  apply Exec.Serves.bind (Exec.Careful.engine handle).serves
  intro engine
  apply Exec.Serves.bind Exec.Careful.get.serves
  intro _
  dsimp only
  split
  · exact .pure _
  · exact .bind (ask_serves careful _) fun _ => .pure _

/-- The coprocessors are lent out for the time of a compile request. -/
theorem withCoprocessor_serves {compile : CoprocessorBridge σ ν → Exec σ ν α} (slot : Fin 16)
    (careful : ∀ bridge, (compile bridge).Careful) :
    (withCoprocessor handle slot compile).Serves handle := by
  apply lending_serves
  apply Exec.Careful.bind (.engine handle)
  intro engine
  split
  · exact .bind (careful _) fun _ => .pure _
  · exact .pure none

/-! ### Coprocessor instructions -/

variable {location : Option (Transfer (DeferredFunction σ ν) Location)}
  {locations : Option (Transfer (DeferredFunction σ ν) (Location × Location))}

/-- A deferred operation is called when nothing is lent out any more: compiling is over by then. -/
theorem runOperation_careful (careful : perform.Careful)
    (compiled : Option (Option (Callback (DeferredFunction σ ν)))) {first second : Exec σ ν UInt32}
    (firstly : first.Careful) (secondly : second.Careful) :
    (runOperation perform compiled first second).Careful := by
  rcases compiled with _ | _ | callback
  · exact .pure false
  · exact .pure false
  · exact .bind firstly fun _ => .bind secondly fun _ =>
      .bind (callback.run_careful careful _ _) fun _ => .pure true

theorem sendOneWord_careful (careful : perform.Careful) (source : RegisterNumber) :
    (sendOneWord perform handle source location).Careful := by
  rcases location with _ | _ | callback | location
  · exact .pure false
  · exact .pure false
  · exact .bind (readRegister_careful handle source) fun _ =>
      .bind (callback.run_careful careful _ 0) fun _ => .pure true
  · exact .bind (readRegister_careful handle source) fun _ =>
      .bind (.storeWord location _) fun _ => .pure true

theorem getOneWord_careful (careful : perform.Careful) (target : RegisterNumber) :
    (getOneWord perform handle target location).Careful := by
  rcases location with _ | _ | callback | location
  · exact .pure false
  · exact .pure false
  · exact .bind (callback.run_careful careful 0 0) fun _ =>
      .bind (writeRegister_careful handle target _) fun _ => .pure true
  · exact .bind (.loadWord location) fun _ =>
      .bind (writeRegister_careful handle target _) fun _ => .pure true

theorem sendTwoWords_careful (careful : perform.Careful) (low high : RegisterNumber) :
    (sendTwoWords perform handle low high locations).Careful := by
  rcases locations with _ | _ | callback | ⟨first, second⟩
  · exact .pure false
  · exact .pure false
  · exact .bind (readRegister_careful handle low) fun _ =>
      .bind (readRegister_careful handle high) fun _ =>
        .bind (callback.run_careful careful _ _) fun _ => .pure true
  · exact .bind (readRegister_careful handle low) fun _ => .bind (.storeWord first _) fun _ =>
      .bind (readRegister_careful handle high) fun _ => .bind (.storeWord second _) fun _ =>
        .pure true

theorem getTwoWords_careful (careful : perform.Careful) (low high : RegisterNumber) :
    (getTwoWords perform handle low high locations).Careful := by
  rcases locations with _ | _ | callback | ⟨first, second⟩
  · exact .pure false
  · exact .pure false
  · exact .bind (callback.run_careful careful 0 0) fun _ =>
      .bind (writeRegister_careful handle low _) fun _ =>
        .bind (writeRegister_careful handle high _) fun _ => .pure true
  · exact .bind (.loadWord first) fun _ => .bind (writeRegister_careful handle low _) fun _ =>
      .bind (.loadWord second) fun _ => .bind (writeRegister_careful handle high _) fun _ =>
        .pure true

/-- The answer of a coprocessor is used when the coprocessors are back, so a deferred operation may
do anything too. -/
theorem useCompiled_careful (careful : perform.Careful) (instruction : CoprocessorInstruction)
    (compiled : Option (Compiled (DeferredFunction σ ν))) :
    (useCompiled perform handle instruction compiled).Careful := by
  cases instruction with
  | internalOperation => exact runOperation_careful careful _ (.pure 0) (.pure 0)
  | loadWords two long crd option base | storeWords two long crd option base =>
    exact runOperation_careful careful _ (readRegister_careful handle base) (.pure 0)
  | sendOneWord two opc1 crn crm opc2 source => exact sendOneWord_careful careful source
  | getOneWord two opc1 crn crm opc2 target => exact getOneWord_careful careful target
  | sendTwoWords two opc crm low high => exact sendTwoWords_careful careful low high
  | getTwoWords two opc crm low high => exact getTwoWords_careful careful low high

/-- So an instruction for a coprocessor lends out its coprocessors first, gets them back, and uses
the answer. -/
theorem coprocessor_serves (careful : perform.Careful) (slot : Fin 16)
    (instruction : CoprocessorInstruction) :
    (coprocessor perform handle slot instruction).Serves handle := by
  rw [coprocessor_eq]
  apply Exec.Serves.bind
  · apply withCoprocessor_serves slot
    intro bridge
    exact bridge.compile_careful careful instruction.request
  · intro compiled
    exact (useCompiled_careful careful instruction compiled).serves

/-! ### Steps, turns and runs -/

theorem raise_serves (careful : perform.Careful) (address : UInt32) :
    (raise perform handle address).Serves handle :=
  .bind (ask_serves careful _) fun _ => .pure false

/-- Every instruction leaves its engine with all its parts. -/
theorem execute_serves (careful : perform.Careful) (address : UInt32) (instruction : Instruction) :
    (execute perform handle address instruction).Serves handle := by
  have moves (value : UInt32) : (writeRegister handle pc value : Exec σ ν Unit).Serves handle :=
    (writeRegister_careful handle pc value).serves
  cases instruction with
  | idle | branch => exact (moves _).bind fun _ => .pure true
  | supervisorCall number =>
    exact (moves _).bind fun _ => .bind (ask_serves careful _) fun _ => .pure true
  | coprocessor slot instruction =>
    apply Exec.Serves.bind (coprocessor_serves careful slot instruction)
    intro implemented
    cases implemented with
    | true => exact (moves _).bind fun _ => .pure true
    | false => exact raise_serves careful address
  | undefined => exact raise_serves careful address

theorem step_serves (careful : perform.Careful) : (step perform handle).Serves handle :=
  .bind (readRegister_careful handle pc).serves fun address =>
    .bind (fetch_serves careful address) fun _ => .bind (Exec.Careful.emit _).serves fun _ =>
      execute_serves careful address _

/-- Taking a request to halt lends out nothing. -/
theorem takeHalt_careful (handle : Handle) : (takeHalt handle : Exec σ ν Bool).Careful := by
  apply Exec.Careful.bind (.engine handle)
  intro engine
  apply Exec.Careful.bind
  · apply Exec.Careful.modifyEngine
    exact fun _ => rfl
  · exact fun _ => .pure _

/-- In a turn the engine asks its host at most twice beside the step, one call after the other. -/
theorem turn_serves (careful : perform.Careful) : (turn perform handle).Serves handle := by
  apply Exec.Serves.bind (takeHalt_careful handle).serves
  intro halted
  split
  · exact .pure false
  · apply Exec.Serves.bind (ask_serves careful .ticksRemaining)
    intro ticks
    split
    · exact .pure false
    · exact .bind (step_serves careful) fun _ => .bind (ask_serves careful _) fun _ => .pure true

/-- By induction on the turns. -/
theorem run_serves (careful : perform.Careful) (turns : Nat) :
    (run perform handle turns).Serves handle := by
  have stops : (throw .outOfFuel : Exec σ ν Unit).Careful := .throw nofun
  induction turns with
  | zero => exact stops.serves
  | succ turns ih =>
    apply Exec.Serves.bind (turn_serves careful)
    intro continues
    cases continues with
    | true => exact ih
    | false => exact .pure ()

end Stepping

/-! ### Actions -/

namespace Wrapper

/-- A scripted engine lends out nothing; a stepping one gets everything back. -/
theorem runEngine_serves (careful : perform.Careful) (turns : Nat) :
    (runEngine perform turns handle).Serves handle := by
  apply Exec.Serves.bind (Exec.Careful.engine handle).serves
  intro engine
  split
  · exact Stepping.run_serves careful turns
  · exact (Scripted.run_careful careful handle).serves

/-- A run keeps the loans of the runs around it: if it is one of them, it does nothing. -/
theorem run_careful (careful : perform.Careful) (turns : Nat) (handle : Handle) :
    (run perform turns handle).Careful := by
  intro world exclusive
  apply Exec.Ensures.wrapper_bind
  · intro wrapper present
    split
    · exact exclusive.loans
    · rename_i resting
      have nothing := exclusive.resting handle wrapper present resting
      -- If it was running, it would have been turned away above, so its engine has nothing lent
      -- out.
      have free : ∀ found, world.wrappers.get? handle = some found → found.state ≠ .running := by
        intro found isFound
        obtain rfl : wrapper = found := Option.some.inj (present.symm.trans isFound)
        exact resting
      have entered : Serving world handle []
          ((world.place handle { wrapper with state := .running }).recordAll
            [.runEntered handle, .log (.engineRun wrapper.userData)]) :=
        { exclusive.loans.occupy free (by simp [nothing]) (absurd rfl) with
          free := free
          serving := ⟨{ wrapper with state := .running }, by simp, rfl, nothing⟩ }
      apply Exec.Ensures.after (Exec.modifyWrapper_of_present present _)
      apply Exec.Ensures.emit_bind
      apply Exec.Ensures.emit_bind
      apply Exec.Ensures.bind (runEngine_serves careful turns world _ entered)
      intro _ worked serving
      -- What the engine lent out during the run it has taken back, so the wrapper may be halted.
      obtain ⟨later, isLater, -, nothing⟩ := serving.serving
      have left : Loans world (worked.place handle { later with state := .halted }) :=
        serving.toLoans.occupy free (by simp [nothing]) fun _ => nothing
      apply Exec.Ensures.after (Exec.modifyWrapper_of_present isLater _)
      exact left.of_same rfl
  · intro absent
    exact .dangling exclusive handle

/-- Actions other than runs do not touch modes, and a run is careful if the actions inside it
are. -/
theorem performWith_careful (careful : perform.Careful) (turns : Nat) :
    (performWith perform turns).Careful := by
  intro surface handle action
  cases action using Action.byKind σ ν with
  | run script =>
    have scheduling : (schedule script : Exec σ ν Unit).Careful := by
      cases script with
      | none => exact .pure ()
      | some operations => exact .setScript operations
    apply Exec.Careful.bind scheduling
    intro _
    apply Exec.Careful.bind (run_careful careful turns handle)
    intro accepted
    split
    · exact .pure _
    · cases surface with
      | direct => exact .pure _
      | foreign => exact .abort _
  | adjust action update adjusts =>
    rw [performWith_adjustment adjusts]
    apply Exec.Careful.bind
    · apply Exec.Careful.modifyEngine
      intro engine
      exact Stepping.lentParts_of_mode (action.mode_adjustment adjusts engine)
    · exact fun _ => .pure _
  | observe action view observes =>
    rw [performWith_observation observes]
    exact .bind (.wrapper handle) fun _ => .pure _
  | arrange number => exact .throw nofun

end Wrapper

/-- Whatever the bound is, actions keep the loans of the runs in which they are carried out. -/
theorem perform_careful (bound : Nat) : (RecompilerAdapter.perform bound : Performer σ ν).Careful := by
  induction bound with
  | zero => exact fun _ _ _ => .throw nofun
  | succ bound ih =>
    intro surface handle action
    exact .bind (.emit _) fun _ => .bind (Wrapper.performWith_careful ih bound surface handle action)
      fun _ => .bind (.emit _) fun _ => .pure _

/-! ### Building and deleting -/

/-- A computation between runs: no loan is double, whether it completes or stops. -/
def Exec.StaysExclusive (computation : Exec σ ν α) : Prop :=
  ∀ world, world.Exclusive → computation.Ensures world (fun _ => World.Exclusive) ExclusiveStop

/-- From any exclusive world, what keeps all loans leads to an exclusive one. -/
theorem Exec.Careful.staysExclusive {computation : Exec σ ν α} (careful : computation.Careful) :
    computation.StaysExclusive := by
  intro world exclusive
  apply (careful world exclusive).mono
  · intro _ _ loans
    exact loans.toExclusive
  · intro _ _ stopped
    exact stopped

namespace Exec.StaysExclusive

/-- Answering at once stays exclusive. -/
theorem pure (answer : α) : (Pure.pure answer : Exec σ ν α).StaysExclusive :=
  (Careful.pure answer).staysExclusive

/-- Computations that stay exclusive do so one after the other. Here loans need not be kept, as no
engine is at work. -/
theorem bind {computation : Exec σ ν α} {next : α → Exec σ ν β} (first : computation.StaysExclusive)
    (rest : ∀ answer, (next answer).StaysExclusive) : (computation >>= next).StaysExclusive := by
  intro world exclusive
  apply Ensures.bind (first world exclusive)
  intro answer middle still
  exact rest answer middle still

end Exec.StaysExclusive

/-- Telling of events is careful. -/
theorem Exec.Records.careful {computation : Exec σ ν Unit} {events : List (Event ν)}
    (records : computation.Records events) : computation.Careful := by
  apply Exec.Careful.of_same
  intro world
  apply records.ensures.mono
  · rintro _ _ rfl
    exact World.wrappers_recordAll world events
  · intro _ _ impossible
    exact impossible

/-- A new engine has lent out nothing. Whatever other wrappers do while it is probed, they keep
their own loans right. -/
theorem EngineChoice.construct_exclusive (careful : perform.Careful)
    (configuration : EngineConfiguration σ ν) (choice : EngineChoice) (exclusive : world.Exclusive) :
    (choice.construct perform configuration).Ensures world
      (fun result after => after.Exclusive ∧ ∀ engine, result = .ok engine → lentParts engine = [])
      ExclusiveStop := by
  have probing (operations : List EngineOperation) :
      (do
        Exec.emit (.configured configuration.summary)
        Scripted.probe perform configuration none operations).StaysExclusive :=
    (Exec.Careful.bind (.emit _) fun _ =>
      Scripted.probe_careful careful operations none).staysExclusive
  cases choice with
  | stepping =>
    simp only [construct]
    split
    · refine Exec.Ensures.pure ⟨exclusive, ?_⟩
      rintro _ ⟨rfl⟩
      rfl
    · exact Exec.Ensures.pure ⟨exclusive, by simp⟩
  | scripted operations =>
    have probed := probing operations world exclusive
    simp only [construct]
    rw [← bind_assoc]
    apply Exec.Ensures.bind probed
    intro last after still
    refine Exec.Ensures.pure ⟨still, ?_⟩
    rintro _ ⟨rfl⟩
    rfl
  | refusing reason operations =>
    have probed := probing operations world exclusive
    simp only [construct]
    rw [← bind_assoc]
    apply Exec.Ensures.bind probed
    intro last after still
    exact Exec.Ensures.pure ⟨still, by simp⟩

/-- A new wrapper is put in place with an engine that has lent out nothing. -/
theorem Builder.attach_exclusive (builder : Builder σ ν) (slot : HandleSlot) {engine : Engine σ ν}
    (nothing : lentParts engine = []) : (builder.attach slot engine).StaysExclusive := by
  intro world exclusive
  apply Exec.Ensures.modifyGet_bind
  have placed : (world.place ⟨world.built + 1⟩
      ⟨builder.userData, .constructed, engine⟩).Exclusive := by
    apply exclusive.place
    · simp [nothing]
    · exact fun _ => nothing
  have binding (handle : Handle) : (Exec.bindSlot slot handle : Exec σ ν Unit).Careful := by
    apply Exec.Careful.get.bind
    intro _
    split
    · exact .of_same fun _ => rfl
    · exact .throw nofun
  have rest : (do
      Exec.bindSlot slot ⟨world.built + 1⟩
      Exec.emit (.attached slot ⟨world.built + 1⟩ builder.userData)
      return ⟨world.built + 1⟩ : Exec σ ν Handle).Careful :=
    .bind (binding _) fun _ => .bind (.emit _) fun _ => .pure _
  exact rest.staysExclusive _ (placed.of_same rfl)

/-- Building constructs an engine with all its parts and attaches it. -/
theorem Builder.build_exclusive (careful : perform.Careful) (builder : Builder σ ν)
    (engine : EngineChoice) : (builder.build perform engine).StaysExclusive := by
  intro world exclusive
  have prepared : (world.prepared builder).Exclusive := exclusive.of_same rfl
  apply Exec.Ensures.modifyGet_bind
  apply Exec.Ensures.emit_bind
  apply Exec.Ensures.bind (engine.construct_exclusive careful _ prepared)
  rintro (error | constructed) probed ⟨still, nothing⟩
  · have dropped := (builder.configuration world.slots.allocate.1).drop_records.careful
    exact (dropped.bind fun _ => .pure _).staysExclusive probed still
  · exact ((builder.attach_exclusive _ (nothing constructed rfl)).bind fun _ => .pure _) probed still

/-- Removing a wrapper leaves the others as they are. -/
theorem World.Exclusive.remove (exclusive : world.Exclusive) (handle : Handle) :
    (world.remove handle).Exclusive := by
  have remains {other : Handle} {found : Wrapper σ ν}
      (isFound : (world.remove handle).wrappers.get? other = some found) :
      world.wrappers.get? other = some found := by
    rw [World.remove, Registry.get?_erase] at isFound
    split at isFound
    · cases isFound
    · exact isFound
  constructor
  · intro other found isFound
    exact exclusive.single other found (remains isFound)
  · intro other found isFound
    exact exclusive.resting other found (remains isFound)

/-- So does deleting it, which tells of more than it changes. -/
theorem Wrapper.delete_exclusive (handle : Handle) :
    (delete handle : Exec σ ν Unit).StaysExclusive := by
  apply Exec.StaysExclusive.bind (Exec.Careful.wrapper handle).staysExclusive
  intro wrapper
  apply Exec.StaysExclusive.bind (Exec.Careful.emit _).staysExclusive
  intro _
  apply Exec.StaysExclusive.bind wrapper.engine.configuration.drop_records.careful.staysExclusive
  intro _ world exclusive
  exact exclusive.remove handle

/-- Changing a builder has nothing to do with engines. -/
theorem Builder.withCoprocessor_careful (builder : Builder σ ν) (slot : Nat)
    (table : CoprocessorTable σ ν) : (builder.withCoprocessor slot table).Careful := by
  apply Exec.Careful.of_same
  intro world
  apply Command.withCoprocessor_ensures.mono
  · rintro _ _ (⟨-, -, rfl⟩ | ⟨-, -, rfl⟩) <;> exact World.wrappers_recordAll _ _
  · intro _ _ impossible
    exact impossible

/-! ### Sessions -/

namespace Command

/-- Looking for a builder touches no wrapper. -/
theorem find_careful (builders : Builders σ ν) (number : Nat) :
    (find builders number).Careful := by
  unfold find
  split
  · exact .pure _
  · exact .throw nofun

/-- Each command stays exclusive: changes of builders are careful, building and deleting have their
own lemmas, and a call is caller code. -/
theorem exec_exclusive (careful : perform.Careful) (builders : Builders σ ν)
    (command : Command σ ν ρ) : (command.exec perform builders).StaysExclusive := by
  have finding (number : Nat) : (find builders number).StaysExclusive :=
    (find_careful builders number).staysExclusive
  cases command with
  | openBuilder number userData callbacks =>
    have releasing : ((builders.get? number).forM Builder.release : Exec σ ν Unit).Careful := by
      cases builders.get? number with
      | none => exact .pure _
      | some builder => exact builder.release_records.careful
    exact (releasing.bind fun _ => .pure _).staysExclusive
  | usePageTable | useOptions => exact .bind (finding _) fun _ => .pure _
  | installCoprocessor number slot table =>
    apply Exec.StaysExclusive.bind (finding number)
    intro builder
    apply Exec.StaysExclusive.bind (builder.withCoprocessor_careful slot table).staysExclusive
    rintro (error | builder) <;> exact .pure _
  | installCoprocessors number tables =>
    apply Exec.StaysExclusive.bind (finding number)
    intro builder
    exact ((builder.release_records.careful.bind fun _ => .pure _).bind fun _ =>
      .pure _).staysExclusive
  | dropBuilder number =>
    apply Exec.StaysExclusive.bind (finding number)
    intro builder
    exact (builder.release_records.careful.bind fun _ => .pure _).staysExclusive
  | build number engine =>
    apply Exec.StaysExclusive.bind (finding number)
    intro builder
    apply Exec.StaysExclusive.bind (builder.build_exclusive careful engine)
    rintro (error | handle) <;> exact .pure _
  | construct userData callbacks pageTable coprocessors engine =>
    refine .bind ?_ fun handle => .pure _
    -- A constructor is a builder that is built at once. If that fails, it aborts after everything
    -- has been released.
    rw [construct_eq]
    apply Exec.StaysExclusive.bind (Builder.build_exclusive careful _ engine)
    rintro (error | handle)
    · exact (Exec.Careful.bind (.emit _) fun _ => .abort _).staysExclusive
    · exact .pure _
  | delete handle => exact .bind (Wrapper.delete_exclusive handle) fun _ => .pure _
  | call body =>
    exact ((Activity.exec_careful careful body).bind fun _ => .pure _).staysExclusive

/-- By induction on the commands. -/
theorem execAll_exclusive (careful : perform.Careful) (commands : List (Command σ ν ρ))
    (builders : Builders σ ν) : (execAll perform builders commands).StaysExclusive := by
  induction commands generalizing builders with
  | nil => exact .pure _
  | cons command commands ih =>
    apply Exec.StaysExclusive.bind (exec_exclusive careful builders command)
    intro result
    exact .bind (ih result.2) fun _ => .pure _

end Command

/-- Who has lent out something is inside a run, so it rejects further runs: the direct surface tells
so, and the foreign surface ends everything. -/
theorem World.Exclusive.rejects {wrapper : Wrapper σ ν} (exclusive : world.Exclusive)
    (present : world.wrappers.get? handle = some wrapper) (lent : part ∈ lentParts wrapper.engine) :
    world.rejects handle = true := by
  rw [rejects_of_running present, decide_eq_true_iff]
  by_contra resting
  rw [exclusive.resting handle wrapper present resting] at lent
  cases lent

/-- An engine that has lent out its callbacks cannot even ask for its ticks. So without the guard
against runs inside a run, a part would be needed while it is lent out. -/
theorem Wrapper.runEngine_lent {wrapper : Wrapper σ ν}
    (present : world.wrappers.get? handle = some wrapper)
    (lent : .callbacks ∈ lentParts wrapper.engine) (unhalted : wrapper.engine.haltRequested = false)
    (turns : Nat) :
    ∃ after, runEngine perform (turns + 1) handle world = .error (.lentTwice .callbacks) after := by
  let asking : Wrapper σ ν :=
    { wrapper with engine := { wrapper.engine with haltRequested := false } }
  have stepping : ∃ parts, wrapper.engine.mode = .stepping parts := by
    cases isMode : wrapper.engine.mode with
    | stepping parts => exact ⟨parts, rfl⟩
    | scripted last => simp [lentParts, isMode] at lent
  obtain ⟨parts, isMode⟩ := stepping
  have taken : Stepping.takeHalt handle world = .ok false (world.place handle asking) := by
    rw [Stepping.takeHalt, Exec.bind_of_ok (Exec.engine_of_present present),
      Exec.bind_of_ok (Exec.modifyEngine_of_present present _)]
    exact congrArg (EStateM.Result.ok · (world.place handle asking)) unhalted
  have isAsking : (world.place handle asking).wrappers.get? handle = some asking := by simp
  have same : lentParts asking.engine = lentParts wrapper.engine := rfl
  have borrowed : (lentParts asking.engine).contains .callbacks = true := by
    rw [same, List.contains_iff_mem]
    exact lent
  have refused : Stepping.ask perform handle .ticksRemaining (world.place handle asking) =
      .error (.lentTwice .callbacks) (world.place handle asking) := by
    rw [Stepping.ask, Stepping.lending, Exec.bind_of_ok (Exec.engine_of_present isAsking),
      if_pos borrowed]
    rfl
  have turned : Stepping.turn perform handle world =
      .error (.lentTwice .callbacks) (world.place handle asking) :=
    (Exec.bind_of_ok taken).trans (Exec.bind_of_error refused)
  refine ⟨world.place handle asking, ?_⟩
  rw [runEngine, Exec.bind_of_ok (Exec.engine_of_present present)]
  simp only [isMode]
  exact Exec.bind_of_error turned

/-- What engines lend out, in a session of these commands. -/
structure ExclusiveLoans (bound : Nat) (own : σ) (commands : List (Command σ ν ρ)) : Prop where
  /-- No part of an engine is ever needed while it is lent out. -/
  never : ∀ part after, Command.sessionEnd bound own commands ≠ .error (.lentTwice part) after
  /-- Wherever the session ends, each engine has lent out one part at most, and only inside a run of
  its wrapper. The caller may stop the session whenever it acts. -/
  exclusive : (Command.sessionWorld bound own commands).Exclusive
  /-- Between two commands nothing is lent out. -/
  returned : ∀ result after, Command.sessionEnd bound own commands = .ok result after →
    ∀ handle wrapper, after.wrappers.get? handle = some wrapper → lentParts wrapper.engine = []
  /-- Every action, on either surface and at any depth, needs no part that is lent out, and keeps
  what the runs around it have lent out. -/
  careful : ∀ depth, (RecompilerAdapter.perform depth : Performer σ ν).Careful
  /-- So does every body that is called, whatever it does and whatever it answers. -/
  bodies : ∀ depth (α : Type) (body : Activity σ ν α),
    (body.exec (RecompilerAdapter.perform depth)).Careful
  /-- While a part is lent out, a run of the same wrapper is rejected before it reaches the
  engine. -/
  guarded : ∀ (world : World σ ν) handle wrapper part, world.Exclusive →
    world.wrappers.get? handle = some wrapper → part ∈ lentParts wrapper.engine →
    ∀ depth script,
    RecompilerAdapter.perform (depth + 1) .direct handle (.run script) world =
      .ok .alreadyRunning ((world.scheduled script).recordAll [.acting .direct handle (.run script),
        .acted .direct handle (.run script) .alreadyRunning]) ∧
    RecompilerAdapter.perform (depth + 1) .foreign handle (.run script) world =
      .error (.fatal .reentrantRun)
        ((world.scheduled script).record (.acting .foreign handle (.run script)))
  /-- Only that rejection prevents it: an engine that runs again while its callbacks are lent out
  needs them at once. -/
  needed : ∀ (world : World σ ν) handle wrapper, world.wrappers.get? handle = some wrapper →
    .callbacks ∈ lentParts wrapper.engine → wrapper.engine.haltRequested = false → ∀ depth turns,
    ∃ after, Wrapper.runEngine (RecompilerAdapter.perform depth) (turns + 1) handle world =
      .error (.lentTwice .callbacks) after

/-- No session ever stops because a part is needed that is lent out, and only the rejection of runs
inside runs makes this so. -/
theorem exclusiveLoans (bound : Nat) (own : σ) (commands : List (Command σ ν ρ)) :
    ExclusiveLoans bound own commands := by
  have ends := Command.execAll_exclusive (perform_careful bound) commands .empty (.initial own)
    (.initial own)
  constructor
  case never =>
    intro part after stopped
    exact (ends.of_stopped stopped).1 part rfl
  case exclusive =>
    apply Exec.Ensures.finalWorld
    apply ends.mono
    · intro _ _ exclusive
      exact exclusive
    · intro _ _ stopped
      exact stopped.2
  case returned =>
    rintro ⟨outcomes, builders⟩ after ended handle wrapper present
    have session := Command.session_of_end ended
    apply (ends.of_completed ended).resting handle wrapper present
    rw [session.coherent.states handle wrapper present, Ne, stateAfter_eq_running_iff, session.idle]
    exact List.not_mem_nil
  case careful => exact perform_careful
  case bodies =>
    intro depth α body
    exact Activity.exec_careful (perform_careful depth) body
  case guarded =>
    intro world handle wrapper part exclusive present lent depth script
    have rejects := exclusive.rejects present lent
    constructor
    · exact Wrapper.recording_of_rejects rejects
    · rw [perform_succ, Wrapper.recording_run, Wrapper.attempt_of_rejects rejects]
      rfl
  case needed =>
    intro world handle wrapper present lent unhalted depth turns
    exact Wrapper.runEngine_lent present lent unhalted turns

end RecompilerAdapter
