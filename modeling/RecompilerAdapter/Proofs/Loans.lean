/-
Module: RecompilerAdapter.Proofs.Loans
Purpose: What engines lend out while others act. An engine has lent out one part at most, and only while
  its wrapper is inside a run, where it rejects further runs. So whoever is called while a part is lent
  out finds no way to the computations that would need it again, and gives back everything else that they
  borrow. This is shown here of all that is called; it is used on the stepping engine elsewhere.
Trusted boundary: none
Main exports: World.Exclusive, Loans, Serving, ExclusiveStop, Exec.Careful, Performer.Careful
-/
import RecompilerAdapter.Engine.Scripted
import RecompilerAdapter.Proofs.CompileEntries
import RecompilerAdapter.Proofs.Move

namespace RecompilerAdapter

variable {σ ν α β : Type} {start world middle after : World σ ν} {handle : Handle}
  {lent : List EnginePart}

namespace Stepping

/-- What is lent out is part of the engine's mode, so what does not touch the mode leaves it
alone. -/
theorem lentParts_of_mode {engine other : Engine σ ν} (same : other.mode = engine.mode) :
    lentParts other = lentParts engine := by
  rw [lentParts, lentParts, same]

/-- Only a stepping engine lends anything out. -/
theorem lentParts_setLentParts (parts : List EnginePart) (engine : Engine σ ν) :
    lentParts (setLentParts parts engine) = if engine.mode.isStepping then parts else [] := by
  cases isMode : engine.mode <;> simp [lentParts, setLentParts, EngineMode.isStepping, isMode]

end Stepping

open Stepping (lentParts setLentParts)

/-! ### Loans -/

/-- Each engine has lent out one part at most, and none while its wrapper is not inside a run.
Nested runs of other wrappers lend out parts of other engines. -/
structure World.Exclusive (world : World σ ν) : Prop where
  single : ∀ handle wrapper, world.wrappers.get? handle = some wrapper →
    (lentParts wrapper.engine).length ≤ 1
  resting : ∀ handle wrapper, world.wrappers.get? handle = some wrapper →
    wrapper.state ≠ .running → lentParts wrapper.engine = []

/-- Since `start`, the wrappers that were inside a run have stayed inside it, and their engines have
lent out what they had lent out then. -/
structure Loans (start world : World σ ν) : Prop extends world.Exclusive where
  kept : ∀ handle wrapper, start.wrappers.get? handle = some wrapper → wrapper.state = .running →
    ∃ later, world.wrappers.get? handle = some later ∧ later.state = .running ∧
      lentParts later.engine = lentParts wrapper.engine

/-- The wrapper has entered a run since `start`, and its engine has lent out these parts. While it
serves, nested runs find it running and are turned away. -/
structure Serving (start : World σ ν) (handle : Handle) (lent : List EnginePart)
    (world : World σ ν) : Prop extends Loans start world where
  free : ∀ wrapper, start.wrappers.get? handle = some wrapper → wrapper.state ≠ .running
  serving : ∃ wrapper, world.wrappers.get? handle = some wrapper ∧ wrapper.state = .running ∧
    lentParts wrapper.engine = lent

namespace World.Exclusive

/-- Where there are no wrappers, nothing is lent out. -/
theorem initial (own : σ) : (World.initial own : World σ ν).Exclusive where
  single _ _ present := by simp [World.initial] at present
  resting _ _ present := by simp [World.initial] at present

/-- Exclusiveness is about wrappers only; events, words and slots may change. -/
theorem of_same (exclusive : world.Exclusive) (same : after.wrappers = world.wrappers) :
    after.Exclusive where
  single other found present := exclusive.single other found (same ▸ present)
  resting other found present := exclusive.resting other found (same ▸ present)

/-- An exclusive wrapper may be put in place. -/
theorem place {wrapper : Wrapper σ ν} (exclusive : world.Exclusive)
    (single : (lentParts wrapper.engine).length ≤ 1)
    (resting : wrapper.state ≠ .running → lentParts wrapper.engine = []) :
    (world.place handle wrapper).Exclusive := by
  constructor
  · intro other found present
    rcases World.get?_place_eq_some present with ⟨-, rfl⟩ | ⟨-, present⟩
    · exact single
    · exact exclusive.single other found present
  · intro other found present
    rcases World.get?_place_eq_some present with ⟨-, rfl⟩ | ⟨-, present⟩
    · exact resting
    · exact exclusive.resting other found present

/-- Where nothing has happened, all loans are as they were. -/
theorem loans (exclusive : world.Exclusive) : Loans world world :=
  { exclusive with kept := fun _ wrapper present running => ⟨wrapper, present, running, rfl⟩ }

end World.Exclusive

namespace Loans

/-- Loans that are kept twice are kept. -/
theorem trans (first : Loans start middle) (second : Loans middle after) : Loans start after where
  toExclusive := second.toExclusive
  kept handle wrapper present running := by
    obtain ⟨between, found, still, same⟩ := first.kept handle wrapper present running
    obtain ⟨later, isLater, running, alike⟩ := second.kept handle between found still
    exact ⟨later, isLater, running, alike.trans same⟩

/-- Whatever leaves the wrappers alone keeps all loans. -/
theorem of_same (loans : Loans start world) (same : after.wrappers = world.wrappers) :
    Loans start after where
  toExclusive := loans.toExclusive.of_same same
  kept handle wrapper present running := by
    rw [same]
    exact loans.kept handle wrapper present running

/-- A wrapper may change in everything but its run state and the parts that are lent out. -/
theorem replace {wrapper replacement : Wrapper σ ν} (loans : Loans start world)
    (present : world.wrappers.get? handle = some wrapper)
    (sameState : replacement.state = wrapper.state)
    (sameLoan : lentParts replacement.engine = lentParts wrapper.engine) :
    Loans start (world.place handle replacement) where
  toExclusive := by
    apply loans.toExclusive.place
    · rw [sameLoan]
      exact loans.single handle wrapper present
    · rw [sameState, sameLoan]
      exact loans.resting handle wrapper present
  kept other earlier was running := by
    obtain ⟨later, found, still, same⟩ := loans.kept other earlier was running
    by_cases isHandle : other = handle
    · subst isHandle
      obtain rfl : later = wrapper := Option.some.inj (found.symm.trans present)
      exact ⟨replacement, by simp, sameState.trans still, sameLoan.trans same⟩
    · exact ⟨later, by simpa [isHandle] using found, still, same⟩

/-- A wrapper that was not inside a run at the start is nobody else's concern. -/
theorem occupy {wrapper : Wrapper σ ν} (loans : Loans start world)
    (free : ∀ wrapper, start.wrappers.get? handle = some wrapper → wrapper.state ≠ .running)
    (single : (lentParts wrapper.engine).length ≤ 1)
    (resting : wrapper.state ≠ .running → lentParts wrapper.engine = []) :
    Loans start (world.place handle wrapper) where
  toExclusive := loans.toExclusive.place single resting
  kept other earlier was running := by
    obtain ⟨later, found, still, same⟩ := loans.kept other earlier was running
    have different : other ≠ handle := by
      rintro rfl
      exact free earlier was running
    exact ⟨later, by simpa [different] using found, still, same⟩

end Loans

namespace Serving

/-- While loans are kept, the engine at work stays free to lend. -/
theorem later (serving : Serving start handle lent world) (loans : Loans world after) :
    Serving start handle lent after where
  toLoans := serving.toLoans.trans loans
  free := serving.free
  serving := by
    obtain ⟨wrapper, present, running, isLent⟩ := serving.serving
    obtain ⟨later, found, still, same⟩ := loans.kept handle wrapper present running
    exact ⟨later, found, still, same.trans isLent⟩

/-- The wrapper's engine may lend out other parts, one at most. -/
theorem lend {wrapper : Wrapper σ ν} {parts : List EnginePart}
    (serving : Serving start handle lent world) (running : wrapper.state = .running)
    (isLent : lentParts wrapper.engine = parts) (single : parts.length ≤ 1) :
    Serving start handle parts (world.place handle wrapper) where
  toLoans := by
    apply serving.toLoans.occupy serving.free
    · rw [isLent]
      exact single
    · exact fun resting => absurd running resting
  free := serving.free
  serving := ⟨wrapper, by simp, running, isLent⟩

end Serving

/-! ### Computations that keep loans -/

/-- A stop that is not about a part that is lent out, in a world without double loans. A run may
still stop for any other reason. -/
def ExclusiveStop (stop : Stop) (after : World σ ν) : Prop :=
  (∀ part, stop ≠ .lentTwice part) ∧ after.Exclusive

/-- A handle that leads nowhere is not a part that is needed while it is lent out. -/
theorem ExclusiveStop.dangling (exclusive : world.Exclusive) (handle : Handle) :
    ExclusiveStop (.danglingHandle handle) world := by
  constructor
  · intro part same
    cases same
  · exact exclusive

/-- A computation that anybody may carry out at any time: it gives back what it borrows, and needs
no part that is lent out. -/
def Exec.Careful (computation : Exec σ ν α) : Prop :=
  ∀ world, world.Exclusive → computation.Ensures world (fun _ => Loans world) ExclusiveStop

/-- Actions are carried out with care. -/
def Performer.Careful (perform : Performer σ ν) : Prop :=
  ∀ surface handle action, (perform surface handle action).Careful

namespace Exec.Careful

/-- Answering at once keeps all loans. -/
theorem pure (answer : α) : (Pure.pure answer : Exec σ ν α).Careful :=
  fun _ exclusive => exclusive.loans

/-- So does stopping for any reason but the one in question. -/
theorem throw {stop : Stop} (harmless : ∀ part, stop ≠ .lentTwice part) :
    (MonadExcept.throw stop : Exec σ ν α).Careful :=
  fun _ exclusive => ⟨harmless, exclusive⟩

/-- Fatal conditions are other reasons. -/
theorem abort (reason : Fatal) : (Exec.abort reason : Exec σ ν α).Careful :=
  .throw nofun

/-- Careful computations one after the other keep the loans that both of them find. -/
theorem bind {computation : Exec σ ν α} {next : α → Exec σ ν β} (first : computation.Careful)
    (rest : ∀ answer, (next answer).Careful) : (computation >>= next).Careful := by
  intro world exclusive
  apply Ensures.bind (first world exclusive)
  intro answer middle before
  apply Ensures.mono (rest answer middle before.toExclusive)
  · intro _ after later
    exact before.trans later
  · intro _ _ stopped
    exact stopped

/-- What leaves the wrappers alone keeps their loans. -/
theorem of_same {computation : Exec σ ν α}
    (ensures : ∀ world, computation.Ensures world (fun _ after => after.wrappers = world.wrappers)
      fun _ _ => False) : computation.Careful := by
  intro world exclusive
  apply (ensures world).mono
  · intro _ after same
    exact exclusive.loans.of_same same
  · intro _ _ impossible
    exact impossible.elim

/-- Telling of an event keeps all loans. -/
theorem emit (event : Event ν) : (Exec.emit event : Exec σ ν Unit).Careful :=
  .of_same fun _ => rfl

theorem accessShared (update : Shared σ → Shared σ) :
    (Exec.accessShared update : Exec σ ν (Shared σ)).Careful :=
  .of_same fun _ => rfl

theorem loadWord (location : Location) : (Exec.loadWord location : Exec σ ν UInt32).Careful :=
  .of_same fun _ => rfl

theorem storeWord (location : Location) (word : UInt32) :
    (Exec.storeWord location word : Exec σ ν Unit).Careful :=
  .of_same fun _ => rfl

theorem setScript (operations : List EngineOperation) :
    (Exec.setScript operations : Exec σ ν Unit).Careful :=
  .of_same fun _ => rfl

theorem takeScript : (Exec.takeScript : Exec σ ν (List EngineOperation)).Careful :=
  .of_same fun _ => rfl

theorem get : (MonadState.get : Exec σ ν (World σ ν)).Careful :=
  .of_same fun _ => rfl

/-- Fetching a handle is careful, also if it ends everything. -/
theorem boundHandle (slot : HandleSlot) : (Exec.boundHandle slot : Exec σ ν Handle).Careful := by
  apply get.bind
  intro world
  split
  · exact .pure _
  · exact .throw nofun

/-- Looking up a wrapper is careful, also if there is none. -/
theorem wrapper (handle : Handle) : (Exec.wrapper handle : Exec σ ν (Wrapper σ ν)).Careful := by
  apply get.bind
  intro world
  split
  · exact .pure _
  · exact .throw nofun

theorem engine (handle : Handle) : (Exec.engine handle : Exec σ ν (Engine σ ν)).Careful :=
  .bind (.wrapper handle) fun _ => .pure _

/-- An engine may be changed by anybody in what is not lent out. This is all that actions do. -/
theorem modifyEngine {update : Engine σ ν → Engine σ ν}
    (keeps : ∀ engine, lentParts (update engine) = lentParts engine) (handle : Handle) :
    (Exec.modifyEngine handle update).Careful := by
  intro world exclusive
  rw [← bind_pure (Exec.modifyEngine handle update)]
  apply Ensures.modifyEngine_bind
  · intro found present
    exact exclusive.loans.replace present rfl (keeps found.engine)
  · intro absent
    exact .dangling exclusive handle

/-- Items that are gone through one after the other are careful together. -/
theorem forM {body : α → Exec σ ν Unit} (items : List α) (each : ∀ item, (body item).Careful) :
    (items.forM body).Careful := by
  induction items with
  | nil => exact .pure ()
  | cons item items ih => exact (each item).bind fun _ => ih

/-- The same where each item yields something. -/
theorem mapM {body : α → Exec σ ν β} (items : List α) (each : ∀ item, (body item).Careful) :
    (items.mapM body).Careful := by
  induction items with
  | nil => exact .pure []
  | cons item items ih =>
    rw [List.mapM_cons]
    exact (each item).bind fun _ => ih.bind fun _ => .pure _

end Exec.Careful

/-! ### What is called while a part is lent out -/

section

variable {perform : Performer σ ν}

/-- Caller code never needs a part itself. It may act on wrappers, so it keeps loans if actions
do. -/
theorem Activity.exec_careful (careful : perform.Careful) (body : Activity σ ν α) :
    (body.exec perform).Careful := by
  induction body with
  | finish answer => exact .pure answer
  | access update next ih => exact .bind (.accessShared update) ih
  | record note next ih => exact .bind (.emit _) fun _ => ih
  | perform surface target action next ih => exact .bind (careful surface target action) ih

/-- A deferred operation is caller code. -/
theorem Callback.run_careful (careful : perform.Careful)
    (callback : Callback (DeferredFunction σ ν)) (first second : UInt32) :
    (callback.run perform first second).Careful :=
  .bind (.emit _) fun _ => Activity.exec_careful careful _

/-- A request may fail for want of a handle, which is fatal, and else calls caller code. -/
theorem CallbackBridge.forward_careful (careful : perform.Careful) (bridge : CallbackBridge σ ν)
    (request : HostRequest) : (bridge.forward perform request).Careful := by
  apply Exec.Careful.bind (.emit _)
  intro _
  split
  · cases request <;> exact .pure _
  · exact .bind (.boundHandle bridge.slot) fun handle => .bind (.emit _) fun _ =>
      .bind (Activity.exec_careful careful _) fun _ => .bind (.emit _) fun _ => .pure _

/-- To fall back is fatal and nothing else. -/
theorem CallbackBridge.fallback_careful (bridge : CallbackBridge σ ν) (pc : UInt32)
    (instructions : UInt64) : (bridge.fallback pc instructions : Exec σ ν Unit).Careful :=
  .bind (.emit _) fun _ => .abort _

/-- A compile request calls caller code and then fetches the handle. -/
theorem CoprocessorBridge.compile_careful (careful : perform.Careful)
    (bridge : CoprocessorBridge σ ν) (request : CompileRequest) :
    (bridge.compile perform request).Careful := by
  rw [compile_eq]
  exact .bind (.emit _) fun _ => .bind (Activity.exec_careful careful _) fun _ =>
    .bind (.emit _) fun _ => .bind (.boundHandle bridge.slot) fun _ => .pure _

namespace Scripted

variable {configuration : EngineConfiguration σ ν}

/-- A scripted engine has no parts to lend, whatever it does. -/
theorem useAnswer_careful (careful : perform.Careful) (last : Last σ ν) (use : AnswerUse) :
    (useAnswer perform last use).Careful := by
  cases use with
  | call first second =>
    simp only [useAnswer]
    split
    · exact .bind (Callback.run_careful careful _ first second) fun _ => .pure _
    · exact .pure _
  | load =>
    simp only [useAnswer]
    split
    · exact .pure _
    · exact .bind (.mapM _ .loadWord) fun _ => .pure _
  | store first second =>
    simp only [useAnswer]
    split
    · exact .pure _
    · exact .bind (.forM _ fun item => .storeWord item.1 item.2) fun _ => .pure _

/-- The operations of a script are careful, each by itself. -/
theorem execute_careful (careful : perform.Careful) (last : Last σ ν)
    (operation : EngineOperation) : (execute perform configuration last operation).Careful := by
  cases operation with
  | request request =>
    exact .bind (configuration.callbacks.forward_careful careful request) fun _ => .pure _
  | fallback pc instructions =>
    exact .bind (configuration.callbacks.fallback_careful pc instructions) fun _ => .pure _
  | compile slot request =>
    simp only [execute]
    split
    · exact .bind (CoprocessorBridge.compile_careful careful _ request) fun _ => .pure _
    · exact .pure _
  | use use => exact .bind (useAnswer_careful careful last use) fun _ => .pure _

/-- So are those that are carried out while an engine is being constructed. -/
theorem probe_careful (careful : perform.Careful) (operations : List EngineOperation)
    (last : Last σ ν) : (probe perform configuration last operations).Careful := by
  induction operations generalizing last with
  | nil => exact .pure last
  | cons operation rest ih =>
    apply Exec.Careful.bind (execute_careful careful last operation)
    intro outcome
    exact .bind (.emit _) fun _ => ih outcome.2

/-- A scripted engine lends out nothing, whatever its last answer is. -/
theorem lentParts_setLastAnswer (last : Last σ ν) (engine : Engine σ ν) :
    lentParts (setLastAnswer last engine) = lentParts engine := by
  cases isMode : engine.mode <;> simp [lentParts, setLastAnswer, isMode]

/-- By induction on the script; what the engine keeps of an answer is no loan. -/
theorem runOperations_careful (careful : perform.Careful) (handle : Handle)
    (operations : List EngineOperation) : (runOperations perform handle operations).Careful := by
  induction operations with
  | nil => exact .pure ()
  | cons operation rest ih =>
    apply Exec.Careful.bind (.engine handle)
    intro engine
    split
    · apply Exec.Careful.modifyEngine
      exact fun _ => rfl
    · apply Exec.Careful.bind (execute_careful careful _ operation)
      intro outcome
      exact .bind (.modifyEngine (lentParts_setLastAnswer outcome.2) handle) fun _ =>
        .bind (.emit _) fun _ => ih

theorem run_careful (careful : perform.Careful) (handle : Handle) :
    (run perform handle).Careful :=
  .bind .takeScript fun operations => runOperations_careful careful handle operations

end Scripted

end

end RecompilerAdapter
