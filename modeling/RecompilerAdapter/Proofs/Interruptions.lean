/-
Module: RecompilerAdapter.Proofs.Interruptions
Purpose: Interrupted and uninterrupted engines side by side. In one world an engine is stopped and
  resumed, in another one its counterpart runs through. The hosts and coprocessors of both answer alike,
  as long as nobody looks at ticks, halt requests and run states; so the two engines execute every
  instruction alike, and what an engine does about ticks is nothing to the guest.
Trusted boundary: none
Main exports: Counterparts, Counterparts.SameGuest, Counterparts.Silent, Counterparts.Indifferent,
  Counterparts.Matches, Counterparts.agree_perform
-/
import RecompilerAdapter.Proofs.MirroredEngines
import RecompilerAdapter.Proofs.RunlessBodies

namespace RecompilerAdapter

variable {σ ν ω α β : Type}

/-- An engine that is interrupted and its counterpart that is not, behind the same handle. The two
hosts may differ in all that is outside of `view`, and in how they count ticks. -/
structure Counterparts (σ ν ω : Type) where
  handle : Handle
  /-- The slot that all bridges of both engines hold. -/
  slot : HandleSlot
  interrupted : EngineConfiguration σ ν
  uninterrupted : EngineConfiguration σ ν
  /-- What the states of both hosts have in common: the guest's memory, and whatever else answers
  depend on. -/
  view : σ → ω
  /-- Whether the host of the counterpart has this number of ticks left. -/
  quota : Nat → σ → Prop

namespace Counterparts

/-! ### Worlds -/

section

variable (pair : Counterparts σ ν ω)

/-- To the guest, a wrapper and that of the counterpart are the same. Run states are not compared,
nor is a halt request to the first one; none is pending at the second one. -/
structure SameWrapper (wrapper copy : Wrapper σ ν) : Prop where
  configuration : wrapper.engine.configuration = pair.interrupted
  counterpart : copy.engine.configuration = pair.uninterrupted
  userData : wrapper.userData = copy.userData
  registers : wrapper.engine.registers = copy.engine.registers
  extensionRegisters : wrapper.engine.extensionRegisters = copy.engine.extensionRegisters
  programStatus : wrapper.engine.programStatus = copy.engine.programStatus
  floatingPointStatus : wrapper.engine.floatingPointStatus = copy.engine.floatingPointStatus
  unhalted : copy.engine.haltRequested = false

/-- The states on the hosts' sides are the same to the guest, and `left` ticks are left to the
counterpart. -/
structure SameShared (left : Nat) (shared other : Shared σ) : Prop where
  words : shared.words = other.words
  view : pair.view shared.own = pair.view other.own
  quota : pair.quota left other.own

/-- All but the two wrappers is the same to the guest. -/
structure SameSurroundings (left : Nat) (world other : World σ ν) : Prop where
  bound : world.slots.get? pair.slot = some pair.handle
  boundToo : other.slots.get? pair.slot = some pair.handle
  shared : pair.SameShared left world.shared other.shared
  bystanders : ∀ bystander, bystander ≠ pair.handle →
    world.wrappers.get? bystander = other.wrappers.get? bystander

/-- Two worlds are the same to the guest, and `left` ticks are left to the counterpart. This is the
relation that every step of both engines restores. -/
structure SameGuest (left : Nat) (world other : World σ ν) : Prop
    extends pair.SameSurroundings left world other where
  wrappers : ∃ wrapper copy, world.wrappers.get? pair.handle = some wrapper ∧
    other.wrappers.get? pair.handle = some copy ∧ pair.SameWrapper wrapper copy

/-! ### Hosts and coprocessors -/

/-- Two bodies start no runs, and from worlds that are the same to the guest they end alike, in such
worlds again. -/
structure BodiesAlike (agree : α → β → Prop) (body : Activity σ ν α) (other : Activity σ ν β) :
    Prop where
  runless : body.Runless
  runlessToo : other.Runless
  alike : ∀ left, Exec.Corresponds (fun _ _ => True) (pair.SameGuest left) (pair.SameGuest left)
    agree (body.exec (perform 1)) (other.exec (perform 1))

/-- A body starts no runs, and the guest does not notice it. It may change the quota of the
interrupted engine and request halts of it. -/
structure Silent (body : Activity σ ν α) : Prop where
  runless : body.Runless
  unnoticed : ∀ left world other, pair.SameGuest left world other →
    (body.exec (perform 1)).Ensures world (fun _ after => pair.SameGuest left after other)
      fun _ _ => True

/-- A body of the counterpart's host starts no runs and completes, and the guest does not notice it.
It has to complete, because the counterpart has to get through. -/
structure Accounts (before after : Nat) (answers : α → Prop) (body : Activity σ ν α) : Prop where
  runless : body.Runless
  completes : ∀ world other, pair.SameGuest before world other →
    (body.exec (perform 1)).Ensures other
      (fun answer later => answers answer ∧ pair.SameGuest after world later) fun _ _ => False

/-- Two deferred operations do alike. -/
structure CallbacksAlike (callback other : Callback (DeferredFunction σ ν)) : Prop where
  handle : callback.handle = other.handle
  userArgument : callback.userArgument = other.userArgument
  bodies : ∀ first second, pair.BodiesAlike (· = ·) (callback.call first second)
    (other.call first second)

/-- Two compile answers say the same, and their deferred operations do alike. -/
structure AnswersAlike (answer other : WireCompiled (DeferredFunction σ ν)) : Prop where
  report : answer.report = other.report
  compiled : Stepping.CompiledAlike pair.CallbacksAlike (answer.decode pair.handle)
    (other.decode pair.handle)

/-- Two coprocessors answer every compile request alike. -/
structure BridgesAlike (bridge other : CoprocessorBridge σ ν) : Prop where
  slot : bridge.slot = pair.slot
  slotToo : other.slot = pair.slot
  index : bridge.index = other.index
  context : bridge.table.context = other.table.context
  answers : ∀ request, pair.BodiesAlike pair.AnswersAlike (bridge.table.answer request)
    (other.table.answer request)

/-- What hosts and coprocessors answer does not depend on ticks, halt requests and run states, and
nobody starts runs. The host of the interrupted engine may do about ticks what it likes, the host of
the counterpart counts them. The callbacks of the interrupted engine may request halts of it
wherever they are called, which those of the counterpart never do. -/
structure Indifferent : Prop where
  slot : pair.interrupted.callbacks.slot = pair.slot
  slotToo : pair.uninterrupted.callbacks.slot = pair.slot
  pages : ∀ own other, pair.view own = pair.view other → ∀ address,
    (pair.interrupted.pageTable.bind fun table => table.fetch? own address) =
      pair.uninterrupted.pageTable.bind fun table => table.fetch? other address
  read : ∀ address, pair.BodiesAlike (· = ·)
    (pair.interrupted.callbacks.table.read32 pair.handle address)
    (pair.uninterrupted.callbacks.table.read32 pair.handle address)
  supervisorCall : ∀ number, pair.BodiesAlike (· = ·)
    (pair.interrupted.callbacks.table.supervisorCall pair.handle number)
    (pair.uninterrupted.callbacks.table.supervisorCall pair.handle number)
  exceptionRaised : ∀ address condition, pair.BodiesAlike (· = ·)
    (pair.interrupted.callbacks.table.exceptionRaised pair.handle address condition)
    (pair.uninterrupted.callbacks.table.exceptionRaised pair.handle address condition)
  coprocessors : ∀ slot : Fin 16, Option.Rel pair.BridgesAlike
    pair.interrupted.coprocessors[slot] pair.uninterrupted.coprocessors[slot]
  ticksRemaining : pair.Silent (pair.interrupted.callbacks.table.ticksRemaining pair.handle)
  addTicks : ∀ ticks, pair.Silent (pair.interrupted.callbacks.table.addTicks pair.handle ticks)
  tells : ∀ left, pair.Accounts left left (fun answer => answer.toNat = left)
    (pair.uninterrupted.callbacks.table.ticksRemaining pair.handle)
  counts : ∀ left ticks, pair.Accounts (left + ticks.toNat) left (fun _ => True)
    (pair.uninterrupted.callbacks.table.addTicks pair.handle ticks)

end

variable {pair : Counterparts σ ν ω} {left : Nat} {world after other later : World σ ν}

namespace SameSurroundings

variable (same : pair.SameSurroundings left world other)

include same

/-- Surroundings do not include the wrapper itself, so it may be changed on one side. -/
theorem place_world (wrapper : Wrapper σ ν) :
    pair.SameSurroundings left (world.place pair.handle wrapper) other := by
  refine { same with bystanders := fun bystander different => ?_ }
  rw [World.get?_place, if_neg different]
  exact same.bystanders bystander different

/-- So it may on the other side. -/
theorem place_other (copy : Wrapper σ ν) :
    pair.SameSurroundings left world (other.place pair.handle copy) := by
  refine { same with bystanders := fun bystander different => ?_ }
  rw [World.get?_place, if_neg different]
  exact same.bystanders bystander different

end SameSurroundings

namespace SameGuest

variable (same : pair.SameGuest left world other)

include same

/-- What is told on one side is no part of what is compared. -/
theorem record_world (event : Event ν) : pair.SameGuest left (world.record event) other :=
  ⟨⟨same.bound, same.boundToo, same.shared, same.bystanders⟩, same.wrappers⟩

/-- So it is on the other side. -/
theorem record_other (event : Event ν) : pair.SameGuest left world (other.record event) :=
  ⟨⟨same.bound, same.boundToo, same.shared, same.bystanders⟩, same.wrappers⟩

/-- Both wrappers may be exchanged for ones that are alike. -/
theorem place {wrapper copy : Wrapper σ ν} (wrappers : pair.SameWrapper wrapper copy) :
    pair.SameGuest left (world.place pair.handle wrapper) (other.place pair.handle copy) := by
  refine ⟨(same.toSameSurroundings.place_world wrapper).place_other copy, wrapper, copy, ?_, ?_,
    wrappers⟩
  · rw [World.get?_place, if_pos rfl]
  · rw [World.get?_place, if_pos rfl]

/-- One side may exchange its wrapper. -/
theorem place_world {wrapper copy : Wrapper σ ν}
    (presentToo : other.wrappers.get? pair.handle = some copy)
    (wrappers : pair.SameWrapper wrapper copy) :
    pair.SameGuest left (world.place pair.handle wrapper) other := by
  refine ⟨same.toSameSurroundings.place_world wrapper, wrapper, copy, ?_, presentToo, wrappers⟩
  rw [World.get?_place, if_pos rfl]

/-- So may the other one. -/
theorem place_other {wrapper copy : Wrapper σ ν}
    (present : world.wrappers.get? pair.handle = some wrapper)
    (wrappers : pair.SameWrapper wrapper copy) :
    pair.SameGuest left world (other.place pair.handle copy) := by
  refine ⟨same.toSameSurroundings.place_other copy, wrapper, copy, present, ?_, wrappers⟩
  rw [World.get?_place, if_pos rfl]

/-- The state on the hosts' side may change. -/
theorem share {shared sharedToo : Shared σ} {remaining : Nat}
    (shares : pair.SameShared remaining shared sharedToo) :
    pair.SameGuest remaining { world with shared := shared } { other with shared := sharedToo } :=
  ⟨⟨same.bound, same.boundToo, shares, same.bystanders⟩, same.wrappers⟩

/-- A halt of the interrupted engine may be requested at any time. -/
theorem halt (bound : Nat) (surface : Surface) :
    ∃ after, perform (bound + 1) surface pair.handle .halt world = .ok .done after ∧
      pair.SameGuest left after other := by
  obtain ⟨wrapper, copy, present, presentToo, wrappers⟩ := same.wrappers
  have requested : pair.SameWrapper { wrapper with
    engine := { wrapper.engine with haltRequested := true } } copy := { wrappers with }
  exact ⟨_, perform_adjust rfl present bound surface,
    ((same.record_world _).place_world presentToo requested).record_world _⟩

end SameGuest

/-! ### Bodies that are alike -/

/-- What two wrappers behind the same handle have in common: to the guest they are the same, and if
they are not the compared ones, they are equal. -/
def AlikeAt (pair : Counterparts σ ν ω) (target : Handle) (wrapper copy : Wrapper σ ν) : Prop :=
  target = pair.handle ∧ pair.SameWrapper wrapper copy ∨ target ≠ pair.handle ∧ wrapper = copy

/-- Behind each handle there is the same on both sides, up to what is said of the wrapper itself. -/
theorem SameGuest.alikeAt (same : pair.SameGuest left world other) (target : Handle) :
    Option.Rel (pair.AlikeAt target) (world.wrappers.get? target) (other.wrappers.get? target) := by
  by_cases compared : target = pair.handle
  · obtain ⟨wrapper, copy, present, presentToo, wrappers⟩ := same.wrappers
    rw [compared, present, presentToo]
    exact .some (.inl ⟨rfl, wrappers⟩)
  · rw [same.bystanders target compared]
    cases other.wrappers.get? target with
    | none => exact .none
    | some bystander => exact .some (.inr ⟨compared, rfl⟩)

/-- A wrapper behind any handle may be exchanged on both sides. -/
theorem SameGuest.place_alikeAt (same : pair.SameGuest left world other) {target : Handle}
    {wrapper copy : Wrapper σ ν} (alike : pair.AlikeAt target wrapper copy) :
    pair.SameGuest left (world.place target wrapper) (other.place target copy) := by
  rcases alike with ⟨rfl, wrappers⟩ | ⟨different, rfl⟩
  · exact same.place wrappers
  · obtain ⟨found, copy, present, presentToo, wrappers⟩ := same.wrappers
    refine ⟨⟨same.bound, same.boundToo, same.shared, fun bystander apart => ?_⟩, found, copy, ?_, ?_,
      wrappers⟩
    · rw [World.get?_place, World.get?_place, same.bystanders bystander apart]
    · rw [World.get?_place, if_neg different.symm, present]
    · rw [World.get?_place, if_neg different.symm, presentToo]

/-- From worlds that are the same to the guest, two computations end alike. -/
abbrev Agree (pair : Counterparts σ ν ω) (left : Nat) (agree : α → β → Prop)
    (computation : Exec σ ν α) (counterpart : Exec σ ν β) : Prop :=
  Exec.Corresponds (fun _ _ => True) (pair.SameGuest left) (pair.SameGuest left) agree computation
    counterpart

/-- The same event may be told on both sides. -/
theorem agree_emit (event : Event ν) :
    pair.Agree left (· = ·) (Exec.emit event) (Exec.emit event) :=
  Exec.Corresponds.emit fun _ _ same => (same.record_world event).record_other event

/-- Looking up a wrapper finds the same on both sides, or wrappers that are alike. -/
theorem agree_wrapper (target : Handle) :
    pair.Agree left (pair.AlikeAt target) (Exec.wrapper target) (Exec.wrapper target) :=
  .wrapper target (fun _ _ same => same.alikeAt target) fun _ _ _ => trivial

end Counterparts

/-- Whether an action is about runs: it runs a wrapper, requests a halt, or looks at the run state.
In these the two sides may differ for the compared wrapper. -/
def Action.isAboutRuns : Action → Bool
  | run _ => true
  | halt => true
  | state => true
  | describe => true
  | _ => false

namespace Counterparts

variable {pair : Counterparts σ ν ω} {left : Nat} {world after other later : World σ ν}

/-- Both sides see the same of a wrapper. Of the engine that was interrupted on one side only, its
run state and its requests to halt must not be looked at. -/
theorem AlikeAt.observation {target : Handle} {wrapper copy : Wrapper σ ν} {action : Action}
    {view : Wrapper σ ν → Reply} (alike : pair.AlikeAt target wrapper copy)
    (observes : action.observation? = some view)
    (apart : target = pair.handle → action.isAboutRuns = false) : view wrapper = view copy := by
  rcases alike with ⟨compared, same⟩ | ⟨-, rfl⟩
  · have apart := apart compared
    cases action <;> cases observes <;> cases apart
    · exact congrArg Reply.userData same.userData
    · exact congrArg Reply.registers same.registers
    · exact congrArg Reply.extensionRegisters same.extensionRegisters
    · exact congrArg Reply.word same.programStatus
    · exact congrArg Reply.word same.floatingPointStatus
  · rfl

/-- Both sides may change a wrapper in the same way. -/
theorem AlikeAt.adjustment {target : Handle} {wrapper copy : Wrapper σ ν} {action : Action}
    {update : Engine σ ν → Engine σ ν} (alike : pair.AlikeAt target wrapper copy)
    (adjusts : action.adjustment? = some update)
    (apart : target = pair.handle → action.isAboutRuns = false) :
    pair.AlikeAt target { wrapper with engine := update wrapper.engine }
      { copy with engine := update copy.engine } := by
  rcases alike with ⟨compared, same⟩ | ⟨different, rfl⟩
  · have apart := apart compared
    refine .inl ⟨compared, ?_⟩
    cases action <;> cases adjusts <;> cases apart
    · exact { same with registers := congrArg (Vector.set · _ _) same.registers }
    · exact { same with
        extensionRegisters := congrArg (Vector.set · _ _) same.extensionRegisters }
    · exact { same with programStatus := rfl }
    · exact { same with floatingPointStatus := rfl }
  · exact .inr ⟨different, rfl⟩

/-- The same action on both sides, if it is about runs of other wrappers at most. The two wrappers
that are compared differ in their runs and halts, so these may not be looked at. -/
theorem agree_perform {action : Action} (surface : Surface) {target : Handle}
    (noRun : ∀ script, action ≠ .run script)
    (apart : target = pair.handle → action.isAboutRuns = false) :
    pair.Agree left (· = ·) (perform 1 surface target action) (perform 1 surface target action) := by
  rw [perform_succ]
  apply (agree_emit _).bind_same
  intro _
  -- What the action does is looked at apart from the events around it, which are the same on both
  -- sides.
  have performs : pair.Agree left (· = ·)
      (Wrapper.performWith (perform 0) 0 surface target action)
      (Wrapper.performWith (perform 0) 0 surface target action) := by
    cases action using Action.byKind σ ν with
    | run script => exact absurd rfl (noRun script)
    | adjust action update adjusts =>
      rw [Wrapper.performWith_adjustment adjusts, Exec.modifyEngine, Exec.modifyWrapper, bind_assoc]
      apply (agree_wrapper target).bind
      intro wrapper copy alike world other same
      exact ⟨rfl, same.place_alikeAt (alike.adjustment adjusts apart)⟩
    | observe action view observes =>
      rw [Wrapper.performWith_observation observes]
      apply (agree_wrapper target).bind
      intro wrapper copy alike
      exact .pure (alike.observation observes apart)
    | arrange number => exact .throw fun _ _ _ => trivial
  apply performs.bind_same
  intro reply
  exact (agree_emit _).bind_same fun _ => .pure rfl

/-- Two bodies do the same, except that the first one may request halts of the interrupted engine:
they change what is shared in ways that are the same to the guest, and of the compared wrappers'
runs, halts and run states they take no notice. -/
inductive Matches (pair : Counterparts σ ν ω) (agree : α → β → Prop) :
    Activity σ ν α → Activity σ ν β → Prop where
  | finish {answer : α} {other : β} (agrees : agree answer other) :
      Matches pair agree (.finish answer) (.finish other)
  | access {update change : Shared σ → Shared σ} {next : Shared σ → Activity σ ν α}
      {onward : Shared σ → Activity σ ν β}
      (changes : ∀ left shared other, pair.SameShared left shared other →
        pair.SameShared left (update shared) (change other))
      (rest : ∀ left shared other, pair.SameShared left shared other →
        Matches pair agree (next shared) (onward other)) :
      Matches pair agree (.access update next) (.access change onward)
  | record {note : ν} {next : Activity σ ν α} {onward : Activity σ ν β}
      (rest : Matches pair agree next onward) :
      Matches pair agree (.record note next) (.record note onward)
  | perform {surface : Surface} {target : Handle} {action : Action} {next : Reply → Activity σ ν α}
      {onward : Reply → Activity σ ν β} (noRun : ∀ script, action ≠ .run script)
      (apart : target = pair.handle → action.isAboutRuns = false)
      (rest : ∀ reply, Matches pair agree (next reply) (onward reply)) :
      Matches pair agree (.perform surface target action next) (.perform surface target action onward)
  | halt {surface : Surface} {next : Reply → Activity σ ν α} {onward : Activity σ ν β}
      (rest : Matches pair agree (next .done) onward) :
      Matches pair agree (.perform surface pair.handle .halt next) onward

/-- Bodies that match and start no runs are alike, under every bound. -/
theorem Matches.alike {agree : α → β → Prop} {body : Activity σ ν α} {other : Activity σ ν β}
    (alike : pair.Matches agree body other) (runless : body.Runless) (runlessToo : other.Runless) :
    pair.BodiesAlike agree body other := by
  refine ⟨runless, runlessToo, fun left => ?_⟩
  clear runless runlessToo
  induction alike with
  | finish agrees => exact .pure agrees
  | access changes rest ih =>
    have accesses : pair.Agree left (pair.SameShared left) (Exec.accessShared _)
        (Exec.accessShared _) :=
      fun world other same => ⟨same.shared, same.share (changes left _ _ same.shared)⟩
    exact accesses.bind (ih left)
  | record rest ih => exact (agree_emit _).bind_same fun _ => ih
  | perform noRun apart rest ih => exact (agree_perform _ noRun apart).bind_same ih
  | @halt surface next onward rest ih =>
    intro world other same
    obtain ⟨after, requests, same⟩ := same.halt 0 surface
    rw [Activity.exec, Exec.bind_of_ok requests]
    exact ih after other same

end Counterparts

end RecompilerAdapter
