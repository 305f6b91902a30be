/-
Module: RecompilerAdapter.Proofs.Coherence
Purpose: The invariant of all worlds that a session reaches. What the adapter keeps, the handle slots, the
  wrappers with their states, and the answers that scripted engines keep, agrees with what its history
  tells, and the history is lawful.
Trusted boundary: none
Main exports: Registered, Remembers, Coherent
-/
import RecompilerAdapter.Proofs.Laws
import RecompilerAdapter.Proofs.Sessions

namespace RecompilerAdapter

variable {σ ν : Type} {before after world : World σ ν} {candidate : Option HandleSlot}

/-! ### The parts of the invariant -/

/-- Wrappers were put in place behind handles of their own, and their bridges share the slot that is
bound to the handle. -/
structure Registered (world : World σ ν) : Prop where
  own : ∀ handle wrapper, world.wrappers.get? handle = some wrapper →
    Attached world.history wrapper.engine.configuration.callbacks.slot handle wrapper.userData
  shared : ∀ handle wrapper, world.wrappers.get? handle = some wrapper →
    ∀ bridge, some bridge ∈ wrapper.engine.configuration.coprocessors →
      bridge.slot = wrapper.engine.configuration.callbacks.slot
  slots : ∀ bridge handle, world.slots.get? bridge = some handle ↔
    ∃ data, Attached world.history bridge handle data
  numbered : ∀ bridge handle data, Attached world.history bridge handle data →
    0 < handle.address ∧ handle.address ≤ world.built
  once : ∀ bridge other handle data otherData, Attached world.history bridge handle data →
    Attached world.history other handle otherData → bridge = other ∧ data = otherData

/-- The state of each wrapper is the one after the history, and the runs in the history are runs of
wrappers that were put in place and are still there. -/
structure Timed (world : World σ ν) : Prop where
  distinct : (openRuns world.history).Nodup
  live : ∀ handle ∈ openRuns world.history, ∃ wrapper, world.wrappers.get? handle = some wrapper
  states : ∀ handle wrapper, world.wrappers.get? handle = some wrapper →
    wrapper.state = stateAfter world.history handle
  begun : ∀ handle, everRun world.history handle = true → ∃ bridge data,
    Attached world.history bridge handle data

/-- The open lines are about the open runs: each line that tells of an engine at work names the
context of the wrapper in that run. -/
def Told (world : World σ ν) : Prop :=
  ∃ lines, openLines world.history = some lines ∧
    List.Forall₂ (fun handle data => ∃ bridge, Attached world.history bridge handle data)
      (openRuns world.history) lines

/-- A scripted engine keeps only what its coprocessors answered last. So what it calls later is
bound to its own handle and has the argument of that answer. -/
def Remembers (world : World σ ν) : Prop :=
  ∀ handle wrapper compiled callback, world.wrappers.get? handle = some wrapper →
    wrapper.engine.mode = .scripted (some compiled) →
    Scripted.callback? compiled = some callback →
    callback.handle = handle ∧
      lastAnswer wrapper.engine.configuration.callbacks.slot world.history =
        some (.deferred callback.userArgument)

/-- The invariant. `candidate` is the slot of an engine under construction that has called a compile
entry. -/
structure Coherent (candidate : Option HandleSlot) (world : World σ ν) : Prop
    extends Registered world, Timed world where
  told : Told world
  remembers : Remembers world
  lawful : EveryEvent (Lawful candidate) world.history
  settled : Settled world.history
  unattached : ∀ slot, candidate = some slot → world.slots.get? slot = none

/-! ### Who is at work -/

namespace Registered

variable {worker : Handle} {configuration : EngineConfiguration σ ν}

theorem isAttached (registered : Registered world) {bridge : HandleSlot} {handle : Handle}
    (isBound : world.slots.get? bridge = some handle) : IsAttached world.history bridge := by
  obtain ⟨data, attached⟩ := (registered.slots bridge handle).1 isBound
  exact ⟨handle, data, attached⟩

/-- The bridge of the wrapper at work is bound to its handle. -/
theorem bound (registered : Registered world) (work : AtWork world worker configuration) :
    world.slots.get? configuration.callbacks.slot = some worker := by
  obtain ⟨wrapper, present, rfl⟩ := work.employed
  exact (registered.slots _ worker).2 ⟨wrapper.userData, registered.own worker wrapper present⟩

theorem sameSlot (registered : Registered world) (work : AtWork world worker configuration)
    {bridge : CoprocessorBridge σ ν} (employed : some bridge ∈ configuration.coprocessors) :
    bridge.slot = configuration.callbacks.slot := by
  obtain ⟨wrapper, present, rfl⟩ := work.employed
  exact registered.shared worker wrapper present bridge employed

theorem frame (registered : Registered before) (steady : Steady before after)
    (attachments : ∀ bridge handle data, Attached after.history bridge handle data ↔
      Attached before.history bridge handle data) : Registered after where
  own handle wrapper present := by
    -- What is fixed in a wrapper was fixed before: no move that is framed here builds one.
    obtain ⟨earlier, found, same⟩ := steady.findBefore present
    have sameData : wrapper.userData = earlier.userData := congrArg (·.1) same
    have sameConfiguration : wrapper.engine.configuration = earlier.engine.configuration :=
      congrArg (·.2.1) same
    rw [attachments, sameData, sameConfiguration]
    exact registered.own handle earlier found
  shared handle wrapper present := by
    obtain ⟨earlier, found, same⟩ := steady.findBefore present
    have sameConfiguration : wrapper.engine.configuration = earlier.engine.configuration :=
      congrArg (·.2.1) same
    rw [sameConfiguration]
    exact registered.shared handle earlier found
  slots bridge handle := by
    rw [steady.slots, registered.slots]
    simp only [attachments]
  numbered bridge handle data attached := by
    rw [steady.built]
    exact registered.numbered bridge handle data ((attachments _ _ _).1 attached)
  once bridge other handle data otherData attached otherAttached :=
    registered.once bridge other handle data otherData ((attachments _ _ _).1 attached)
      ((attachments _ _ _).1 otherAttached)

end Registered

theorem Timed.frame (timed : Timed before) (steady : Steady before after)
    (runs : openRuns after.history = openRuns before.history)
    (begun : ∀ handle, everRun after.history handle = everRun before.history handle)
    (states : ∀ handle later, after.wrappers.get? handle = some later →
      ∃ wrapper, before.wrappers.get? handle = some wrapper ∧ later.state = wrapper.state)
    (attachments : ∀ bridge handle data, Attached after.history bridge handle data ↔
      Attached before.history bridge handle data) : Timed after where
  distinct := by
    rw [runs]
    exact timed.distinct
  live handle isOpen := by
    rw [runs] at isOpen
    obtain ⟨wrapper, present⟩ := timed.live handle isOpen
    obtain ⟨later, found, -⟩ := steady.find present
    exact ⟨later, found⟩
  states handle later found := by
    obtain ⟨wrapper, present, same⟩ := states handle later found
    rw [same, timed.states handle wrapper present]
    unfold stateAfter
    rw [runs, begun]
  begun handle ever := by
    rw [begun] at ever
    simp only [attachments]
    exact timed.begun handle ever

end RecompilerAdapter
