/-
Module: RecompilerAdapter.Proofs.InterruptedEngines
Purpose: Interrupted and uninterrupted engines at work. As the hosts and coprocessors of both answer
  alike, the two engines execute every instruction alike, and both guests go through the same events.
Trusted boundary: none
Main exports: Counterparts.Level, Counterparts.Keeps, Counterparts.Indifferent.step
-/
import RecompilerAdapter.Proofs.Interruptions

namespace RecompilerAdapter

variable {σ ν ω α β : Type}

namespace Counterparts

variable {pair : Counterparts σ ν ω} {left : Nat} {world after other later : World σ ν}

/-! ### Worlds with engines at work -/

/-- Two worlds are the same to the guest, parts of both engines are lent out, and since two other
worlds the guests have been through the same: `done` words have been fetched. -/
structure Level (pair : Counterparts σ ν ω) (start begin : World σ ν) (left done : Nat)
    (lent lentToo : List EnginePart) (world other : World σ ν) : Prop
    extends pair.SameGuest left world other where
  mode : world.mode? pair.handle = some (.stepping lent)
  modeToo : other.mode? pair.handle = some (.stepping lentToo)
  events : ∃ events, guestEvents world.history = guestEvents start.history ++ events ∧
    guestEvents other.history = guestEvents begin.history ++ events
  fetched : fetches world.history = fetches start.history + done

variable {start begin : World σ ν} {done : Nat} {lent lentToo : List EnginePart}

namespace Level

/-- Both engines are in place, alike, and each has lent out what is said of it. -/
theorem wrapper (level : pair.Level start begin left done lent lentToo world other) :
    ∃ wrapper copy, world.wrappers.get? pair.handle = some wrapper ∧
      other.wrappers.get? pair.handle = some copy ∧ pair.SameWrapper wrapper copy ∧
      wrapper.engine.mode = .stepping lent ∧ copy.engine.mode = .stepping lentToo := by
  obtain ⟨wrapper, copy, present, presentToo, same⟩ := level.wrappers
  have mode := level.mode
  have modeToo := level.modeToo
  rw [World.mode?, present] at mode
  rw [World.mode?, presentToo] at modeToo
  exact ⟨wrapper, copy, present, presentToo, same, Option.some.inj mode, Option.some.inj modeToo⟩

/-- What a guest does not take part in may happen in both worlds. -/
theorem advance {remaining : Nat} (level : pair.Level start begin left done lent lentToo world other)
    (same : pair.SameGuest remaining after later) (undisturbed : Undisturbed world after)
    (undisturbedToo : Undisturbed other later) :
    pair.Level start begin remaining done lent lentToo after later where
  toSameGuest := same
  mode := (undisturbed.modes pair.handle).trans level.mode
  modeToo := (undisturbedToo.modes pair.handle).trans level.modeToo
  events := by
    rw [undisturbed.guest, undisturbedToo.guest]
    exact level.events
  fetched := undisturbed.fetches_eq.trans level.fetched

/-- An event that is none of the guest's may be told on one side only. -/
theorem record_world (level : pair.Level start begin left done lent lentToo world other)
    {event : Event ν} (hidden : event.ofGuest = false) :
    pair.Level start begin left done lent lentToo (world.record event) other :=
  level.advance (level.toSameGuest.record_world event) (.record hidden) (.refl other)

/-- So it is on the other side. -/
theorem record_other (level : pair.Level start begin left done lent lentToo world other)
    {event : Event ν} (hidden : event.ofGuest = false) :
    pair.Level start begin left done lent lentToo world (other.record event) :=
  level.advance (level.toSameGuest.record_other event) (.refl world) (.record hidden)

/-- Both guests may go through the same. -/
theorem record (level : pair.Level start begin left done lent lentToo world other) (event : Event ν) :
    pair.Level start begin left (done + fetches [event]) lent lentToo
      (world.record event) (other.record event) where
  toSameGuest := (level.toSameGuest.record_world event).record_other event
  mode := level.mode
  modeToo := level.modeToo
  events := by
    obtain ⟨events, isWorld, isOther⟩ := level.events
    refine ⟨events ++ guestEvents [event], ?_, ?_⟩
    · rw [World.history_record, guestEvents_append, isWorld, List.append_assoc]
    · rw [World.history_record, guestEvents_append, isOther, List.append_assoc]
  fetched := by rw [World.history_record, fetches_append, level.fetched, Nat.add_assoc]

/-- Both sides may go on with shared states that the guest cannot tell apart. -/
theorem share {shared sharedToo : Shared σ} {remaining : Nat}
    (level : pair.Level start begin left done lent lentToo world other)
    (shares : pair.SameShared remaining shared sharedToo) :
    pair.Level start begin remaining done lent lentToo { world with shared := shared }
      { other with shared := sharedToo } where
  toSameGuest := level.toSameGuest.share shares
  mode := level.mode
  modeToo := level.modeToo
  events := level.events
  fetched := level.fetched

/-- Both wrappers may be exchanged for ones that are alike. -/
theorem place {wrapper copy : Wrapper σ ν} {lends lendsToo : List EnginePart}
    (level : pair.Level start begin left done lent lentToo world other)
    (wrappers : pair.SameWrapper wrapper copy) (mode : wrapper.engine.mode = .stepping lends)
    (modeToo : copy.engine.mode = .stepping lendsToo) :
    pair.Level start begin left done lends lendsToo (world.place pair.handle wrapper)
      (other.place pair.handle copy) where
  toSameGuest := level.toSameGuest.place wrappers
  mode := by rw [World.mode?_place, if_pos rfl, mode]
  modeToo := by rw [World.mode?_place, if_pos rfl, modeToo]
  events := level.events
  fetched := level.fetched

/-- One side may exchange its wrapper for one that is still like the other's. -/
theorem place_world {wrapper copy : Wrapper σ ν} {lends : List EnginePart}
    (level : pair.Level start begin left done lent lentToo world other)
    (presentToo : other.wrappers.get? pair.handle = some copy)
    (wrappers : pair.SameWrapper wrapper copy) (mode : wrapper.engine.mode = .stepping lends) :
    pair.Level start begin left done lends lentToo (world.place pair.handle wrapper) other where
  toSameGuest := level.toSameGuest.place_world presentToo wrappers
  mode := by rw [World.mode?_place, if_pos rfl, mode]
  modeToo := level.modeToo
  events := level.events
  fetched := level.fetched

/-- So may the other side. -/
theorem place_other {wrapper copy : Wrapper σ ν} {lends : List EnginePart}
    (level : pair.Level start begin left done lent lentToo world other)
    (present : world.wrappers.get? pair.handle = some wrapper)
    (wrappers : pair.SameWrapper wrapper copy) (modeToo : copy.engine.mode = .stepping lends) :
    pair.Level start begin left done lent lends world (other.place pair.handle copy) where
  toSameGuest := level.toSameGuest.place_other present wrappers
  mode := level.mode
  modeToo := by rw [World.mode?_place, if_pos rfl, modeToo]
  events := level.events
  fetched := level.fetched

end Level

/-! ### What both engines do -/

/-- Computations that end alike for the guest. Nothing is said of stops: where the interrupted
engine stops for good, there is nothing to compare. -/
abbrev Keeps (pair : Counterparts σ ν ω) (start begin : World σ ν) (left done : Nat)
    (lent lentToo : List EnginePart) (agree : α → β → Prop) (computation : Exec σ ν α)
    (counterpart : Exec σ ν β) : Prop :=
  Exec.Corresponds (fun _ _ => True) (pair.Level start begin left done lent lentToo)
    (pair.Level start begin left done lent lentToo) agree computation counterpart

/-- Bodies that are alike leave both sides alike. They start no runs, so the bounds on both sides
may differ, and nothing that the guest takes part in is told by them. -/
theorem BodiesAlike.keeps {agree : α → β → Prop} {body : Activity σ ν α} {copy : Activity σ ν β}
    (alike : pair.BodiesAlike agree body copy) (bound otherBound : Nat) :
    pair.Keeps start begin left done lent lentToo agree
      (body.exec (perform (bound + 1))) (copy.exec (perform (otherBound + 1))) := by
  rw [alike.runless.exec_perform, alike.runlessToo.exec_perform]
  intro world other level
  have ends := alike.alike left world other level.toSameGuest
  rcases ends.cases with ⟨answer, after, reply, later, completes, completesToo, agrees, same⟩ |
    ⟨stop, after, later, stops, stopsToo, -⟩
  · rw [completes, completesToo]
    exact ⟨agrees, level.advance same ((alike.runless.undisturbing world).of_completed completes)
      ((alike.runlessToo.undisturbing other).of_completed completesToo)⟩
  · rw [stops, stopsToo]
    exact ⟨rfl, trivial⟩

/-- The same event may be told on both sides, unless it is a fetch, which is counted. -/
theorem keeps_emit {event : Event ν} (noFetch : event.isFetch = false) :
    pair.Keeps start begin left done lent lentToo (· = ·) (Exec.emit event) (Exec.emit event) := by
  apply Exec.Corresponds.emit
  intro world other level
  have none : fetches [event] = 0 := by simp [fetches, noFetch]
  have recorded := level.record event
  rwa [none, Nat.add_zero] at recorded

/-- Both bridges have the handle of the engine. -/
theorem keeps_boundHandle :
    pair.Keeps start begin left done lent lentToo
      (fun bound copy => bound = pair.handle ∧ copy = pair.handle)
      (Exec.boundHandle pair.slot) (Exec.boundHandle pair.slot) := by
  intro world other level
  rw [Exec.boundHandle_of_bound level.bound, Exec.boundHandle_of_bound level.boundToo]
  exact ⟨⟨rfl, rfl⟩, level⟩

/-- A request of the guest goes to entries that are alike. -/
theorem keeps_forward {request : HostRequest}
    {entry copy : Handle → Activity σ ν request.Answer} (bound otherBound : Nat)
    (indifferent : pair.Indifferent)
    (isEntry : pair.interrupted.callbacks.table.entry? request = some entry)
    (isCopy : pair.uninterrupted.callbacks.table.entry? request = some copy)
    (alike : pair.BodiesAlike (· = ·) (entry pair.handle) (copy pair.handle)) :
    pair.Keeps start begin left done lent lentToo (· = ·)
      (pair.interrupted.callbacks.forward (perform (bound + 1)) request)
      (pair.uninterrupted.callbacks.forward (perform (otherBound + 1)) request) := by
  unfold CallbackBridge.forward
  rw [isEntry, isCopy, indifferent.slot, indifferent.slotToo]
  dsimp only
  apply (keeps_emit rfl).bind_same
  intro _
  apply keeps_boundHandle.bind
  rintro _ _ ⟨rfl, rfl⟩
  apply (keeps_emit rfl).bind_same
  intro _
  apply (alike.keeps bound otherBound).bind_same
  intro answer
  exact (keeps_emit rfl).bind_same fun _ => .pure rfl

/-- Deferred operations that are alike leave both sides alike. -/
theorem keeps_run (bound otherBound : Nat) {callback copy : Callback (DeferredFunction σ ν)}
    (alike : pair.CallbacksAlike callback copy) (first second : UInt32) :
    pair.Keeps start begin left done lent lentToo (· = ·)
      (callback.run (perform (bound + 1)) first second)
      (copy.run (perform (otherBound + 1)) first second) := by
  unfold Callback.run
  rw [alike.handle, alike.userArgument]
  apply (keeps_emit rfl).bind_same
  intro _
  exact (alike.bodies first second).keeps bound otherBound

/-- Coprocessors that are alike answer alike. -/
theorem keeps_compile (bound otherBound : Nat)
    {bridge copy : CoprocessorBridge σ ν}
    (alike : pair.BridgesAlike bridge copy) (request : CompileRequest) :
    pair.Keeps start begin left done lent lentToo (Stepping.CompiledAlike pair.CallbacksAlike)
      (bridge.compile (perform (bound + 1)) request)
      (copy.compile (perform (otherBound + 1)) request) := by
  rw [CoprocessorBridge.compile_eq, CoprocessorBridge.compile_eq, CoprocessorBridge.consult,
    CoprocessorBridge.consult, alike.index, alike.context, alike.slot, alike.slotToo]
  apply (keeps_emit rfl).bind_same
  intro _
  apply ((alike.answers request).keeps bound otherBound).bind
  intro answer other answers
  rw [answers.report]
  apply (keeps_emit rfl).bind_same
  intro _
  apply keeps_boundHandle.bind
  rintro _ _ ⟨rfl, rfl⟩
  exact .pure answers.compiled

/-- What two engines have in common while they work alike. Their halt flags are left out, since only
one of them is ever halted. -/
structure SameEngine (pair : Counterparts σ ν ω) (engine copy : Engine σ ν) : Prop where
  configuration : engine.configuration = pair.interrupted
  counterpart : copy.configuration = pair.uninterrupted
  registers : engine.registers = copy.registers
  mode : engine.mode = copy.mode

/-- What an engine finds when it looks at itself is alike on both sides. -/
theorem keeps_engine :
    pair.Keeps start begin left done lent lent pair.SameEngine (Exec.engine pair.handle)
      (Exec.engine pair.handle) := by
  intro world other level
  obtain ⟨wrapper, copy, present, presentToo, same, mode, modeToo⟩ := level.wrapper
  rw [Exec.engine_of_present present, Exec.engine_of_present presentToo]
  exact ⟨⟨same.configuration, same.counterpart, same.registers, mode.trans modeToo.symm⟩, level⟩

/-- Changes of both engines that are the same to the guest. -/
theorem keeps_modifyEngine {update : Engine σ ν → Engine σ ν}
    (change : List EnginePart → List EnginePart)
    (keeps : ∀ wrapper copy, pair.SameWrapper wrapper copy →
      wrapper.engine.mode = .stepping lent → copy.engine.mode = .stepping lent →
      pair.SameWrapper { wrapper with engine := update wrapper.engine }
        { copy with engine := update copy.engine })
    (mode : ∀ engine : Engine σ ν, engine.mode = .stepping lent →
      (update engine).mode = .stepping (change lent)) :
    Exec.Corresponds (fun _ _ => True) (pair.Level start begin left done lent lent)
      (pair.Level start begin left done (change lent) (change lent)) (· = ·)
      (Exec.modifyEngine pair.handle update) (Exec.modifyEngine pair.handle update) := by
  intro world other level
  obtain ⟨wrapper, copy, present, presentToo, same, isMode, isModeToo⟩ := level.wrapper
  rw [Exec.modifyEngine_of_present present, Exec.modifyEngine_of_present presentToo]
  exact ⟨rfl, level.place (keeps wrapper copy same isMode isModeToo) (mode _ isMode)
    (mode _ isModeToo)⟩

/-- A register may be written on both sides. -/
theorem keeps_writeRegister (number : RegisterNumber) (value : UInt32) :
    pair.Keeps start begin left done lent lent (· = ·)
      (Stepping.writeRegister pair.handle number value)
      (Stepping.writeRegister pair.handle number value) := by
  apply keeps_modifyEngine id
  · intro wrapper copy same _ _
    refine { same with registers := ?_ }
    show wrapper.engine.registers.set number value = copy.engine.registers.set number value
    rw [same.registers]
  · exact fun _ mode => mode

/-- A part may be lent out on both sides, and taken back. -/
theorem keeps_lend (change : List EnginePart → List EnginePart) :
    Exec.Corresponds (fun _ _ => True) (pair.Level start begin left done lent lent)
      (pair.Level start begin left done (change lent) (change lent)) (· = ·)
      (Exec.modifyEngine pair.handle fun engine =>
        Stepping.setLentParts (change (Stepping.lentParts engine)) engine)
      (Exec.modifyEngine pair.handle fun engine =>
        Stepping.setLentParts (change (Stepping.lentParts engine)) engine) := by
  apply keeps_modifyEngine change
  · intro wrapper copy same mode modeToo
    simp only [Stepping.setLentParts, mode, modeToo]
    exact { same with }
  · intro engine mode
    simp only [Stepping.setLentParts, Stepping.lentParts, mode]

/-- Answers that are alike are used in the same way, by the general rules for two engines. -/
theorem Indifferent.uses (bound otherBound : Nat) :
    Stepping.UsesAlike (fun _ _ => True) (pair.Level start begin left done lent lent)
      (pair.Level start begin left done lent lent) (perform (bound + 1))
      (perform (otherBound + 1)) pair.handle pair.handle pair.CallbacksAlike fun _ => True where
  weaken _ _ := id
  run _ _ alike first second := keeps_run bound otherBound alike first second
  read number := by
    apply keeps_engine.bind
    intro engine copy same
    rw [same.registers]
    exact .pure rfl
  write := keeps_writeRegister
  load location _ := by
    intro world other level
    refine ⟨?_, level⟩
    rw [level.shared.words]
  store location _ word := by
    intro world other level
    have words : world.shared.words.store location word = other.shared.words.store location word := by
      rw [level.shared.words]
    exact ⟨rfl, level.share { level.shared with words := words }⟩

/-- The two engines execute alike, whatever the bounds on the nesting of runs are. What a step may
request is served alike by both hosts. -/
theorem Indifferent.mirrors (indifferent : pair.Indifferent) (bound otherBound : Nat) :
    Stepping.Mirrors (fun _ _ => True) (fun lent => pair.Level start begin left done lent lent)
      (perform (bound + 1)) (perform (otherBound + 1)) pair.handle pair.handle pair.SameEngine
      (fun _ => Stepping.CompiledAlike pair.CallbacksAlike) where
  stops _ _ _ _ := trivial
  engine _ := keeps_engine
  registers _ _ same := same.registers
  lent _ _ same := by rw [Stepping.lentParts, Stepping.lentParts, same.mode]
  paged _ world other level engine copy same address := by
    rw [Stepping.pagedWord, Stepping.pagedWord, same.configuration, same.counterpart]
    exact indifferent.pages _ _ level.shared.view address
  lend _ change := keeps_lend change
  advance _ next _ := keeps_writeRegister Stepping.pc next
  forward _ engine copy same request guest := by
    rw [same.configuration, same.counterpart]
    -- Only requests of the guest occur inside a step. Those about ticks, in which the two hosts
    -- differ, are made between steps.
    cases guest with
    | fetch address =>
      exact keeps_forward bound otherBound indifferent rfl rfl (indifferent.read address)
    | supervisorCall number =>
      exact keeps_forward bound otherBound indifferent rfl rfl (indifferent.supervisorCall number)
    | exceptionRaised address condition =>
      exact keeps_forward bound otherBound indifferent rfl rfl
        (indifferent.exceptionRaised address condition)
  compile _ engine copy same slot request := by
    rw [same.configuration, same.counterpart]
    have bridges := indifferent.coprocessors slot
    generalize pair.interrupted.coprocessors[slot] = populated at bridges ⊢
    generalize pair.uninterrupted.coprocessors[slot] = copied at bridges ⊢
    cases bridges with
    | none => exact .none
    | some alike => exact .some (keeps_compile bound otherBound alike request)
  complete _ instruction _ _ alike next _ :=
    (Indifferent.uses bound otherBound).complete instruction alike (.any _)
      (keeps_writeRegister Stepping.pc next)

/-- A step of the interrupted engine is a step of its counterpart. -/
theorem Indifferent.step (indifferent : pair.Indifferent) (bound otherBound : Nat) :
    Exec.Corresponds (fun _ _ => True) (pair.Level start begin left done lent lent)
      (pair.Level start begin left (done + 1) lent lent) (· = ·)
      (Stepping.step (perform (bound + 1)) pair.handle)
      (Stepping.step (perform (otherBound + 1)) pair.handle) := by
  apply (indifferent.mirrors bound otherBound).step lent (indifferent.mirrors bound otherBound)
  intro address word
  apply Exec.Corresponds.emit
  exact fun world other level => level.record (.fetched pair.handle address word)

end Counterparts

end RecompilerAdapter
