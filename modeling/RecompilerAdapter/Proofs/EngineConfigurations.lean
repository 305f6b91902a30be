/-
Module: RecompilerAdapter.Proofs.EngineConfigurations
Purpose: What engines are configured with. A builder accepts every call that names an existing slot, and
  what it hands to the constructor is what the last call about each part has asked for. A wrapper keeps
  this configuration for its whole life, so an instruction for a coprocessor asks the table that was
  installed last in its slot, and no other one.
Trusted boundary: none
Main exports: Builder.conclude, Command.yield, Stepping.consultation, ConfigurationAccuracy,
  Service.Executed.compilings
-/
import Mathlib.Data.List.Nodup
import RecompilerAdapter.Proofs.BuilderHistories
import RecompilerAdapter.Proofs.StepOutcomes

namespace RecompilerAdapter

variable {σ ν ρ : Type} {performer : Performer σ ν} {world after : World σ ν} {handle : Handle}
  {wrapper later : Wrapper σ ν} {bound : Nat} {events own : List (Event ν)}

/-! ### Constructing -/

namespace Builder

/-- What becomes of an engine that was constructed for a builder, or refused. A refused
configuration is dropped, and with it the tables that it holds. -/
def conclude (builder : Builder σ ν) (slot : HandleSlot) :
    Except EngineError (Engine σ ν) → Exec σ ν (Except EngineError Handle)
  | .ok engine => do
    let handle ← builder.attach slot engine
    return .ok handle
  | .error error => do
    (builder.configuration slot).drop
    return .error error

theorem build_eq (performer : Performer σ ν) (builder : Builder σ ν) (choice : EngineChoice)
    (world : World σ ν) : builder.build performer choice world =
      (choice.construct performer (builder.configuration world.slots.allocate.1) >>=
        builder.conclude world.slots.allocate.1) (world.prepared builder) := by
  have allocated : (Exec.allocateSlot : Exec σ ν HandleSlot) world =
      .ok world.slots.allocate.1 { world with slots := world.slots.allocate.2 } := rfl
  rw [build, Exec.bind_of_ok allocated, Exec.bind_of_ok (Exec.emit_apply _ _)]
  rfl

end Builder

namespace BuilderHistory

variable (history : BuilderHistory σ ν) (slot : HandleSlot)

theorem populated_configuration :
    (history.configuration slot).populated = history.populated := by
  unfold EngineConfiguration.populated populated holdings
  rw [zipIdx_eq_map_range, List.filterMap_map, List.map_filterMap, Vector.length_toList]
  apply List.filterMap_congr
  intro index inRange
  rw [List.mem_range] at inRange
  cases found : history.table index <;> simp [configuration, inRange, found]

theorem prepared_eq (world : World σ ν) : world.prepared history.builder =
    ({ world with slots := world.slots.allocate.2 }).record
      (.log (.constructing history.populated.length history.pageTable.isSome)) := by
  have counted := history.populated_configuration world.slots.allocate.1
  unfold World.prepared
  rw [configuration_eq]
  dsimp only
  rw [counted]
  rfl

end BuilderHistory

/-! ### Calling a builder -/

namespace Command

variable {builders : Builders σ ν}

/-- What building from the builder of a number yields. The builder is gone in any case. -/
def yield (builders : Builders σ ν) (number : Nat) :
    Except EngineError Handle → Outcome ρ × Builders σ ν
  | .ok handle => (.built handle, builders.erase number)
  | .error error => (.refused (.engineConstruction error), builders.erase number)

/-- Installs a table in a slot. -/
def install (number : Nat) (entry : Nat × CoprocessorTable σ ν) : Command σ ν ρ :=
  .installCoprocessor number entry.1 entry.2

theorem exec_build {number : Nat} {history : BuilderHistory σ ν} (choice : EngineChoice)
    (present : builders.get? number = some history.builder) :
    (Command.build (ρ := ρ) number choice).exec performer builders world =
      (yield builders number <$>
        (choice.construct performer (history.configuration world.slots.allocate.1) >>=
          history.builder.conclude world.slots.allocate.1))
        (({ world with slots := world.slots.allocate.2 }).record
          (.log (.constructing history.populated.length history.pageTable.isSome))) := by
  have yields : (Command.build (ρ := ρ) number choice).exec performer builders = (do
      let builder ← find builders number
      yield builders number <$> builder.build performer choice) := by
    rw [exec]
    refine bind_congr fun builder => ?_
    rw [map_eq_pure_bind]
    refine bind_congr fun result => ?_
    cases result <;> rfl
  rw [yields, Exec.bind_of_ok (find_of_present present world)]
  have built := Builder.build_eq performer history.builder choice world
  rw [history.configuration_eq, history.prepared_eq] at built
  show EStateM.map _ _ _ = EStateM.map _ _ _
  unfold EStateM.map
  rw [built]

/-- A builder that is open accepts a call that names an existing slot. -/
theorem exec_call {number : Nat} {builder : Builder σ ν} {call : BuilderCall σ ν}
    (present : builders.get? number = some builder) (inRange : call.InRange)
    (performer : Performer σ ν) (world : World σ ν) :
    ∃ remaining after,
      (call.command (ρ := ρ) number).exec performer builders world = .ok (.done, remaining) after := by
  cases call with
  | usePageTable => exact ⟨_, _, (Completes.usePageTable present).exec trivial⟩
  | useOptions => exact ⟨_, _, (Completes.useOptions present).exec trivial⟩
  | installAll => exact ⟨_, _, (Completes.installAll present).exec trivial⟩
  | install => exact ⟨_, _, (Completes.install present inRange).exec trivial⟩

/-- Installing tables in two slots leaves the same builder in either order. -/
theorem track_install (number : Nat) {first second : Nat × CoprocessorTable σ ν}
    (different : first.1 ≠ second.1) (latest : Option (Builder σ ν)) :
    (install (ρ := ρ) number second).track number .new BuilderCall.apply
        ((install (ρ := ρ) number first).track number .new BuilderCall.apply latest) =
      (install (ρ := ρ) number first).track number .new BuilderCall.apply
        ((install (ρ := ρ) number second).track number .new BuilderCall.apply latest) := by
  cases latest with
  | none => simp [install, track]
  | some builder =>
    simp only [install, track, if_true]
    by_cases isFirst : first.1 < coprocessorCount <;> by_cases isSecond : second.1 < coprocessorCount <;>
      simp [isFirst, isSecond, BuilderCall.apply, Vector.setIfInBound_comm _ _ different]

theorem opened_perm (commands later : List (Command σ ν ρ)) (number : Nat)
    {first second : List (Nat × CoprocessorTable σ ν)} (permuted : first.Perm second)
    (distinct : (first.map Prod.fst).Nodup) :
    (opened number (commands ++ first.map (install number) ++ later)).map BuilderHistory.builder =
      (opened number (commands ++ second.map (install number) ++ later)).map
        BuilderHistory.builder := by
  simp only [map_opened, List.foldl_append, List.foldl_map]
  congr 1
  refine permuted.foldl_eq' ?_ _
  intro one isOne other isOther latest
  by_cases same : one = other
  · rw [same]
  · exact track_install number (fun sameSlot => same (List.inj_on_of_nodup_map distinct isOne isOther
      sameSlot)) latest

end Command

/-! ### Asking a coprocessor -/

/-- A call of a compile entry through a bridge. -/
def Event.isCompiling (bridge : HandleSlot) : Event ν → Bool
  | compiling other _ _ _ => decide (other = bridge)
  | _ => false

namespace Service

variable {service : Service σ ν}

theorem Consulted.compilings {slot : Fin 16} {request : CompileRequest}
    {compiled : Option (Compiled (DeferredFunction σ ν))}
    (consulted : service.Consulted slot request compiled own) :
    own.filter (Event.isCompiling service.configuration.callbacks.slot) =
      (service.configuration.coprocessors[slot].map fun bridge => .compiling
        service.configuration.callbacks.slot bridge.index bridge.table.context request).toList := by
  cases consulted with
  | empty unpopulated =>
    rw [unpopulated]
    rfl
  | answered populated =>
    rw [populated]
    simp [Event.isCompiling]

/-- Of a coprocessor instruction, the engine asks the coprocessor in its slot and no other one. -/
theorem Executed.compilings {address : UInt32} {slot : Fin 16} {instruction : CoprocessorInstruction}
    {done : Bool} (executed : service.Executed address world after wrapper later events
      (.coprocessor slot instruction) done own) :
    own.filter (Event.isCompiling service.configuration.callbacks.slot) =
      (service.configuration.coprocessors[slot].map fun bridge => .compiling
        service.configuration.callbacks.slot bridge.index bridge.table.context
          instruction.request).toList := by
  cases executed with
  | implemented consulted supported used =>
    rw [List.filter_append, consulted.compilings]
    cases used <;> exact List.append_nil _
  | unimplemented consults consulted =>
    rw [List.filter_append, consulted.compilings]
    exact List.append_nil _

end Service

namespace Stepping

/-- Asks a table that is offered in a slot for what a request asks, with the coprocessors lent out
meanwhile. -/
def consultation (perform : Performer σ ν) (handle : Handle) (bridge : HandleSlot) (slot : Nat)
    (table : CoprocessorTable σ ν) (request : CompileRequest) :
    Exec σ ν (Compiled (DeferredFunction σ ν)) := do
  Exec.modifyEngine handle (setLentParts [.coprocessors])
  Exec.emit (.compiling bridge slot table.context request)
  let wire ← (table.answer request).exec perform
  Exec.emit (.compiled bridge slot table.context request wire.report)
  let bound ← Exec.boundHandle bridge
  Exec.modifyEngine handle fun engine =>
    setLentParts ((lentParts engine).erase .coprocessors) engine
  return wire.decode bound

/-- An engine that was built from a history asks the table that the history leaves in the slot. -/
theorem execute_consultation {history : BuilderHistory σ ν}
    (present : world.wrappers.get? handle = some wrapper) (built : wrapper.IsBuiltFrom history)
    (idle : wrapper.Idle) (address : UInt32) {slot : Fin 16} (instruction : CoprocessorInstruction)
    {table : CoprocessorTable σ ν} (held : history.table slot.val = some table) :
    execute performer handle address (.coprocessor slot instruction) world = (do
      let compiled ← consultation performer handle wrapper.slot slot.val table instruction.request
      let done ← useCompiled performer handle instruction (some compiled)
      if done then do
        writeRegister handle pc (address + 4)
        return true
      else raise performer handle address : Exec σ ν Bool) world := by
  have populated : wrapper.engine.configuration.coprocessors[slot] =
      some ⟨slot.val, table, wrapper.slot⟩ := by
    rw [Fin.getElem_fin, built.configuration, history.getElem_configuration, held]
    rfl
  rw [execute_coprocessor, Exec.bind_congr_first (withCoprocessor_eq present idle populated),
    CoprocessorBridge.compile_eq]
  simp only [CoprocessorBridge.consult, consultation, bind_assoc, pure_bind]

/-- Whatever its callbacks do, an engine that was built from a history calls no compile entry but
those of the table that the history leaves in the slot. -/
theorem execute_compilings {history : BuilderHistory σ ν} (attends : Attends world handle wrapper)
    (built : wrapper.IsBuiltFrom history) (idle : wrapper.Idle) (address : UInt32) (slot : Fin 16)
    (instruction : CoprocessorInstruction) :
    (execute (perform bound) handle address (.coprocessor slot instruction)).Ensures world
      (fun _ after => ∃ events, after.history = world.history ++ events ∧
        events.filter (Event.isCompiling wrapper.slot) =
          ((history.table slot.val).map fun table => .compiling wrapper.slot slot.val table.context
            instruction.request).toList)
      (StopsInCallback bound handle wrapper.engine.configuration) := by
  have conducted := conducted bound handle wrapper.engine.configuration
  have rests : (service bound handle wrapper.engine.configuration).Rests world wrapper :=
    ⟨⟨attends, rfl, trivial⟩, idle⟩
  apply (conducted.executeCoprocessor rests address slot instruction).mono ?_ fun _ _ holds => holds
  rintro done after ⟨later, events, own, course, executed⟩
  refine ⟨events, course.history, ?_⟩
  -- Calls of compile entries through the wrapper's slot belong to its engine, so they are all among
  -- the events that the engine tells itself.
  have belong (event : Event ν) (isCompiling : event.isCompiling wrapper.slot = true) :
      event.belongs (.plain (σ := σ) handle wrapper.slot) = true := by
    cases event with
    | compiling => exact isCompiling
    | _ => cases isCompiling
  have ownOnes : own.filter (Event.isCompiling wrapper.slot) =
      (wrapper.engine.configuration.coprocessors[slot].map fun bridge => .compiling wrapper.slot
        bridge.index bridge.table.context instruction.request).toList := executed.compilings
  rw [course.filter_eq belong, ownOnes, Fin.getElem_fin, built.configuration,
    history.getElem_configuration]
  cases history.table slot.val <;> rfl

end Stepping

/-! ### Sessions -/

/-- Engines are configured with what the calls of their builders asked for last. -/
structure ConfigurationAccuracy (bound : Nat) (own : σ) (commands : List (Command σ ν ρ)) : Prop where
  /-- Every call that names an existing slot is accepted by a builder that is open. -/
  accepted : ∀ outcomes builders world number (call : BuilderCall σ ν),
    Command.sessionEnd bound own commands = .ok (outcomes, builders) world →
    (Command.opened number commands).isSome → call.InRange →
    ∃ remaining after, Command.sessionEnd bound own (commands ++ [call.command number]) =
      .ok (outcomes ++ [.done], remaining) after
  /-- Building from it announces the populated slots and constructs an engine with the configuration
  of its history. -/
  constructed : ∀ outcomes builders world number history choice,
    Command.sessionEnd bound own commands = .ok (outcomes, builders) world →
    Command.opened number commands = some history →
    (Command.build (ρ := ρ) number choice).exec (perform bound) builders world =
      (Command.yield builders number <$>
        (choice.construct (perform bound) (history.configuration world.slots.allocate.1) >>=
          history.builder.conclude world.slots.allocate.1))
        (({ world with slots := world.slots.allocate.2 }).record
          (.log (.constructing history.populated.length history.pageTable.isSome)))
  /-- A slot has the table that was installed in it last after all tables were replaced the last
  time, or the one that came with the others then. -/
  replaced : ∀ (history : BuilderHistory σ ν) earlier tables later,
    history.calls = earlier ++ .installAll tables :: later →
    (∀ call ∈ later, call.replacement? = none) → ∀ slot, history.table slot =
      (later.filterMap (BuilderCall.installed? slot)).getLast?.or tables[slot]?.join
  /-- If all tables were never replaced, it has the one that was installed in it last. -/
  unreplaced : ∀ history : BuilderHistory σ ν, (∀ call ∈ history.calls, call.replacement? = none) →
    ∀ slot, history.table slot = (history.calls.filterMap (BuilderCall.installed? slot)).getLast?
  /-- The populated slots are those that have a table, ascending. -/
  populated : ∀ history : BuilderHistory σ ν, history.populated.Pairwise (· < ·) ∧ ∀ slot,
    slot ∈ history.populated ↔ slot < coprocessorCount ∧ (history.table slot).isSome
  /-- They are what the developer's view of the configuration lists. -/
  shown : ∀ (history : BuilderHistory σ ν) slot, (history.configuration slot).summary.inspect =
    "UserConfig \x7b page_table: " ++ (if history.pageTable.isSome then "Some(PT)" else "None") ++
      ", coprocessors: [" ++ ", ".intercalate (history.populated.map toString) ++ "], options: " ++
      history.options.inspect ++ ", .. \x7d"
  /-- In which order tables are installed in different slots makes no difference to the builder. -/
  commuting : ∀ number (first second : List (Nat × CoprocessorTable σ ν)) later,
    first.Perm second → (first.map Prod.fst).Nodup →
    (Command.opened number (commands ++ first.map (Command.install number) ++ later)).map
        BuilderHistory.builder =
      (Command.opened number (commands ++ second.map (Command.install number) ++ later)).map
        BuilderHistory.builder
  /-- A wrapper has what it was built from for its whole life: every living wrapper was built from a
  history, and there is only one from which the wrapper behind a handle was built. -/
  lasting : ∀ outcomes builders between world handle wrapper,
    Command.sessionEnd bound own commands = .ok (outcomes, builders) between → Moves between world →
    world.wrappers.get? handle = some wrapper →
    (∃ history, Command.BuiltFrom commands outcomes handle history) ∧
      ∀ history, Command.BuiltFrom commands outcomes handle history → wrapper.IsBuiltFrom history
  /-- To execute an instruction for a coprocessor, its engine asks the table in the slot of the
  coprocessor. -/
  consults : ∀ world handle wrapper (history : BuilderHistory σ ν), Reached bound own commands world →
    world.wrappers.get? handle = some wrapper → wrapper.IsBuiltFrom history → wrapper.Idle →
    ∀ depth address slot instruction table, history.table slot.val = some table →
      Stepping.execute (perform depth) handle address (.coprocessor slot instruction) world = (do
        let compiled ←
          Stepping.consultation (perform depth) handle wrapper.slot slot.val table instruction.request
        let done ← Stepping.useCompiled (perform depth) handle instruction (some compiled)
        if done then do
          Stepping.writeRegister handle Stepping.pc (address + 4)
          return true
        else Stepping.raise (perform depth) handle address : Exec σ ν Bool) world
  /-- It calls no other compile entry, whatever its callbacks do, and none for a slot that has no
  table. -/
  alone : ∀ world handle wrapper (history : BuilderHistory σ ν), Reached bound own commands world →
    world.wrappers.get? handle = some wrapper → wrapper.IsBuiltFrom history → wrapper.Idle →
    wrapper.state = .running → ∀ depth address slot instruction,
      (Stepping.execute (perform depth) handle address (.coprocessor slot instruction)).Ensures world
        (fun _ after => ∃ events, after.history = world.history ++ events ∧
          events.filter (Event.isCompiling wrapper.slot) =
            ((history.table slot.val).map fun table => .compiling wrapper.slot slot.val table.context
              instruction.request).toList)
        (Stepping.StopsInCallback depth handle wrapper.engine.configuration)

/-- After any commands, each open builder and each living wrapper is as the calls of its builder
asked for. The builders' side is by their histories; the wrappers' side follows them from their
building to wherever the session has got. -/
theorem configurationAccuracy (bound : Nat) (own : σ) (commands : List (Command σ ν ρ)) :
    ConfigurationAccuracy bound own commands where
  accepted outcomes builders world number call ends isOpen inRange := by
    obtain ⟨history, opened⟩ := Option.isSome_iff_exists.1 isOpen
    have present := (Command.session_of_end ends).found opened
    obtain ⟨remaining, after, accepts⟩ :=
      Command.exec_call (ρ := ρ) present inRange (perform bound) world
    exact ⟨remaining, after, Command.execAll_snoc ends accepts⟩
  constructed outcomes builders world number history choice ends opened :=
    Command.exec_build choice ((Command.session_of_end ends).found opened)
  replaced history earlier tables later calls last slot := history.table_of_replaced calls last slot
  unreplaced history never slot := history.table_of_unreplaced never slot
  populated history := ⟨history.populated_ascending, fun _ => history.mem_populated⟩
  shown history slot := by
    unfold ConfigurationSummary.inspect EngineConfiguration.summary
    rw [history.populated_configuration]
    rfl
  commuting number first second later permuted distinct :=
    Command.opened_perm commands later number permuted distinct
  lasting outcomes builders between world handle wrapper ends moves present := by
    have session := Command.session_of_end ends
    obtain ⟨earlier, found, same⟩ := (Moves.steady moves).findBefore present
    constructor
    · obtain ⟨history, built, -⟩ := session.origin found
      exact ⟨history, built⟩
    · intro history built
      exact (session.isBuiltFrom found built).later same
  consults world handle wrapper history reached present built idle depth address slot instruction table
      held :=
    Stepping.execute_consultation present built idle address instruction held
  alone world handle wrapper history reached present built idle running depth address slot
      instruction := by
    have attends : Attends world handle wrapper := ⟨reached.coherent.installed present, running⟩
    exact Stepping.execute_compilings attends built idle address slot instruction

end RecompilerAdapter
