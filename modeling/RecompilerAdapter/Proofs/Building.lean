/-
Module: RecompilerAdapter.Proofs.Building
Purpose: Building wrappers. Dropping a builder or a configuration releases what it holds and does nothing
  else. An engine is constructed while its bridges are unbound; only then its wrapper is put in place,
  behind a handle that its bridges have from then on.
Trusted boundary: none
Main exports: Exec.Records, Builder.Fresh, Builder.Builds, EngineChoice.construct_ensures
-/
import RecompilerAdapter.Adapter.Command
import RecompilerAdapter.Proofs.Performance
import RecompilerAdapter.Proofs.SlotBindings

namespace RecompilerAdapter

variable {σ ν α : Type} {perform : Performer σ ν} {world after : World σ ν}

/-! ### Releasing tables -/

/-- A computation records some events and does nothing else. All that builders do before they build
is of this kind, so it can be told in advance. -/
def Exec.Records (computation : Exec σ ν Unit) (events : List (Event ν)) : Prop :=
  ∀ world, computation world = .ok () (world.recordAll events)

namespace Exec.Records

variable {computation : Exec σ ν Unit} {events : List (Event ν)}

/-- Doing nothing tells of nothing. -/
theorem pure : Records (Pure.pure () : Exec σ ν Unit) [] :=
  fun _ => rfl

/-- Telling of an event. -/
theorem emit (event : Event ν) : Records (Exec.emit event : Exec σ ν Unit) [event] :=
  fun _ => rfl

/-- Events are told in the order of the computations that tell them. -/
theorem bind {next : Unit → Exec σ ν Unit} {further : List (Event ν)}
    (first : Records computation events) (rest : Records (next ()) further) :
    Records (computation >>= next) (events ++ further) := by
  intro world
  show EStateM.bind computation next world = _
  rw [EStateM.bind, first world, World.recordAll_append]
  exact rest _

/-- Items that are gone through tell of their events in the order of the items. -/
theorem forM {body : α → Exec σ ν Unit} {eventsOf : α → List (Event ν)} (items : List α)
    (each : ∀ item, Records (body item) (eventsOf item)) :
    Records (items.forM body) (items.flatMap eventsOf) := by
  induction items with
  | nil => exact pure
  | cons item items ih => exact (each item).bind ih

/-- So a computation that only tells of events leads to one known world. -/
theorem ensures {stopped : Stop → World σ ν → Prop} (records : Records computation events) :
    computation.Ensures world (fun _ after => after = world.recordAll events) stopped := by
  unfold Ensures
  rw [records world]

end Exec.Records

/-- What dropping a builder records. -/
def Builder.releases (builder : Builder σ ν) : List (Event ν) :=
  builder.coprocessors.toList.zipIdx.flatMap fun
    | (some table, slot) => [.log (.releasingTable slot), .destroyed table.context]
    | (none, _) => []

/-- A builder that is dropped tells of its tables from the lowest slot to the highest. -/
theorem Builder.release_records (builder : Builder σ ν) :
    Exec.Records (σ := σ) builder.release builder.releases := by
  apply Exec.Records.forM _
  intro item
  obtain ⟨_ | table, slot⟩ := item
  · exact .pure
  · exact (Exec.Records.emit _).bind (.emit _)

/-- What dropping a configuration records. -/
def EngineConfiguration.releases (configuration : EngineConfiguration σ ν) : List (Event ν) :=
  configuration.coprocessors.toList.flatMap fun
    | some bridge => [.log (.destroyingCoprocessor bridge.index), .destroyed bridge.table.context]
    | none => []

/-- So does a configuration. -/
theorem EngineConfiguration.drop_records (configuration : EngineConfiguration σ ν) :
    Exec.Records configuration.drop configuration.releases := by
  apply Exec.Records.forM _
  intro item
  cases item with
  | none => exact .pure
  | some bridge => exact (Exec.Records.emit _).bind (.emit _)

/-- What installing a table in a slot records. -/
def CoprocessorTable.replaces (slot : Nat) : Option (CoprocessorTable σ ν) → List (Event ν)
  | some previous => [.log (.replacingTable slot), .destroyed previous.context]
  | none => []

/-- Events that are no part of a run: releases, and log lines about building and deleting. -/
def Event.Plain : Event ν → Prop
  | .log (.engineRun _) | .log (.engineReturned _) | .log (.constructorFailed _) => False
  | .log _ | .destroyed _ => True
  | _ => False

/-- What is told while wrappers are built and deleted neither opens nor closes a run. -/
theorem Event.Plain.nest {event : Event ν} (plain : event.Plain) (runs : List Handle) :
    event.nest runs = runs := by
  cases event <;> first | rfl | exact plain.elim

/-- So the open runs stay the same. -/
theorem openRuns_plain (history : List (Event ν)) {events : List (Event ν)}
    (plain : ∀ event ∈ events, event.Plain) : openRuns (history ++ events) = openRuns history := by
  induction events using List.reverseRecOn with
  | nil => rw [List.append_nil]
  | append_singleton events event ih =>
    rw [← List.append_assoc, openRuns_append_singleton,
      (plain event (by simp)).nest, ih fun earlier isEarlier => plain earlier (by simp [isEarlier])]

/-- Dropping a builder tells of releases only. -/
theorem Builder.releases_plain (builder : Builder σ ν) : ∀ event ∈ builder.releases, event.Plain := by
  intro event released
  obtain ⟨⟨_ | table, slot⟩, -, isEvent⟩ := List.mem_flatMap.1 released
  · cases isEvent
  · simp only [List.mem_cons, List.not_mem_nil, or_false] at isEvent
    rcases isEvent with rfl | rfl <;> trivial

/-- So does dropping a configuration. -/
theorem EngineConfiguration.releases_plain (configuration : EngineConfiguration σ ν) :
    ∀ event ∈ configuration.releases, event.Plain := by
  intro event released
  obtain ⟨_ | bridge, -, isEvent⟩ := List.mem_flatMap.1 released
  · cases isEvent
  · simp only [List.mem_cons, List.not_mem_nil, or_false] at isEvent
    rcases isEvent with rfl | rfl <;> trivial

/-- And replacing a table in a slot. -/
theorem CoprocessorTable.replaces_plain (slot : Nat) (previous : Option (CoprocessorTable σ ν)) :
    ∀ event ∈ replaces slot previous, event.Plain := by
  cases previous with
  | none => exact fun _ isEvent => nomatch isEvent
  | some table =>
    intro event isEvent
    simp only [replaces, List.mem_cons, List.not_mem_nil, or_false] at isEvent
    rcases isEvent with rfl | rfl <;> trivial

/-! ### Building -/

namespace World

/-- The world in which an engine is constructed from a builder: there is a slot for its bridges,
which is not bound yet, and the construction has been announced. -/
def prepared (world : World σ ν) (builder : Builder σ ν) : World σ ν :=
  let configuration := builder.configuration world.slots.allocate.1
  ({ world with slots := world.slots.allocate.2 }).record
    (.log (.constructing configuration.populated.length configuration.pageTable.isSome))

/-- Opening a slot for a new wrapper touches no run. -/
theorem openRuns_prepared (world : World σ ν) (builder : Builder σ ν) :
    openRuns (world.prepared builder).history = openRuns world.history := by
  rw [prepared, history_record, openRuns_append_singleton]
  rfl

/-- The world with a new wrapper in place, whose handle its bridges have. Handles count the wrappers
that were ever put in place, so no handle is given out twice. -/
def attached (world : World σ ν) (slot : HandleSlot) (data : UserData) (engine : Engine σ ν) :
    World σ ν :=
  let handle : Handle := ⟨world.built + 1⟩
  ({ world with
    wrappers := world.wrappers.insert handle ⟨data, .constructed, engine⟩
    built := world.built + 1
    slots := world.slots.fill slot handle }).record
    (.attached slot handle data)

/-- Attaching a wrapper tells of its slot, its new handle and its context. -/
@[simp] theorem history_attached (world : World σ ν) (slot : HandleSlot) (data : UserData)
    (engine : Engine σ ν) : (world.attached slot data engine).history =
      world.history ++ [.attached slot ⟨world.built + 1⟩ data] := by
  simp [attached, history, record]

/-- The world without the wrapper behind a handle. -/
def remove (handle : Handle) (world : World σ ν) : World σ ν :=
  { world with wrappers := world.wrappers.erase handle }

end World

namespace Builder

variable {builder : Builder σ ν}

/-- The engine of a new wrapper keeps no answer. What a coprocessor has answered while the engine
was under construction is bound to no handle, so it must not survive. -/
def Fresh (engine : Engine σ ν) : Prop :=
  ∀ compiled, engine.mode ≠ .scripted (some compiled)

/-- How building from a builder completes: the engine is constructed and its wrapper is in place, or
the engine is refused and its configuration is dropped. -/
inductive Builds (builder : Builder σ ν) (world : World σ ν) :
    Except EngineError Handle → World σ ν → Prop where
  | built {probed : World σ ν} {engine : Engine σ ν}
      (reaches : Reaches [] (world.prepared builder) probed)
      (configured : engine.configuration = builder.configuration world.slots.allocate.1)
      (fresh : Fresh engine) :
      Builds builder world (.ok ⟨world.built + 1⟩)
        (probed.attached world.slots.allocate.1 builder.userData engine)
  | refused {probed : World σ ν} {error : EngineError}
      (reaches : Reaches [] (world.prepared builder) probed) :
      Builds builder world (.error error)
        (probed.recordAll (builder.configuration world.slots.allocate.1).releases)

end Builder

/-- Constructing an engine yields one that has the configuration and keeps no answer, or refuses.
Its slot is unbound meanwhile, so a callback that needs the handle stops the session. -/
theorem EngineChoice.construct_ensures (proceeds : perform.Proceeds)
    {configuration : EngineConfiguration σ ν} (choice : EngineChoice) (nested : Nested world)
    (unbound : Scripted.Unbound world configuration) (idle : openRuns world.history = []) :
    (choice.construct perform configuration).Ensures world
      (fun result after => Reaches [] world after ∧
        ∀ engine, result = .ok engine → engine.configuration = configuration ∧ Builder.Fresh engine)
      (Scripted.HaltsProbing configuration world) := by
  -- What a scripted engine and a refusing one have in common: they probe their callbacks before it
  -- is decided whether there is an engine.
  have probing (operations : List EngineOperation)
      (result : Scripted.Last σ ν → Except EngineError (Engine σ ν)) :
      (do
        Exec.emit (.configured configuration.summary)
        let last ← Scripted.probe perform configuration none operations
        return result last).Ensures world
        (fun answer after => Reaches [] world after ∧ answer = result none)
        (Scripted.HaltsProbing configuration world) := by
    apply Exec.Ensures.emit_bind
    have shown : Reaches [] world (world.record (.configured configuration.summary)) :=
      .record trivial
    refine Exec.Ensures.bind ((Scripted.probe_ensures proceeds operations
      (shown.moves.nested nested) (unbound.later shown)).mono (fun _ _ holds => holds)
      fun _ _ halts => halts.from shown.moves) fun last after ⟨isNone, reaches⟩ => ?_
    rw [shown.runs, idle] at reaches
    exact ⟨shown.trans reaches, by rw [isNone]⟩
  cases choice with
  | stepping =>
    simp only [construct]
    split
    · refine Exec.Ensures.pure ⟨.refl [] world, ?_⟩
      rintro _ ⟨rfl⟩
      exact ⟨rfl, nofun⟩
    · exact Exec.Ensures.pure ⟨.refl [] world, by simp⟩
  | scripted operations =>
    have probed := probing operations fun last => .ok (.scripted configuration last)
    refine Exec.Ensures.mono probed ?_ fun _ _ halts => halts
    rintro _ after ⟨reaches, rfl⟩
    refine ⟨reaches, ?_⟩
    rintro _ ⟨rfl⟩
    exact ⟨rfl, nofun⟩
  | refusing reason operations =>
    have probed := probing operations fun _ => .error ⟨reason⟩
    refine Exec.Ensures.mono probed ?_ fun _ _ halts => halts
    rintro _ after ⟨reaches, rfl⟩
    exact ⟨reaches, by simp⟩

namespace Builder

variable {builder : Builder σ ν}

/-- The coprocessor bridges share the slot. -/
theorem slot_of_employed (builder : Builder σ ν) {slot : HandleSlot}
    {bridge : CoprocessorBridge σ ν}
    (employed : some bridge ∈ (builder.configuration slot).coprocessors) : bridge.slot = slot := by
  obtain ⟨index, inRange, isBridge⟩ := Vector.mem_iff_getElem.1 employed
  simp only [configuration, Vector.getElem_mapIdx, Option.map_eq_some_iff] at isBridge
  obtain ⟨table, -, rfl⟩ := isBridge
  rfl

/-- The slot that was opened is unbound, and all bridges of the new engine share it. -/
theorem prepared_unbound (builder : Builder σ ν) (world : World σ ν) :
    Scripted.Unbound (world.prepared builder)
      (builder.configuration world.slots.allocate.1) := by
  have isUnbound : (world.prepared builder).slots.get? world.slots.allocate.1 = none := by
    simp [World.prepared, HandleSlots.get?_new]
  refine ⟨isUnbound, fun bridge employed => ?_⟩
  rw [builder.slot_of_employed employed]
  exact isUnbound

/-- Attaching always completes: the slot was unbound, so it can be bound once. -/
theorem attach_ensures {slot : HandleSlot} {engine : Engine σ ν}
    {stopped : Stop → World σ ν → Prop} (unbound : world.slots.get? slot = none) :
    (builder.attach slot engine).Ensures world (fun handle after =>
      handle = ⟨world.built + 1⟩ ∧ after = world.attached slot builder.userData engine) stopped := by
  let placed : World σ ν := { world with
    wrappers := world.wrappers.insert ⟨world.built + 1⟩ ⟨builder.userData, .constructed, engine⟩
    built := world.built + 1 }
  have binds : (Exec.bindSlot slot ⟨world.built + 1⟩).Ensures placed
      (fun _ after => after = { placed with slots := world.slots.fill slot ⟨world.built + 1⟩ })
      stopped := by
    apply Exec.Ensures.get_bind
    have filled := HandleSlots.bind?_of_unbound unbound ⟨world.built + 1⟩
    simp only [placed, filled]
    rfl
  refine Exec.Ensures.modifyGet_bind (Exec.Ensures.bind binds ?_)
  rintro _ _ rfl
  exact ⟨rfl, rfl⟩

/-- Building completes with a handle or a refusal, or it stops while the engine is being
constructed. -/
theorem build_ensures (proceeds : perform.Proceeds) (choice : EngineChoice)
    (idle : openRuns world.history = []) :
    (builder.build perform choice).Ensures world (Builds builder world)
      (Scripted.HaltsProbing (builder.configuration world.slots.allocate.1)
        (world.prepared builder)) := by
  have idlePrepared := (world.openRuns_prepared builder).trans idle
  have nested : Nested (world.prepared builder) := .of_idle idlePrepared
  have unbound := prepared_unbound builder world
  have constructing := choice.construct_ensures proceeds nested unbound idlePrepared
  unfold build Exec.allocateSlot
  refine Exec.Ensures.modifyGet_bind (Exec.Ensures.emit_bind (Exec.Ensures.bind constructing ?_))
  rintro (error | engine) probed ⟨reaches, constructed⟩
  · have dropped := (builder.configuration world.slots.allocate.1).drop_records
    apply Exec.Ensures.bind dropped.ensures
    rintro _ _ rfl
    exact .refused reaches
  · obtain ⟨configured, fresh⟩ := constructed engine rfl
    apply Exec.Ensures.bind (attach_ensures (unbound.later reaches).callbacks)
    rintro _ _ ⟨rfl, rfl⟩
    have sameBuilt : probed.built = world.built := reaches.steady.built
    rw [sameBuilt]
    exact .built reaches configured fresh

end Builder

end RecompilerAdapter
