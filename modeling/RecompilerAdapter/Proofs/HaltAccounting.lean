/-
Module: RecompilerAdapter.Proofs.HaltAccounting
Purpose: Halt flags keep account of halt requests. While stepping engines are the only ones, the flag of
  each engine is set exactly if the history tells of a request that waits, and every event obeys the law
  of halting. A caller's code runs only when no run is between two instructions; the engine at work passes
  from there to the next boundary, where it either leaves its run or starts another turn.
Trusted boundary: none
Main exports: Accounted, Calm, Leaving, Unaccounted, Exec.Leads, Performer.StaysCalm, Stepping.turn_leads
-/
import RecompilerAdapter.Proofs.HandleIdentity
import RecompilerAdapter.Proofs.HaltHistory
import RecompilerAdapter.Proofs.MirroredEngines
import RecompilerAdapter.Proofs.RejectedRuns
import RecompilerAdapter.Proofs.RunlessBodies

namespace RecompilerAdapter

variable {σ ν α β : Type} {perform : Performer σ ν} {world after : World σ ν} {handle : Handle}
  {start told : List (Event ν)} {event : Event ν}

/-! ### The account -/

/-- The history obeys the law, all engines are stepping ones with bridges of their own, and their
halt flags are as they should be after the history `told`. -/
structure Accounted (told : List (Event ν)) (world : World σ ν) : Prop where
  lawful : EveryEvent Halting world.history
  flags : ∀ handle wrapper, world.wrappers.get? handle = some wrapper →
    (wrapper.engine.haltRequested = true ↔ HaltWaits handle told)
  bound : ∀ handle wrapper, world.wrappers.get? handle = some wrapper →
    world.slots.get? wrapper.engine.configuration.callbacks.slot = some handle
  stepping : ∀ handle wrapper, world.wrappers.get? handle = some wrapper →
    wrapper.engine.mode.isStepping = true
  numbered : ∀ handle wrapper, world.wrappers.get? handle = some wrapper →
    handle.address ≤ world.built
  fresh : ∀ handle, world.built < handle.address → ¬ HaltWaits handle world.history

/-- The account is right, and no run is between two instructions. The history has begun with
`start`. -/
structure Calm (start : List (Event ν)) (world : World σ ν) : Prop where
  accounted : Accounted world.history world
  within : ∀ handle, ¬ Boundary handle world.history
  grown : start <+: world.history

/-- The account is right, and the run of a wrapper is between two instructions. -/
structure Between (start : List (Event ν)) (handle : Handle) (world : World σ ν) : Prop where
  accounted : Accounted world.history world
  boundary : Boundary handle world.history
  grown : start <+: world.history

/-- The run of a wrapper is over but for its last event, and the account is as it should be after
it. -/
structure Leaving (start : List (Event ν)) (handle : Handle) (world : World σ ν) : Prop where
  accounted : Accounted (world.history ++ [.runLeft handle]) world
  lawful : Halting world.history (.runLeft handle)
  grown : start <+: world.history

/-- What holds wherever a computation stops. -/
def AccountedStop (_ : Stop) (after : World σ ν) : Prop :=
  Accounted after.history after

/-! ### Events -/

/-- Events that neither request a halt, nor end a run, nor begin or end what is between two
instructions, nor ask for the remaining ticks. -/
def Event.Neutral : Event ν → Prop
  | log (.engineRun _) | answered _ (.addTicks _) _ | acted _ _ .halt _ | runLeft _
    | requested _ .ticksRemaining => False
  | _ => True

namespace Event.Neutral

/-- A neutral event adds no request. -/
theorem ne_halt (neutral : event.Neutral) (surface : Surface) (handle : Handle) (reply : Reply) :
    event ≠ .acted surface handle .halt reply := by
  rintro rfl
  exact neutral

/-- A neutral event ends no run, so no request is gone with it. -/
theorem ne_runLeft (neutral : event.Neutral) (handle : Handle) : event ≠ .runLeft handle := by
  rintro rfl
  exact neutral

/-- A neutral event is no question for the quota, so no engine comes between two instructions with
it. -/
theorem ne_requested (neutral : event.Neutral) (handle : Handle) :
    event ≠ .requested handle .ticksRemaining := by
  rintro rfl
  exact neutral

/-- After a neutral event no run is between two instructions, whatever came before it. -/
theorem within (neutral : event.Neutral) (before : List (Event ν)) (handle : Handle) :
    ¬ Boundary handle (before ++ [event]) := by
  intro boundary
  have bounds := boundary.bounds
  unfold Event.bounds at bounds
  split at bounds <;> first | exact neutral | exact bounds

/-- The law of halting asks nothing of a neutral event, as long as no run was between two
instructions before it. This is what most events of a callback need. -/
theorem halting (neutral : event.Neutral) {before : List (Event ν)}
    (within : ∀ handle, ¬ Boundary handle before) : Halting before event :=
  .inside within neutral.ne_runLeft fun handle same => (neutral.ne_requested handle same).elim

end Event.Neutral

/-- An event that does not bound the instructions of a wrapper leaves its run in the middle of one,
or outside of any. -/
theorem not_boundary_record (unbounded : ¬ event.bounds handle) :
    ¬ Boundary handle (world.record event).history := by
  intro boundary
  rw [World.history_record] at boundary
  exact unbounded boundary.bounds

/-- What is recorded while wrappers are built and deleted is neutral. -/
theorem Event.Plain.neutral (plain : event.Plain) : event.Neutral := by
  cases event with
  | log line => cases line <;> trivial
  | destroyed => trivial
  | _ => exact plain.elim

/-! ### Steps of the account -/

namespace Accounted

variable (accounted : Accounted told world)

include accounted

/-- The account after some more events that change nothing for the wrappers that are there. -/
theorem agree {further : List (Event ν)}
    (same : ∀ handle, HaltWaits handle further ↔ HaltWaits handle told) : Accounted further world :=
  { accounted with
    flags := fun handle wrapper present =>
      (accounted.flags handle wrapper present).trans (same handle).symm }

/-- An event that obeys the law of halting can be told without any engine being changed, but then
the account may be of fewer events than the history. A request may name only a wrapper that exists
already. -/
theorem record (halting : Halting world.history event)
    (requested : ∀ surface handle reply, event = .acted surface handle .halt reply →
      handle.address ≤ world.built) : Accounted told (world.record event) :=
  { accounted with
    lawful := by
      rw [World.history_record]
      exact everyEvent_append_singleton.2 ⟨accounted.lawful, halting⟩
    fresh := fun handle isFresh => by
      rw [World.history_record, haltWaits_append_singleton]
      rintro (⟨surface, reply, same⟩ | ⟨waits, -⟩)
      · exact absurd isFresh (Nat.not_lt.2 (requested surface handle reply same))
      · exact accounted.fresh handle isFresh waits }

/-- The account goes on with an event that neither requests a halt nor ends a run. -/
theorem tell (same : told = world.history) (halting : Halting world.history event)
    (unrequested : ∀ surface handle reply, event ≠ .acted surface handle .halt reply)
    (notLeft : ∀ handle, event ≠ .runLeft handle) :
    Accounted (world.record event).history (world.record event) := by
  subst same
  have recorded := accounted.record halting fun surface handle reply same =>
    (unrequested surface handle reply same).elim
  rw [World.history_record]
  exact recorded.agree fun handle =>
    haltWaits_other (fun surface => unrequested surface handle) (notLeft handle)

/-- The account moves on to more events when one engine changes its flag accordingly. The events may
concern the flag of that engine only. -/
theorem place {further : List (Event ν)} {wrapper replacement : Wrapper σ ν}
    (present : world.wrappers.get? handle = some wrapper)
    (configuration : replacement.engine.configuration = wrapper.engine.configuration)
    (stepping : replacement.engine.mode.isStepping = true)
    (flag : replacement.engine.haltRequested = true ↔ HaltWaits handle further)
    (others : ∀ other, other ≠ handle → (HaltWaits other further ↔ HaltWaits other told)) :
    Accounted further (world.place handle replacement) where
  lawful := accounted.lawful
  flags other found isFound := by
    rcases World.get?_place_eq_some isFound with ⟨rfl, rfl⟩ | ⟨different, isFound⟩
    · exact flag
    · exact (accounted.flags other found isFound).trans (others other different).symm
  bound other found isFound := by
    rcases World.get?_place_eq_some isFound with ⟨rfl, rfl⟩ | ⟨different, isFound⟩
    · rw [configuration]
      exact accounted.bound _ wrapper present
    · exact accounted.bound other found isFound
  stepping other found isFound := by
    rcases World.get?_place_eq_some isFound with ⟨rfl, rfl⟩ | ⟨different, isFound⟩
    · exact stepping
    · exact accounted.stepping other found isFound
  numbered other found isFound := by
    rcases World.get?_place_eq_some isFound with ⟨rfl, rfl⟩ | ⟨different, isFound⟩
    · exact accounted.numbered _ wrapper present
    · exact accounted.numbered other found isFound
  fresh := accounted.fresh

/-- An engine's flag, configuration and kind are as before. -/
theorem place_same {wrapper replacement : Wrapper σ ν}
    (present : world.wrappers.get? handle = some wrapper)
    (configuration : replacement.engine.configuration = wrapper.engine.configuration)
    (kind : replacement.engine.mode.isStepping = wrapper.engine.mode.isStepping)
    (flag : replacement.engine.haltRequested = wrapper.engine.haltRequested) :
    Accounted told (world.place handle replacement) :=
  accounted.place present configuration (kind.trans (accounted.stepping handle wrapper present))
    (by rw [flag, accounted.flags handle wrapper present]) fun _ _ => .rfl

end Accounted

/-- Changes of an engine that the account does not depend on. -/
structure Unaccounted (update : Engine σ ν → Engine σ ν) : Prop where
  configuration : ∀ engine, (update engine).configuration = engine.configuration
  kind : ∀ engine, (update engine).mode.isStepping = engine.mode.isStepping
  flag : ∀ engine, (update engine).haltRequested = engine.haltRequested

/-- Lending out a part of an engine has nothing to do with its flag. -/
theorem Stepping.unaccounted_setLentParts (change : Engine σ ν → List EnginePart) :
    Unaccounted fun engine : Engine σ ν => Stepping.setLentParts (change engine) engine := by
  refine ⟨fun engine => ?_, fun engine => ?_, fun engine => ?_⟩ <;> unfold Stepping.setLentParts <;>
    split <;> simp_all [EngineMode.isStepping]

/-- Writing a register has nothing to do with the flag. -/
theorem unaccounted_withRegister (number : RegisterNumber) (value : UInt32) :
    Unaccounted fun engine : Engine σ ν => engine.withRegister number value :=
  ⟨fun _ => rfl, fun _ => rfl, fun _ => rfl⟩

/-- A property of worlds that changes of engines do not affect, as far as the account does not
depend on them, and that holds only where the account is right. -/
structure Enduring (property : World σ ν → Prop) : Prop where
  place : ∀ {handle wrapper update}, Unaccounted update → ∀ {world},
    world.wrappers.get? handle = some wrapper → property world →
    property (world.place handle { wrapper with engine := update wrapper.engine })
  stopped : ∀ {world}, property world → Accounted world.history world

/-- Between two events of a callback an engine may change in all that is not accounted for. -/
theorem Calm.enduring (start : List (Event ν)) : Enduring (Calm (σ := σ) start) where
  place unaccounted _ present calm :=
    { calm with
      accounted := calm.accounted.place_same present (unaccounted.configuration _)
        (unaccounted.kind _) (unaccounted.flag _) }
  stopped calm := calm.accounted

/-- At the boundary of two instructions, too, an engine may change in all that is not accounted
for. -/
theorem Between.enduring (start : List (Event ν)) (handle : Handle) :
    Enduring (Between (σ := σ) start handle) where
  place unaccounted _ present between :=
    { between with
      accounted := between.accounted.place_same present (unaccounted.configuration _)
        (unaccounted.kind _) (unaccounted.flag _) }
  stopped between := between.accounted

/-- What the history tells may be added to such a property. -/
theorem Enduring.and {property : World σ ν → Prop} (enduring : Enduring property)
    (tells : List (Event ν) → Prop) : Enduring fun world => property world ∧ tells world.history where
  place unaccounted _ present holds := ⟨enduring.place unaccounted present holds.1, holds.2⟩
  stopped holds := enduring.stopped holds.1

/-- A neutral event keeps the world calm. -/
theorem Calm.record (calm : Calm start world) (neutral : event.Neutral) :
    Calm start (world.record event) where
  accounted := calm.accounted.tell rfl (neutral.halting calm.within) neutral.ne_halt neutral.ne_runLeft
  within handle := by
    rw [World.history_record]
    exact neutral.within _ handle
  grown := by
    rw [World.history_record]
    exact calm.grown.trans (List.prefix_append _ _)

/-- So do any number of neutral events, one after the other. -/
theorem Calm.recordAll {events : List (Event ν)} (calm : Calm start world)
    (neutral : ∀ event ∈ events, event.Neutral) : Calm start (world.recordAll events) := by
  induction events generalizing world with
  | nil => exact calm
  | cons event events ih =>
    rw [List.forall_mem_cons] at neutral
    exact ih (calm.record neutral.1) neutral.2

/-! ### Computations -/

/-- From worlds with a property, a computation leads to worlds with another one, and it stops only
where the account is right. -/
abbrev Exec.Leads (before : World σ ν → Prop) (computation : Exec σ ν α)
    (completed : α → World σ ν → Prop) : Prop :=
  ∀ world, before world → computation.Ensures world completed AccountedStop

/-- A computation after which all is calm if it was before. -/
abbrev Exec.StaysCalm (computation : Exec σ ν α) : Prop :=
  ∀ start, computation.Leads (Calm start) fun _ => Calm start

/-- All is calm after every action. -/
abbrev Performer.StaysCalm (perform : Performer σ ν) : Prop :=
  ∀ surface handle action, (perform surface handle action).StaysCalm

namespace Exec

namespace Leads

variable {before : World σ ν → Prop} {completed : α → World σ ν → Prop}
  {further : β → World σ ν → Prop}

/-- Computations follow one another where the second starts as the first one ends. -/
theorem bind {computation : Exec σ ν α} {next : α → Exec σ ν β}
    (first : computation.Leads before completed)
    (rest : ∀ answer, (next answer).Leads (completed answer) further) :
    (computation >>= next).Leads before further :=
  fun world holds => (first world holds).bind rest

/-- Looking at an engine changes nothing; what is learned is that its wrapper is there. -/
theorem engine (enduring : Enduring before) (handle : Handle) :
    (Exec.engine handle).Leads before fun engine world => before world ∧
      ∃ wrapper, world.wrappers.get? handle = some wrapper ∧ wrapper.engine = engine := by
  intro world holds
  apply Ensures.wrapper_bind
  · exact fun wrapper present => ⟨holds, wrapper, present, rfl⟩
  · exact fun _ => enduring.stopped holds

/-- Changing an engine in what is not accounted for leads from each enduring world to another
one. -/
theorem modifyEngine (enduring : Enduring before) (handle : Handle)
    {update : Engine σ ν → Engine σ ν} (unaccounted : Unaccounted update) :
    (Exec.modifyEngine handle update).Leads before fun _ => before := by
  intro world holds
  rw [← bind_pure (Exec.modifyEngine handle update)]
  apply Ensures.modifyEngine_bind
  · exact fun wrapper present => enduring.place unaccounted present holds
  · exact fun _ => enduring.stopped holds

end Leads

namespace StaysCalm

/-- Answering at once keeps the world calm. -/
theorem pure (answer : α) : (Pure.pure answer : Exec σ ν α).StaysCalm :=
  fun _ _ calm => calm

/-- Stopping is always allowed in a calm world, since the account is right there. -/
theorem throw (stop : Stop) : (MonadExcept.throw stop : Exec σ ν α).StaysCalm :=
  fun _ _ calm => calm.accounted

/-- Calm computations follow one another. -/
theorem bind {computation : Exec σ ν α} {next : α → Exec σ ν β} (first : computation.StaysCalm)
    (rest : ∀ answer, (next answer).StaysCalm) : (computation >>= next).StaysCalm :=
  fun start => Leads.bind (first start) fun answer => rest answer start

/-- Recording a neutral event keeps the world calm. -/
theorem emit (neutral : event.Neutral) : (Exec.emit event : Exec σ ν Unit).StaysCalm :=
  fun _ _ calm => calm.record neutral

/-- A computation that does nothing but record neutral events keeps the world calm. -/
theorem records {computation : Exec σ ν Unit} {events : List (Event ν)}
    (records : computation.Records events) (neutral : ∀ event ∈ events, event.Neutral) :
    computation.StaysCalm := by
  intro start world calm
  apply records.ensures.mono
  · rintro _ _ rfl
    exact calm.recordAll neutral
  · exact fun _ _ holds => holds

/-- Fetching the handle keeps the world calm, also where the slot is unbound and everything
stops. -/
theorem boundHandle (slot : HandleSlot) : (Exec.boundHandle slot : Exec σ ν Handle).StaysCalm := by
  intro start world calm
  rw [← bind_pure (Exec.boundHandle slot)]
  apply Ensures.boundHandle_bind
  · exact fun _ _ => calm
  · exact fun _ => calm.accounted

/-- What the caller does to its own state keeps the world calm. -/
theorem accessShared (update : Shared σ → Shared σ) :
    (Exec.accessShared update : Exec σ ν (Shared σ)).StaysCalm :=
  fun _ _ calm => { calm with accounted := { calm.accounted with } }

/-- Storing a word keeps the world calm. -/
theorem storeWord (location : Location) (word : UInt32) :
    (Exec.storeWord location word : Exec σ ν Unit).StaysCalm :=
  fun _ _ calm => { calm with accounted := { calm.accounted with } }

/-- Looking at an engine keeps the world calm. -/
theorem engine (handle : Handle) : (Exec.engine handle : Exec σ ν (Engine σ ν)).StaysCalm :=
  fun start world calm => (Leads.engine (Calm.enduring start) handle world calm).mono
    (fun _ _ found => found.1) fun _ _ holds => holds

/-- Changing an engine in what is not accounted for keeps the world calm. -/
theorem modifyEngine (handle : Handle) {update : Engine σ ν → Engine σ ν}
    (unaccounted : Unaccounted update) : (Exec.modifyEngine handle update).StaysCalm :=
  fun start => .modifyEngine (Calm.enduring start) handle unaccounted

/-- Loading a word keeps the world calm. -/
theorem loadWord (location : Location) : (Exec.loadWord location : Exec σ ν UInt32).StaysCalm :=
  fun _ _ calm => calm

/-- Caller code keeps the world calm if the actions that it carries out do. The induction follows
the code; only the case of an action needs the assumption. -/
theorem exec (calms : perform.StaysCalm) (body : Activity σ ν α) :
    (body.exec perform).StaysCalm := by
  induction body with
  | finish answer => exact pure answer
  | access update next ih => exact (accessShared update).bind ih
  | record note next ih => exact StaysCalm.bind (emit trivial) fun _ => ih
  | perform surface target action next ih => exact (calms surface target action).bind ih

end StaysCalm

/-- On both sides the same world, with a property. -/
def diagonal (property : World σ ν → Prop) : WorldRelation σ ν :=
  fun world other => world = other ∧ property world

/-- A calm computation corresponds to itself, in worlds that are the same on both sides. With that,
the rules for two engines side by side serve for one engine, and no instruction has to be gone
through again. -/
theorem Corresponds.of_staysCalm {computation : Exec σ ν α} (calms : computation.StaysCalm)
    (start : List (Event ν)) :
    Corresponds (diagonal fun world => Accounted world.history world) (diagonal (Calm start))
      (diagonal (Calm start)) (· = ·) computation computation := by
  rintro world _ ⟨rfl, calm⟩
  have ensured := calms start world calm
  unfold Ensures at ensured
  cases ends : computation world with
  | ok answer after =>
    rw [ends] at ensured
    exact ⟨rfl, rfl, ensured⟩
  | error stop after =>
    rw [ends] at ensured
    exact ⟨rfl, rfl, ensured⟩

/-- The way back, once the rules for two engines have been used. -/
theorem Corresponds.staysCalm {computation : Exec σ ν α}
    (corresponds : ∀ start, Corresponds (diagonal fun world => Accounted world.history world)
      (diagonal (Calm start)) (diagonal (Calm start)) (· = ·) computation computation) :
    computation.StaysCalm := by
  intro start world calm
  have alike := corresponds start world world ⟨rfl, calm⟩
  unfold Ensures
  cases ends : computation world with
  | ok answer after =>
    rw [ends] at alike
    exact alike.2.2
  | error stop after =>
    rw [ends] at alike
    exact alike.2.2

end Exec

/-! ### Instructions -/

section

variable (calms : perform.StaysCalm)

include calms

/-- A request of the guest that is forwarded keeps the world calm. Questions about ticks are
excepted, because they are how an engine tells that it comes between two instructions. -/
theorem CallbackBridge.forward_calm (bridge : CallbackBridge σ ν) {request : HostRequest}
    (guest : Stepping.Guest request) : (bridge.forward perform request).StaysCalm := by
  refine .bind (.emit ?_) fun _ => ?_
  · trivial
  split
  · cases guest <;> exact .pure _
  · refine .bind (.boundHandle _) fun handle => .bind (.emit ?_) fun _ =>
      .bind (.exec calms _) fun answer => .bind (.emit ?_) fun _ => .pure answer
    · cases guest <;> trivial
    · cases guest <;> trivial

/-- A compile request that is forwarded keeps the world calm. -/
theorem CoprocessorBridge.compile_calm (bridge : CoprocessorBridge σ ν) (request : CompileRequest) :
    (bridge.compile perform request).StaysCalm := by
  rw [compile_eq, consult]
  refine .bind (.emit ?_) fun _ => .bind (.exec calms _) fun answer => .bind (.emit ?_) fun _ =>
    .bind (.boundHandle _) fun handle => .pure _
  · trivial
  · trivial

/-- Calling a deferred operation keeps the world calm. -/
theorem Callback.run_calm (callback : Callback (DeferredFunction σ ν)) (first second : UInt32) :
    (callback.run perform first second).StaysCalm := by
  refine .bind (.emit ?_) fun _ => .exec calms _
  trivial

/-- Using the answer of a coprocessor keeps the world calm, stated in the form in which the rules
for two engines take it, with the same engine on both sides. -/
theorem Stepping.usesAlike_calm (start : List (Event ν)) (handle : Handle) :
    UsesAlike (Exec.diagonal fun world => Accounted world.history world)
      (Exec.diagonal (Calm start)) (Exec.diagonal (Calm start)) perform perform handle handle (· = ·)
      fun _ => True where
  weaken _ _ := id
  run := by
    rintro callback _ rfl first second
    exact .of_staysCalm (callback.run_calm calms first second) start
  read number := .of_staysCalm (.bind (.engine handle) fun _ => .pure _) start
  write number value :=
    .of_staysCalm (.modifyEngine handle (unaccounted_withRegister number value)) start
  load location _ := .of_staysCalm (.loadWord location) start
  store location _ word := .of_staysCalm (.storeWord location word) start

/-- An engine mirrors itself in one and the same calm world. In this way the general rules for two
engines say of one engine that what it executes keeps the account right. -/
theorem Stepping.mirrors_calm (start : List (Event ν)) (handle : Handle) :
    Mirrors (Exec.diagonal fun world => Accounted world.history world)
      (fun _ => Exec.diagonal (Calm start)) perform perform handle handle (· = ·) fun _ => (· = ·) where
  stops := by
    rintro lent world _ ⟨rfl, calm⟩
    exact ⟨rfl, calm.accounted⟩
  -- Both sides are the same computation in the same world, so whatever ends, ends the same way on both;
  -- only that it stays calm is at stake.
  engine _ := by
    rintro world _ ⟨rfl, calm⟩
    have found := Exec.Leads.engine (Calm.enduring start) handle world calm
    unfold Exec.Ensures at found
    cases ends : Exec.engine handle world with
    | ok engine after =>
      rw [ends] at found
      exact ⟨rfl, rfl, found.1⟩
    | error stop after =>
      rw [ends] at found
      exact ⟨rfl, rfl, found⟩
  registers engine other same := by rw [same]
  lent engine other same := by rw [same]
  lend _ change := .of_staysCalm (.modifyEngine handle
    (unaccounted_setLentParts fun engine => change (lentParts engine))) start
  advance _ next _ := (usesAlike_calm calms start handle).write pc next
  forward := by
    rintro _ engine _ rfl request guest
    exact .of_staysCalm (CallbackBridge.forward_calm calms _ guest) start
  compile := by
    rintro _ engine _ rfl slot request
    cases engine.configuration.coprocessors[slot] with
    | none => exact .none
    | some bridge => exact .some (.of_staysCalm (bridge.compile_calm calms request) start)
  complete := by
    rintro _ instruction compiled _ rfl next -
    have uses := usesAlike_calm calms start handle
    exact uses.complete instruction (.same compiled) (.any compiled) (uses.write pc next)
  paged := by
    rintro _ world _ ⟨rfl, -⟩ engine _ rfl address
    rfl

/-- Executing one instruction keeps the world calm, whatever the instruction is. It needs no case
for the forms of instructions, since `mirrors_calm` has gone through them for two engines. -/
theorem Stepping.step_calm (handle : Handle) : (step perform handle).StaysCalm := by
  refine Exec.Corresponds.staysCalm fun start => ?_
  refine (mirrors_calm calms start handle).step [] (mirrors_calm calms start handle) ?_
  intro address word
  refine .of_staysCalm (.emit ?_) start
  trivial

end

/-! ### Turns -/

namespace Stepping

/-- A part is lent out for the time of a computation, which changes nothing that matters. -/
theorem lending_leads {before : World σ ν → Prop} {completed : α → World σ ν → Prop}
    {part : EnginePart} {body : Exec σ ν α} (enduring : Enduring before)
    (endures : ∀ answer, Enduring (completed answer)) (leads : body.Leads before completed) :
    (lending handle part body).Leads before completed := by
  apply Exec.Leads.bind (.engine enduring handle)
  rintro engine world ⟨holds, -⟩
  have inside : Exec.Leads before (do
      Exec.modifyEngine handle fun engine => setLentParts (part :: lentParts engine) engine
      let result ← body
      Exec.modifyEngine handle fun engine => setLentParts ((lentParts engine).erase part) engine
      return result) completed := by
    apply Exec.Leads.bind (.modifyEngine enduring handle (unaccounted_setLentParts fun engine =>
      part :: lentParts engine))
    intro _
    apply leads.bind
    intro answer
    apply Exec.Leads.bind (.modifyEngine (endures answer) handle (unaccounted_setLentParts fun engine =>
      (lentParts engine).erase part))
    exact fun _ world holds => holds
  dsimp only
  split
  · exact enduring.stopped holds
  · exact inside world holds

/-- Between two instructions the engine takes a request that waits: the run is over, or goes on. In
the second case no request is waiting. -/
theorem takeHalt_leads : (takeHalt handle).Leads (Between (σ := σ) start handle) fun halted after =>
    (halted = true → Leaving start handle after) ∧
    (halted = false → Between start handle after ∧ ¬ HaltWaits handle after.history) := by
  intro world between
  have accounted := between.accounted
  apply Exec.Ensures.engine_bind
  · intro wrapper present
    refine Exec.Ensures.modifyEngine_bind (fun again isAgain => ?_) fun _ => accounted
    obtain rfl : wrapper = again := Option.some.inj (present.symm.trans isAgain)
    have flag := accounted.flags handle wrapper present
    constructor
    · intro requested
      have waits := flag.1 requested
      refine ⟨?_, .taken between.boundary waits, between.grown⟩
      -- The flag is gone while the history still tells of a request that waits. The account is of the
      -- history with the event that the run is left by, which comes next.
      refine accounted.place present rfl (accounted.stepping handle wrapper present) ?_ ?_
      · simpa using not_haltWaits_runLeft between.boundary
      · exact fun other different => haltWaits_runLeft fun same => absurd same different
    · intro unrequested
      have waits : ¬ HaltWaits handle world.history := fun waits => by
        rw [flag.2 waits] at unrequested
        cases unrequested
      refine ⟨⟨?_, between.boundary, between.grown⟩, waits⟩
      exact accounted.place_same present rfl rfl unrequested.symm
  · exact fun _ => accounted

/-- The bridge of an accounted engine serves a request on behalf of its own wrapper. -/
theorem ask_leads {before : World σ ν → Prop} {request : HostRequest}
    (inside : World σ ν → Prop) {completed : request.Answer → World σ ν → Prop} (enduring : Enduring before)
    (endures : ∀ answer, Enduring (completed answer)) (served : ∀ vaddr, request ≠ .isReadOnly vaddr)
    (calls : ∀ world slot, before world →
      inside (world.recordAll [.calling slot request true, .requested handle request]))
    (body : ∀ body : Activity σ ν request.Answer, (body.exec perform).Leads inside fun _ => inside)
    (answers : ∀ world answer, inside world →
      completed answer (world.record (.answered handle request (request.report answer)))) :
    (ask perform handle request).Leads before completed := by
  apply lending_leads enduring endures
  apply Exec.Leads.bind (.engine enduring handle)
  rintro _ world ⟨holds, wrapper, present, rfl⟩
  have bound := (enduring.stopped holds).bound handle wrapper present
  obtain ⟨entry, isEntry⟩ : ∃ entry,
      wrapper.engine.configuration.callbacks.table.entry? request = some entry := by
    cases request with
    | isReadOnly vaddr => exact (served vaddr rfl).elim
    | _ => exact ⟨_, rfl⟩
  unfold Exec.Ensures
  rw [CallbackBridge.forward_bound bound perform isEntry]
  refine Exec.Ensures.bind (body _ _ (calls world _ holds)) fun answer after isInside => ?_
  exact answers after answer isInside

section

variable (calms : perform.StaysCalm)

include calms

/-- When no request waits, the engine asks for the remaining ticks. Having been told that there are
none, it may leave its run. -/
theorem askTicks_leads : (ask perform handle .ticksRemaining).Leads
    (fun world => Between start handle world ∧ ¬ HaltWaits handle world.history)
    fun answer after => Calm start after ∧ (answer = 0 → Halting after.history (.runLeft handle)) := by
  -- While the entry is at work, the history has begun with the request.
  let inside (world : World σ ν) : Prop := ∃ asked, Calm asked world ∧ start <+: asked ∧
    .requested handle .ticksRemaining ∈ asked
  refine ask_leads inside ((Between.enduring start handle).and fun told => ¬ HaltWaits handle told)
    (fun answer => (Calm.enduring start).and fun told => answer = 0 → Halting told (.runLeft handle))
    (fun _ => by simp) ?_ ?_ ?_
  · rintro world slot ⟨between, idle⟩
    have called := between.accounted.tell rfl (.asked between.boundary idle slot) (by simp) (by simp)
    have within (other : Handle) : ¬ Boundary other
        (world.record (.calling slot .ticksRemaining true)).history := not_boundary_record id
    have unrequested : ∀ other, Event.requested handle .ticksRemaining =
        (.requested other .ticksRemaining : Event ν) →
        ¬ HaltWaits other (world.record (.calling slot .ticksRemaining true)).history := by
      intro other same waits
      cases same
      rw [World.history_record, haltWaits_other (by simp) (by simp)] at waits
      exact idle waits
    refine ⟨_, ⟨called.tell rfl (.inside within (by simp) unrequested) (by simp) (by simp),
      fun other => not_boundary_record id, List.prefix_rfl⟩, ?_, ?_⟩
    · simpa using between.grown.trans (List.prefix_append _ _)
    · simp
  · rintro body world ⟨asked, calm, begun⟩
    exact (Exec.StaysCalm.exec calms body asked world calm).mono
      (fun _ after stillCalm => ⟨asked, stillCalm, begun⟩) fun _ _ holds => holds
  · rintro world answer ⟨asked, calm, begun, requested⟩
    have told : Event.Neutral (.answered handle .ticksRemaining
      (HostRequest.report .ticksRemaining answer) : Event ν) := trivial
    have calmAfter := calm.record told
    refine ⟨{ calmAfter with grown := begun.trans calmAfter.grown }, ?_⟩
    rintro rfl
    exact .spent calmAfter.within (by simp [HostRequest.report]) (calmAfter.grown.subset requested)

/-- The ticks of an instruction are added, and the run is between two instructions again. -/
theorem addTicks_leads (ticks : UInt64) : (ask perform handle (.addTicks ticks)).Leads (Calm start)
    fun _ => Between start handle := by
  refine ask_leads (Calm start) (Calm.enduring start) (fun _ => Between.enduring start handle)
    (fun _ => by simp) ?_ ?_ ?_
  · intro world slot calm
    exact calm.recordAll (by simp [Event.Neutral])
  · exact fun body => Exec.StaysCalm.exec calms body start
  · intro world answer calm
    refine ⟨?_, ?_, ?_⟩
    · exact calm.accounted.tell rfl (.inside calm.within (by simp) (by simp)) (by simp) (by simp)
    · rw [World.history_record]
      exact .stepped world.history ticks _
    · rw [World.history_record]
      exact calm.grown.trans (List.prefix_append _ _)

/-- A turn ends the run, or leads to the next boundary between two instructions. -/
theorem turn_leads : (turn perform handle).Leads (Between start handle) fun goesOn after =>
    (goesOn = true → Between start handle after) ∧ (goesOn = false → Leaving start handle after) := by
  apply Exec.Leads.bind takeHalt_leads
  intro halted
  cases halted with
  | true =>
    intro world holds
    exact ⟨by simp, fun _ => holds.1 rfl⟩
  | false =>
    refine Exec.Leads.bind (fun world holds => askTicks_leads calms world (holds.2 rfl)) fun remaining => ?_
    split
    · rename_i spent
      rintro world ⟨calm, leaves⟩
      refine ⟨by simp, fun _ => ⟨?_, leaves spent, calm.grown⟩⟩
      -- A run that is left for lack of ticks takes no request with it, not even one that was made while
      -- the engine asked for them.
      exact calm.accounted.agree fun other => haltWaits_runLeft fun _ => calm.within handle
    · rintro world ⟨calm, -⟩
      refine Exec.Leads.bind (step_calm calms handle start) (fun _ => ?_) world calm
      refine Exec.Leads.bind (addTicks_leads calms 1) fun _ => ?_
      exact fun world between => ⟨fun _ => between, by simp⟩

/-- From the boundary of two instructions the run loop leads to where the run is left, or it stops
in between. The induction is on the number of turns; each turn leaves the run or leads back to a
boundary. -/
theorem run_leads (turns : Nat) : (run perform handle turns).Leads (Between start handle)
    fun _ => Leaving start handle := by
  induction turns with
  | zero => exact fun world between => between.accounted
  | succ turns ih =>
    apply Exec.Leads.bind (turn_leads calms)
    intro goesOn
    cases goesOn with
    | true => exact fun world holds => ih world (holds.1 rfl)
    | false => exact fun world holds => holds.2 rfl

end

end Stepping

/-! ### Actions -/

/-- The run state of a wrapper is not accounted for. -/
theorem Accounted.setState {wrapper : Wrapper σ ν} (accounted : Accounted told world)
    (present : world.wrappers.get? handle = some wrapper) (state : RunState) :
    Accounted told (world.place handle { wrapper with state := state }) :=
  accounted.place_same present rfl rfl rfl

/-- Entering a run leads to its first boundary between two instructions. -/
theorem Calm.entered (calm : Calm start world) (data : UserData) :
    Between start handle ((world.record (.runEntered handle)).record (.log (.engineRun data))) := by
  have entered : Event.Neutral (.runEntered handle : Event ν) := trivial
  have calmToo := calm.record entered
  refine ⟨calmToo.accounted.tell rfl (.inside calmToo.within (by simp) (by simp)) (by simp) (by simp),
    ?_, ?_⟩
  · rw [World.history_record, World.history_record, List.append_assoc]
    exact .begun world.history data
  · rw [World.history_record]
    exact calmToo.grown.trans (List.prefix_append _ _)

/-- A run that is left leaves no flag that the history does not tell of. -/
theorem Leaving.left (leaving : Leaving start handle world) :
    Calm start (world.record (.runLeft handle)) where
  accounted := by
    rw [World.history_record]
    exact leaving.accounted.record leaving.lawful (by simp)
  within _ := not_boundary_record id
  grown := by
    rw [World.history_record]
    exact leaving.grown.trans (List.prefix_append _ _)

/-- A wrapper that was deleted while its run was being left has no flag that the account could
miss. -/
theorem Leaving.gone (leaving : Leaving start handle world)
    (absent : world.wrappers.get? handle = none) : Accounted world.history world :=
  { leaving.accounted with
    flags := fun other wrapper present => by
      rw [leaving.accounted.flags other wrapper present]
      apply haltWaits_runLeft
      rintro rfl
      rw [absent] at present
      cases present }

/-- A request sets the flag, and the history tells of it. Until the flag is taken, both stay so. -/
theorem Calm.requested {wrapper : Wrapper σ ν} (calm : Calm start world)
    (present : world.wrappers.get? handle = some wrapper) (surface : Surface) (reply : Reply) :
    Calm start ((world.place handle
      { wrapper with engine := { wrapper.engine with haltRequested := true } }).record
        (.acted surface handle .halt reply)) where
  accounted := by
    have halting : Halting world.history (.acted surface handle .halt reply) :=
      .inside calm.within (by simp) (by simp)
    have recorded := calm.accounted.record halting fun _ _ _ same => by
      cases same
      exact calm.accounted.numbered handle wrapper present
    have waits : HaltWaits handle (world.history ++ [.acted surface handle .halt reply]) :=
      .requested world.history surface reply
    have others (other : Handle) (different : other ≠ handle) :
        HaltWaits other (world.history ++ [.acted surface handle .halt reply]) ↔
          HaltWaits other world.history := by
      refine haltWaits_other (fun _ _ same => ?_) (by simp)
      cases same
      exact different rfl
    rw [World.history_record]
    exact recorded.place present rfl (calm.accounted.stepping handle wrapper present)
      (iff_of_true rfl waits) others
  within _ := not_boundary_record id
  grown := by
    rw [World.history_record]
    exact calm.grown.trans (List.prefix_append _ _)

namespace Wrapper

variable {turns : Nat} {surface : Surface} {action : Action}

/-- Handing over a script keeps the world calm. -/
theorem schedule_calm (script : Option (List EngineOperation)) :
    (schedule script : Exec σ ν Unit).StaysCalm := by
  cases script with
  | none => exact .pure ()
  | some operations => exact fun _ _ calm => { calm with accounted := { calm.accounted with } }

/-- Looking at a wrapper keeps the world calm. -/
theorem observe_calm {view : Wrapper σ ν → Reply} (observes : action.observation? = some view) :
    (Performer.recording (performWith perform turns) surface handle action).StaysCalm := by
  intro start world calm
  have begun : Calm start (world.record (.acting surface handle action)) := calm.record trivial
  apply recording_observation observes
  · intro wrapper _
    refine begun.record ?_
    cases action <;> trivial
  · exact fun _ => begun.accounted

/-- Changing an engine by an action other than a halt keeps the world calm, as none of them touches
the flag. -/
theorem adjust_calm {update : Engine σ ν → Engine σ ν} (other : action ≠ .halt)
    (adjusts : action.adjustment? = some update) (unaccounted : Unaccounted update) :
    (Performer.recording (performWith perform turns) surface handle action).StaysCalm := by
  unfold Performer.recording
  rw [performWith_adjustment adjusts]
  refine .bind (.emit ?_) fun _ =>
    .bind (.bind (.modifyEngine handle unaccounted) fun _ => .pure _) fun reply =>
      .bind (.emit ?_) fun _ => .pure _
  · trivial
  · cases action <;> trivial

/-- A halt keeps the world calm, too: it sets the flag and is told of, both at once. -/
theorem halt_calm :
    (Performer.recording (performWith perform turns) surface handle .halt).StaysCalm := by
  intro start world calm
  have begun : Calm start (world.record (.acting surface handle .halt)) := calm.record trivial
  apply recording_adjustment rfl
  · exact fun wrapper present => begun.requested present surface .done
  · exact fun _ => begun.accounted

section

variable (calms : perform.StaysCalm)

include calms

/-- Only stepping engines are there, so the engine at work is a run loop. -/
theorem runEngine_leads (turns : Nat) : (runEngine perform turns handle).Leads (Between start handle)
    fun _ => Leaving start handle := by
  apply Exec.Leads.bind (.engine (Between.enduring start handle) handle)
  rintro _ world ⟨between, wrapper, present, rfl⟩
  have stepping := between.accounted.stepping handle wrapper present
  cases kind : wrapper.engine.mode with
  | stepping lent => exact Stepping.run_leads calms turns world between
  | scripted last =>
    rw [kind] at stepping
    cases stepping

/-- A run keeps the world calm. It starts calm and is entered at a boundary, the loop leads to where
it is left, and then the world is calm again; a rejected run is neither entered nor left. -/
theorem run_calm (turns : Nat) (handle : Handle) : (run perform turns handle).StaysCalm := by
  intro start world calm
  apply Exec.Ensures.wrapper_bind
  · intro wrapper present
    -- A rejected run neither enters nor leaves anything.
    split
    · exact calm
    · refine Exec.Ensures.modifyWrapper_bind (fun again isAgain => ?_) fun _ => calm.accounted
      have begun : Calm start (world.place handle { again with state := .running }) :=
        { calm with accounted := calm.accounted.setState isAgain .running }
      refine Exec.Ensures.emit_bind (Exec.Ensures.emit_bind ?_)
      refine (runEngine_leads calms turns _ (begun.entered wrapper.userData)).bind
        fun _ worked leaving => ?_
      apply Exec.Ensures.modifyWrapper_bind
      · intro later isLater
        have ended : Leaving start handle (worked.place handle { later with state := .halted }) :=
          { leaving with accounted := leaving.accounted.setState isLater .halted }
        exact ended.left.record trivial
      · exact fun absent => leaving.gone absent
  · exact fun _ => calm.accounted

/-- Each action keeps the world calm, if the actions that are carried out inside it do. Only a run
and a halt touch the account at all. -/
theorem recording_calm : (Performer.recording (performWith perform turns)).StaysCalm := by
  intro surface handle action
  cases action with
  | run script =>
    rw [recording_run]
    refine .bind (.emit ?_) fun _ => .bind (schedule_calm script) fun _ =>
      .bind (run_calm calms turns handle) fun accepted => ?_
    · trivial
    · cases accepted with
      | true =>
        refine .bind (.emit ?_) fun _ => .pure _
        trivial
      | false =>
        cases surface with
        | direct =>
          refine .bind (.emit ?_) fun _ => .pure _
          trivial
        | foreign => exact .throw _
  | halt => exact halt_calm
  | setRegister | setExtensionRegister | setProgramStatus | setFloatingPointStatus =>
    exact adjust_calm (by simp) rfl ⟨fun _ => rfl, fun _ => rfl, fun _ => rfl⟩
  | state | userData | describe | registers | extensionRegisters | programStatus
    | floatingPointStatus => exact observe_calm rfl
  | arrange number =>
    refine .bind (.emit ?_) fun _ => .bind (.throw _) fun _ => .bind (.emit ?_) fun _ => .pure _
    · trivial
    · trivial

end

end Wrapper

/-- So every action keeps the world calm, by induction on the nesting of runs. -/
theorem perform_calm (bound : Nat) : (RecompilerAdapter.perform bound : Performer σ ν).StaysCalm := by
  induction bound with
  | zero => exact fun _ _ _ => .throw _
  | succ bound ih => exact Wrapper.recording_calm ih

end RecompilerAdapter
