/-
Module: RecompilerAdapter.Proofs.PagedEngines
Purpose: An engine with and without its page table. Two worlds differ in the page table of one engine
  only, and in that one history tells of the requests for words that the other engine finds in its pages.
  While the engine runs, whatever callers do keeps two worlds so, provided that they keep the pages equal
  to the guest's memory and the program counter aligned.
Trusted boundary: none
Main exports: PagedEngine, PagedEngine.Sound, PagedEngine.Alike, PagedEngine.EndAlike, PagedEngine.Engines
-/
import RecompilerAdapter.Proofs.LikeEngines
import RecompilerAdapter.Proofs.PagedMemory
import RecompilerAdapter.Proofs.RunlessBodies

namespace RecompilerAdapter

open Stepping (pc)

variable {σ ν α β : Type}

/-! ### Bodies that change nothing -/

/-- A body that changes nothing: it uses the caller's state as it is, notes something, and looks at
the wrapper behind a handle. It tells of some events and answers. -/
inductive Activity.Peeks (handle : Handle) (wrapper : Wrapper σ ν) (shared : Shared σ) :
    Activity σ ν α → List (Event ν) → α → Prop where
  | finish (answer : α) : Peeks handle wrapper shared (.finish answer) [] answer
  | access {update : Shared σ → Shared σ} {next : Shared σ → Activity σ ν α} {told : List (Event ν)}
      {answer : α} (unchanged : update shared = shared)
      (rest : Peeks handle wrapper shared (next shared) told answer) :
      Peeks handle wrapper shared (.access update next) told answer
  | record {note : ν} {next : Activity σ ν α} {told : List (Event ν)} {answer : α}
      (rest : Peeks handle wrapper shared next told answer) :
      Peeks handle wrapper shared (.record note next) (.note note :: told) answer
  | observe {surface : Surface} {action : Action} {view : Wrapper σ ν → Reply}
      {next : Reply → Activity σ ν α} {told : List (Event ν)} {answer : α}
      (observes : action.observation? = some view)
      (rest : Peeks handle wrapper shared (next (view wrapper)) told answer) :
      Peeks handle wrapper shared (.perform surface handle action next)
        (.acting surface handle action :: .acted surface handle action (view wrapper) :: told) answer

theorem Activity.Peeks.exec {handle : Handle} {wrapper : Wrapper σ ν} {shared : Shared σ}
    {body : Activity σ ν α} {told : List (Event ν)} {answer : α}
    (peeks : body.Peeks handle wrapper shared told answer) {world : World σ ν}
    (present : world.wrappers.get? handle = some wrapper) (isShared : world.shared = shared)
    (depth : Nat) :
    body.exec (RecompilerAdapter.perform (depth + 1)) world = .ok answer (world.recordAll told) := by
  induction peeks generalizing world with
  | finish answer => rfl
  | @access update next told answer unchanged rest ih =>
    have same : ({ world with shared := update world.shared } : World σ ν) = world := by
      rw [isShared, unchanged, ← isShared]
    have accessed : Exec.accessShared update world = .ok shared world := by
      conv_rhs => rw [← same, ← isShared]
      rfl
    exact (Exec.bind_of_ok accessed).trans (ih present isShared)
  | record rest ih => exact (Exec.bind_of_ok (Exec.emit_apply _ world)).trans (ih present isShared)
  | observe observes rest ih =>
    exact (Exec.bind_of_ok (perform_observe observes present depth _)).trans (ih present isShared)

/-! ### Without the page table -/

/-- The engine without its page table. -/
def Engine.unpaged (engine : Engine σ ν) : Engine σ ν :=
  { engine with configuration := { engine.configuration with pageTable := none } }

/-- The wrapper of an engine without its page table. -/
def Wrapper.unpaged (wrapper : Wrapper σ ν) : Wrapper σ ν :=
  { wrapper with engine := wrapper.engine.unpaged }

/-- Nobody sees whether an engine has a page table. -/
theorem Wrapper.observation_unpaged {action : Action} {view : Wrapper σ ν → Reply}
    (observes : action.observation? = some view) (wrapper : Wrapper σ ν) :
    view wrapper.unpaged = view wrapper := by
  cases action <;> cases observes <;> rfl

theorem Engine.adjustment_unpaged {action : Action} {update : Engine σ ν → Engine σ ν}
    (adjusts : action.adjustment? = some update) (engine : Engine σ ν) :
    update engine.unpaged = (update engine).unpaged := by
  cases action <;> cases adjusts <;> rfl

/-- An engine with a page table, behind a handle: its wrapper's context, what it is constructed
with, the table, the guest's memory, and what has happened before. -/
structure PagedEngine (σ ν : Type) where
  handle : Handle
  data : UserData
  configuration : EngineConfiguration σ ν
  table : PageTable σ
  memory : GuestMemory σ
  past : List (Event ν)

namespace PagedEngine

variable (paged : PagedEngine σ ν)

/-- The pages are equal to the guest's memory. A caller that writes to the memory behind a mapped
page has to keep this true. -/
def Faithful (own : σ) : Prop :=
  paged.table.Faithful paged.memory own

/-! ### Callers -/

/-- An action that is not a store of an unaligned value into the engine's program counter. Only from
there could the engine fetch a word that crosses the end of a page. -/
def Aligns (target : Handle) (action : Action) : Prop :=
  ∀ value, target = paged.handle → action = .setRegister pc value → Aligned value

/-- Two bodies do the same. They keep the pages equal to the guest's memory, and store only aligned
values into the engine's program counter. -/
inductive Considerate (agree : α → β → Prop) : Activity σ ν α → Activity σ ν β → Prop where
  | finish {answer : α} {other : β} (agrees : agree answer other) :
      Considerate agree (.finish answer) (.finish other)
  | access {update : Shared σ → Shared σ} {next : Shared σ → Activity σ ν α}
      {onward : Shared σ → Activity σ ν β}
      (keeps : ∀ shared, paged.Faithful shared.own → paged.Faithful (update shared).own)
      (rest : ∀ before, paged.Faithful before.own → Considerate agree (next before) (onward before)) :
      Considerate agree (.access update next) (.access update onward)
  | record {note : ν} {next : Activity σ ν α} {onward : Activity σ ν β}
      (rest : Considerate agree next onward) :
      Considerate agree (.record note next) (.record note onward)
  | perform {surface : Surface} {target : Handle} {action : Action}
      {next : Reply → Activity σ ν α} {onward : Reply → Activity σ ν β}
      (aligns : paged.Aligns target action)
      (rest : ∀ reply, Considerate agree (next reply) (onward reply)) :
      Considerate agree (.perform surface target action next) (.perform surface target action onward)

/-- Bodies that do the same, considerately. They are the same body on both sides, which keeps pages
faithful and the program counter aligned. -/
def considerate : BodyRelation σ ν :=
  fun _ _ agree body other => paged.Considerate agree body other

/-- What is relied on: the engine has the table, callers are considerate, and at the aligned
addresses of mapped pages the callbacks read the guest's memory, without changing anything. -/
structure Sound : Prop where
  pageTable : paged.configuration.pageTable = some paged.table
  considerate : paged.considerate.Configurations paged.configuration paged.configuration
  reads : ∀ wrapper shared address, wrapper.userData = paged.data → paged.Faithful shared.own →
    Aligned address → paged.table.Mapped address →
    ∃ told, (paged.configuration.callbacks.table.read32 paged.handle address).Peeks paged.handle
      wrapper shared told (paged.memory.word shared.own address).toBitVec

/-! ### Histories -/

/-- What is told of a request for the word at an address, given what the callback tells of. -/
def request (address word : UInt32) (told : List (Event ν)) : List (Event ν) :=
  [.calling paged.configuration.callbacks.slot (.read .word address) true,
    .requested paged.handle (.read .word address)] ++ told ++
    [.answered paged.handle (.read .word address) (.number word.toNat)]

/-- The second history tells of the same events as the first one; right before each word that the
engine fetches from a mapped page, it also tells of a request for this word. -/
inductive OmitsRequests : List (Event ν) → List (Event ν) → Prop where
  | past : OmitsRequests paged.past paged.past
  | same {history other : List (Event ν)} {event : Event ν}
      (unmapped : ∀ address word, event = .fetched paged.handle address word →
        ¬ paged.table.Mapped address)
      (earlier : OmitsRequests history other) : OmitsRequests (history ++ [event]) (other ++ [event])
  | fetched {history other told : List (Event ν)} {wrapper : Wrapper σ ν} {shared : Shared σ}
      {address word : UInt32} (mapped : paged.table.Mapped address)
      (peeks : (paged.configuration.callbacks.table.read32 paged.handle address).Peeks paged.handle
        wrapper shared told word.toBitVec)
      (earlier : OmitsRequests history other) :
      OmitsRequests (history ++ [.fetched paged.handle address word])
        (other ++ paged.request address word told ++ [.fetched paged.handle address word])

/-! ### Worlds -/

/-- A wrapper has the engine, is in a run state, has lent some parts of it out, and its program
counter is one of some values. -/
structure Employs (state : RunState) (lent : List EnginePart) (counters : UInt32 → Prop)
    (wrapper : Wrapper σ ν) : Prop where
  data : wrapper.userData = paged.data
  state : wrapper.state = state
  configuration : wrapper.engine.configuration = paged.configuration
  mode : wrapper.engine.mode = .stepping lent
  counter : counters (wrapper.engine.registers.get pc)

/-- Two worlds differ in that the engine has its page table in the first one and none in the second
one, and in the requests for the words that it fetches from mapped pages. Everything else is the
same, and whatever other wrappers do is considerate. -/
structure Alike (state : RunState) (lent : List EnginePart) (counters : UInt32 → Prop)
    (world other : World σ ν) : Prop where
  shared : world.shared = other.shared
  slots : world.slots = other.slots
  built : world.built = other.built
  script : world.script = other.script
  faithful : paged.Faithful world.shared.own
  bound : world.slots.get? paged.configuration.callbacks.slot = some paged.handle
  employed : ∃ wrapper, paged.Employs state lent counters wrapper ∧
    world.wrappers.get? paged.handle = some wrapper ∧
    other.wrappers.get? paged.handle = some wrapper.unpaged
  others : ∀ handle, handle ≠ paged.handle → Option.Rel paged.considerate.Wrappers
    (world.wrappers.get? handle) (other.wrappers.get? handle)
  history : paged.OmitsRequests world.history other.history

/-- Two worlds in which computations stopped, wherever the engine was in its run. Nothing is known
then of what it has lent out. -/
def Stopped (world other : World σ ν) : Prop :=
  ∃ state lent, paged.Alike state lent (fun _ => True) world other

variable {paged} {state : RunState} {lent : List EnginePart} {counters : UInt32 → Prop}
  {world other : World σ ν}

namespace Alike

theorem weaken {values : UInt32 → Prop} (alike : paged.Alike state lent counters world other)
    (allowed : ∀ counter, counters counter → values counter) :
    paged.Alike state lent values world other := by
  obtain ⟨wrapper, employs, present, presentToo⟩ := alike.employed
  exact { alike with
    employed := ⟨wrapper, { employs with counter := allowed _ employs.counter }, present, presentToo⟩ }

theorem stopped (alike : paged.Alike state lent counters world other) : paged.Stopped world other :=
  ⟨state, lent, alike.weaken fun _ _ => trivial⟩

/-- Both worlds tell of one more event. -/
theorem record_of_history (alike : paged.Alike state lent counters world other) {event copy : Event ν}
    (extended : paged.OmitsRequests (world.history ++ [event]) (other.history ++ [copy])) :
    paged.Alike state lent counters (world.record event) (other.record copy) := by
  refine { alike with history := ?_ }
  rw [World.history_record, World.history_record]
  exact extended

theorem record (alike : paged.Alike state lent counters world other) {event : Event ν}
    (told : event.FetchesBehind (· ≠ paged.handle)) :
    paged.Alike state lent counters (world.record event) (other.record event) := by
  apply alike.record_of_history
  apply OmitsRequests.same _ alike.history
  rintro address word rfl
  exact absurd rfl told

theorem share (alike : paged.Alike state lent counters world other) (update : Shared σ → Shared σ)
    (keeps : ∀ shared, paged.Faithful shared.own → paged.Faithful (update shared).own) :
    paged.Alike state lent counters { world with shared := update world.shared }
      { other with shared := update other.shared } :=
  { alike with
    shared := congrArg update alike.shared
    faithful := keeps world.shared alike.faithful }

/-- Wrappers of other engines are replaced by wrappers that are alike. -/
theorem place_other (alike : paged.Alike state lent counters world other) {handle : Handle}
    (isOther : handle ≠ paged.handle) {wrapper copy : Wrapper σ ν}
    (wrappers : paged.considerate.Wrappers wrapper copy) :
    paged.Alike state lent counters (world.place handle wrapper) (other.place handle copy) := by
  obtain ⟨own, employs, present, presentToo⟩ := alike.employed
  refine { alike with employed := ⟨own, employs, ?_, ?_⟩, others := fun any isAny => ?_ }
  · rw [World.get?_place, if_neg isOther.symm]
    exact present
  · rw [World.get?_place, if_neg isOther.symm]
    exact presentToo
  · rw [World.get?_place, World.get?_place]
    split
    · exact .some wrappers
    · exact alike.others any isAny

/-- The wrapper of the engine is replaced on both sides. -/
theorem place {stateAfter : RunState} {lentAfter : List EnginePart} {countersAfter : UInt32 → Prop}
    (alike : paged.Alike state lent counters world other) {wrapper : Wrapper σ ν}
    (employs : paged.Employs stateAfter lentAfter countersAfter wrapper) :
    paged.Alike stateAfter lentAfter countersAfter (world.place paged.handle wrapper)
      (other.place paged.handle wrapper.unpaged) := by
  refine { alike with employed := ⟨wrapper, employs, ?_, ?_⟩, others := fun any isAny => ?_ }
  · rw [World.get?_place, if_pos rfl]
  · rw [World.get?_place, if_pos rfl]
  · rw [World.get?_place, World.get?_place, if_neg isAny, if_neg isAny]
    exact alike.others any isAny

/-- In the second world, some more is told of while the engine is in another condition. -/
theorem detour (alike : paged.Alike state lent counters world other) {wrapper between : Wrapper σ ν}
    (employs : paged.Employs state lent counters wrapper)
    (present : world.wrappers.get? paged.handle = some wrapper) {event : Event ν}
    {events : List (Event ν)} (extended : paged.OmitsRequests (world.history ++ [event])
      (other.history ++ events ++ [event])) :
    paged.Alike state lent counters (world.record event)
      ((((other.place paged.handle between).recordAll events).place paged.handle
        wrapper.unpaged).record event) where
  shared := alike.shared.trans (World.shared_recordAll (other.place paged.handle between) events).symm
  slots := alike.slots.trans (World.slots_recordAll (other.place paged.handle between) events).symm
  built := alike.built.trans (World.built_recordAll (other.place paged.handle between) events).symm
  script := alike.script.trans (World.script_recordAll (other.place paged.handle between) events).symm
  faithful := alike.faithful
  bound := alike.bound
  employed := ⟨wrapper, employs, present, by simp⟩
  others handle isOther := by
    have same := alike.others handle isOther
    simpa [isOther] using same
  history := by simpa using extended

end Alike

/-! ### Parts of computations -/

/-- From worlds that differ in the page table, computations on the engine end in such worlds. -/
abbrev EndAlike (paged : PagedEngine σ ν) (state : RunState) (lent : List EnginePart)
    (counters : UInt32 → Prop) (agree : α → β → Prop) (computation : Exec σ ν α)
    (counterpart : Exec σ ν β) : Prop :=
  Exec.Corresponds paged.Stopped (paged.Alike state lent counters) (paged.Alike state lent counters)
    agree computation counterpart

theorem wrapper_alike : paged.EndAlike state lent counters
    (fun wrapper copy => paged.Employs state lent counters wrapper ∧ copy = wrapper.unpaged)
    (Exec.wrapper paged.handle) (Exec.wrapper paged.handle) := by
  intro world other alike
  obtain ⟨wrapper, employs, present, presentToo⟩ := alike.employed
  rw [Exec.wrapper_of_present present, Exec.wrapper_of_present presentToo]
  exact ⟨⟨employs, rfl⟩, alike⟩

/-- The engine of the first world, and the same without its page table. -/
structure Engines (paged : PagedEngine σ ν) (engine other : Engine σ ν) : Prop where
  configuration : engine.configuration = paged.configuration
  unpaged : other = engine.unpaged

theorem engine_alike : paged.EndAlike state lent counters paged.Engines (Exec.engine paged.handle)
    (Exec.engine paged.handle) := by
  apply wrapper_alike.bind
  rintro wrapper _ ⟨employs, rfl⟩
  exact .pure ⟨employs.configuration, rfl⟩

section

variable {stateAfter : RunState} {lentAfter : List EnginePart} {countersAfter : UInt32 → Prop}

theorem modifyWrapper_alike {update : Wrapper σ ν → Wrapper σ ν}
    (commutes : ∀ wrapper, update wrapper.unpaged = (update wrapper).unpaged)
    (keeps : ∀ wrapper, paged.Employs state lent counters wrapper →
      paged.Employs stateAfter lentAfter countersAfter (update wrapper)) :
    Exec.Corresponds paged.Stopped (paged.Alike state lent counters)
      (paged.Alike stateAfter lentAfter countersAfter) (· = ·)
      (Exec.modifyWrapper paged.handle update) (Exec.modifyWrapper paged.handle update) := by
  intro world other alike
  obtain ⟨wrapper, employs, present, presentToo⟩ := alike.employed
  rw [Exec.modifyWrapper_of_present present, Exec.modifyWrapper_of_present presentToo, commutes]
  exact ⟨rfl, alike.place (keeps wrapper employs)⟩

theorem modifyEngine_alike {update : Engine σ ν → Engine σ ν}
    (commutes : ∀ engine, update engine.unpaged = (update engine).unpaged)
    (keeps : ∀ wrapper, paged.Employs state lent counters wrapper →
      paged.Employs stateAfter lentAfter countersAfter { wrapper with engine := update wrapper.engine }) :
    Exec.Corresponds paged.Stopped (paged.Alike state lent counters)
      (paged.Alike stateAfter lentAfter countersAfter) (· = ·)
      (Exec.modifyEngine paged.handle update) (Exec.modifyEngine paged.handle update) := by
  refine modifyWrapper_alike (fun wrapper => ?_) keeps
  exact congrArg (fun engine => { wrapper with engine := engine }) (commutes wrapper.engine)

theorem setState_alike : Exec.Corresponds paged.Stopped (paged.Alike state lent counters)
    (paged.Alike stateAfter lent counters) (· = ·) (Exec.setState paged.handle stateAfter)
    (Exec.setState paged.handle stateAfter) :=
  modifyWrapper_alike (fun _ => rfl) fun _ employs => { employs with state := rfl }

theorem get_set_counter (registers : Registers) (number : RegisterNumber) (value : UInt32) :
    (registers.set number value).get pc = if number = pc then value else registers.get pc := by
  show (registers.set number value)[pc.val] = if number = pc then value else registers[pc.val]
  rw [Vector.getElem_set]
  simp only [Fin.ext_iff]

/-- Writing a register may lead to another program counter. -/
theorem writeRegister_alike {number : RegisterNumber} {value : UInt32}
    (counts : ∀ counter, counters counter → countersAfter (if number = pc then value else counter)) :
    Exec.Corresponds paged.Stopped (paged.Alike state lent counters)
      (paged.Alike state lent countersAfter) (· = ·)
      (Stepping.writeRegister paged.handle number value)
      (Stepping.writeRegister paged.handle number value) :=
  modifyEngine_alike (fun _ => rfl) fun wrapper employs =>
    { employs with
      counter := by
        unfold Engine.withRegister
        rw [get_set_counter]
        exact counts _ employs.counter }

theorem clearHalt_alike : paged.EndAlike state lent counters (· = ·)
    (Exec.modifyEngine paged.handle fun engine => { engine with haltRequested := false })
    (Exec.modifyEngine paged.handle fun engine => { engine with haltRequested := false }) :=
  modifyEngine_alike (fun _ => rfl) fun _ employs => { employs with }

end

end PagedEngine

end RecompilerAdapter
