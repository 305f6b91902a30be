/-
Module: RecompilerAdapter.Proofs.StepOutcomes
Purpose: The outcome of a step. A step that its callbacks do not stop either completes or reports an
  undefined instruction. Which of the two it is depends on the class of the fetched word and on the answer
  of its coprocessor alone, and a step that reports has done nothing before but fetch and compile.
Trusted boundary: none
Main exports: Stepping.Declined, Stepping.Reported, Stepping.Completed, Stepping.Outcome,
  Service.Executed.verdict
-/
import RecompilerAdapter.Proofs.InstructionClasses
import RecompilerAdapter.Proofs.SessionCoherence
import RecompilerAdapter.Proofs.StepCourses

namespace RecompilerAdapter

variable {σ ν α : Type} {world fetched after : World σ ν} {wrapper later : Wrapper σ ν}
  {handle : Handle} {bound : Nat} {address word : UInt32} {events own : List (Event ν)}

/-- In every world that a session reaches, each wrapper is installed behind its handle. Slots and
handles are its own, so the callbacks of others do not get at it except by actions. -/
theorem Coherent.installed {candidate : Option HandleSlot} (coherent : Coherent candidate world)
    (present : world.wrappers.get? handle = some wrapper) : Installed world handle wrapper where
  present := present
  slot := (coherent.slots _ handle).2 ⟨wrapper.userData, coherent.own handle wrapper present⟩
  bridges := coherent.shared handle wrapper present
  beside := by
    have sole (slot : HandleSlot) (isBound : world.slots.get? slot = some handle) :
        slot = wrapper.slot := by
      obtain ⟨data, attached⟩ := (coherent.slots slot handle).1 isBound
      exact (coherent.once _ _ handle _ _ attached (coherent.own handle wrapper present)).1
    have elsewhere {other : Handle} {found : Wrapper σ ν} (different : other ≠ handle)
        (isFound : world.wrappers.get? other = some found) : found.slot ≠ wrapper.slot := by
      intro same
      have isBound := (coherent.slots _ other).2 ⟨found.userData, coherent.own other found isFound⟩
      have isBoundHere := (coherent.slots _ handle).2
        ⟨wrapper.userData, coherent.own handle wrapper present⟩
      rw [show found.engine.configuration.callbacks.slot = wrapper.slot from same, Wrapper.slot,
        isBoundHere] at isBound
      exact different (Option.some.inj isBound).symm
    refine ⟨sole, fun other found different isFound => ⟨⟨elsewhere different isFound, ?_, ?_⟩, ?_⟩⟩
    · intro request entry target isOther served
      exact Activity.avoids_plain (fun _ => trivial) _
    · intro bridge employed
      refine ⟨?_, fun request => Activity.avoids_plain ?_ _⟩
      · rw [coherent.shared other found isFound bridge employed]
        exact elsewhere different isFound
      · intro wire target isOther
        refine ⟨fun callback holds => ⟨?_, fun _ _ => Activity.avoids_plain (fun _ => trivial) _⟩,
          fun _ _ _ _ => rfl⟩
        rw [WireCompiled.handle_of_callback? holds]
        exact isOther
    · intro compiled remembered
      refine ⟨fun callback holds => ⟨?_, fun _ _ => Activity.avoids_plain (fun _ => trivial) _⟩,
        fun _ _ _ _ => rfl⟩
      rw [(coherent.remembers other found compiled callback isFound remembered holds).1]
      exact different

/-! ### Callbacks of a step -/

namespace Stepping

/-- What an engine may call while it executes an instruction: an entry of its callback table, a
compile entry, or a deferred operation that a compile entry has answered. -/
inductive Calls (bound : Nat) (handle : Handle) (configuration : EngineConfiguration σ ν) :
    {α : Type} → Activity σ ν α → Prop where
  | entry {request : HostRequest} {entry : Handle → Activity σ ν request.Answer}
      (guest : Guest request) (served : configuration.callbacks.table.entry? request = some entry) :
      Calls bound handle configuration (entry handle)
  | compile {bridge : CoprocessorBridge σ ν} (employed : some bridge ∈ configuration.coprocessors)
      (request : CompileRequest) : Calls bound handle configuration (bridge.table.answer request)
  | deferred {bridge : CoprocessorBridge σ ν} {request : CompileRequest}
      {wire : WireCompiled (DeferredFunction σ ν)} {callback : Callback (DeferredFunction σ ν)}
      {before after : World σ ν} (employed : some bridge ∈ configuration.coprocessors)
      (answered : (bridge.table.answer request).exec (perform bound) before = .ok wire after)
      (holds : Scripted.callback? (wire.decode handle) = some callback) (first second : UInt32) :
      Calls bound handle configuration (callback.call first second)

/-- A callback has stopped everything, from some world on. Which callbacks there are is left to the
engine's configuration; one of them has to be named. -/
def StopsInCallback (bound : Nat) (handle : Handle) (configuration : EngineConfiguration σ ν)
    (stop : Stop) (after : World σ ν) : Prop :=
  ∃ (α : Type) (body : Activity σ ν α) (before : World σ ν), Calls bound handle configuration body ∧
    body.exec (perform bound) before = .error stop after

/-- Steps under no other circumstances than that a callback may stop everything. -/
def service (bound : Nat) (handle : Handle) (configuration : EngineConfiguration σ ν) : Service σ ν where
  bound := bound
  handle := handle
  configuration := configuration
  ready _ := True
  stopped := StopsInCallback bound handle configuration

theorem Calls.returns {configuration : EngineConfiguration σ ν} {body : Activity σ ν α}
    (calls : Calls bound handle configuration body) {answers : α → Prop}
    (answered : ∀ answer before after, body.exec (perform bound) before = .ok answer after →
      answers answer) :
    (service bound handle configuration).Returns body answers := by
  intro before wrapper isOpen
  show Exec.Ensures (body.exec (perform bound)) before _ _
  unfold Exec.Ensures
  cases ends : body.exec (perform bound) before with
  | ok answer after => exact ⟨trivial, answered answer before after ends⟩
  | error stop after => exact ⟨α, body, before, calls, ends⟩

/-- No assumption is made about the worlds that callbacks leave behind, so callbacks that return at
all keep the service going. -/
theorem conducted (bound : Nat) (handle : Handle) (configuration : EngineConfiguration σ ν) :
    (service bound handle configuration).Conducted where
  alike _ _ _ _ := trivial
  entries request entry guest served := by
    exact (Calls.entry guest served).returns fun _ _ _ _ => trivial
  compiles bridge request employed := by
    refine (Calls.compile employed request).returns ?_
    intro wire before after answered callback holds first second
    exact (Calls.deferred employed answered holds first second).returns fun _ _ _ _ => trivial

end Stepping

/-! ### What an engine tells of a step -/

/-- A call by which an instruction takes effect on behalf of the wrapper behind a handle: a
supervisor call, an exception, or a deferred operation. -/
def Event.isEffect (handle : Handle) : Event ν → Bool
  | requested target (.supervisorCall _) => decide (target = handle)
  | requested target (.exceptionRaised ..) => decide (target = handle)
  | invoked target _ _ _ => decide (target = handle)
  | _ => false

theorem Event.belongs_of_isEffect {slot : HandleSlot} {event : Event ν}
    (effect : event.isEffect handle = true) :
    event.belongs (.plain (σ := σ) handle slot) = true := by
  unfold isEffect at effect
  split at effect
  · exact effect
  · exact effect
  · exact effect
  · cases effect

namespace Service

variable {service : Service σ ν}

/-- What the engine does on its own behalf is told among its own events. -/
theorem Course.mem_iff (course : service.Course world wrapper after later events own)
    (rests : service.Rests world wrapper) {event : Event ν}
    (belongs : event.belongs (.plain (σ := σ) service.handle service.configuration.callbacks.slot) =
      true) : event ∈ events ↔ event ∈ own := by
  rw [← rests.slot] at belongs
  rw [← course.work, List.mem_filter, and_iff_left belongs]

theorem Course.effects (course : service.Course world wrapper after later events own) :
    events.filter (Event.isEffect service.handle) = own.filter (Event.isEffect service.handle) :=
  course.filter_eq fun _ => Event.belongs_of_isEffect

theorem Fetched.effects {fetching : List (Event ν)} (fetched : service.Fetched address word fetching) :
    (fetching ++ [Event.fetched service.handle address word] ++ own).filter
      (Event.isEffect service.handle) = own.filter (Event.isEffect service.handle) := by
  cases fetched <;> rfl

theorem Consulted.effects {slot : Fin 16} {request : CompileRequest}
    {compiled : Option (Compiled (DeferredFunction σ ν))}
    (consulted : service.Consulted slot request compiled own) :
    own.filter (Event.isEffect service.handle) = [] := by
  cases consulted <;> rfl

/-- A coprocessor instruction is refused if its slot is empty, or if the coprocessor in the slot has
told so. -/
theorem Consulted.refused_iff {slot : Fin 16} {request : CompileRequest}
    {compiled : Option (Compiled (DeferredFunction σ ν))}
    (consulted : service.Consulted slot request compiled own) :
    (compiled = none ∨ ∃ bridge index context,
        .compiled bridge index context request .unsupported ∈ own) ↔
      service.configuration.coprocessors[slot] = none ∨ ∃ bridge asked,
        service.configuration.coprocessors[slot] = some bridge ∧
          .compiled service.configuration.callbacks.slot bridge.index bridge.table.context asked
            .unsupported ∈ own := by
  cases consulted with
  | empty unpopulated => simp [unpopulated]
  | @answered bridge wire populated answers => simp [populated, eq_comm]

/-- What is neither a reading nor the word is told of the execution. -/
theorem Fetched.mem_iff {fetching : List (Event ν)} (fetched : service.Fetched address word fetching)
    {event : Event ν} (notFetched : event ≠ .fetched service.handle address word)
    (notAsked : event ∉ service.askedEvents (.read .word address) word.toBitVec) :
    event ∈ fetching ++ [.fetched service.handle address word] ++ own ↔ event ∈ own := by
  cases fetched <;> simp [notFetched, notAsked]

end Service

/-! ### Outcomes -/

namespace Stepping

open Instruction

/-- The entries for fetching and compiling write nothing that a guest sees. Without this, registers
could change while an instruction is still being looked up. -/
structure QuietEntries (bound : Nat) (handle : Handle) (configuration : EngineConfiguration σ ν) :
    Prop where
  fetching : ∀ address, (configuration.callbacks.table.read32 handle address).KeepsGuest
    (perform bound) handle
  compiling : ∀ bridge, some bridge ∈ configuration.coprocessors → ∀ request,
    (bridge.table.answer request).KeepsGuest (perform bound) handle

/-- The coprocessor that a word addresses is not there, or has answered that it does not support the
instruction. -/
def Declined (configuration : EngineConfiguration σ ν) (word : UInt32) (events : List (Event ν)) :
    Prop :=
  configuration.coprocessors[register word 8] = none ∨ ∃ bridge request,
    configuration.coprocessors[register word 8] = some bridge ∧
      .compiled configuration.callbacks.slot bridge.index bridge.table.context request .unsupported ∈
        events

/-- Whether an instruction is declined depends on compile answers only, so events of other kinds may
be added or left out. -/
theorem declined_congr {configuration : EngineConfiguration σ ν} {further : List (Event ν)}
    (same : ∀ index context request answer,
      .compiled configuration.callbacks.slot index context request answer ∈ events ↔
        .compiled configuration.callbacks.slot index context request answer ∈ further) :
    Declined configuration word events ↔ Declined configuration word further := by
  simp only [Declined, same]

/-- A step has reported the word at an address as undefined. Up to the world in which it was about
to, it had fetched the word and at most compiled it; then it made the report, once, and nothing
else. -/
structure Reported (bound : Nat) (handle : Handle) (wrapper : Wrapper σ ν) (address word : UInt32)
    (world fetched delivered after : World σ ν) (events : List (Event ν)) : Prop where
  compiled : delivered = fetched.record (.fetched handle address word) ∨ ∃ request answer,
    withCoprocessor handle (register word 8) (fun bridge => bridge.compile (perform bound) request)
      (fetched.record (.fetched handle address word)) = .ok answer delivered
  delivers : ask (perform bound) handle (.exceptionRaised address .undefinedInstruction) delivered =
    .ok () after
  sole : events.filter (Event.isEffect handle) =
    [.requested handle (.exceptionRaised address .undefinedInstruction)]
  untouched : QuietEntries bound handle wrapper.engine.configuration →
    delivered.shared.words = world.shared.words ∧ ∃ amid,
      delivered.wrappers.get? handle = some amid ∧
        amid.engine.guestState = wrapper.engine.guestState

/-- A step has completed the word at an address: no exception was reported, and the program counter
is where the word leads, unless an action has written it. -/
structure Completed (handle : Handle) (address word : UInt32) (later : Wrapper σ ν)
    (events : List (Event ν)) : Prop where
  silent : ∀ pc condition, .requested handle (.exceptionRaised pc condition) ∉ events
  counter : (∀ surface value reply, .acted surface handle (.setRegister pc value) reply ∉ events) →
    later.engine.registers.get pc =
      if IsBranch word then branchTarget address word else address + 4

/-- What a step has come to: the word at the program counter was fetched, and it was completed or
reported. -/
structure Outcome (bound : Nat) (handle : Handle) (world : World σ ν) (wrapper : Wrapper σ ν)
    (word : UInt32) (fetched after : World σ ν) (later : Wrapper σ ν) (events : List (Event ν))
    (done : Bool) : Prop where
  fetch : fetch (perform bound) handle (wrapper.engine.registers.get pc) world = .ok word fetched
  history : after.history = world.history ++ events
  present : after.wrappers.get? handle = some later
  verdict : done = false ↔ ¬ IsIdle word ∧ (IsUnmatched word ∨
    IsForCoprocessor word ∧ Declined wrapper.engine.configuration word events)
  completed : done = true → Completed handle (wrapper.engine.registers.get pc) word later events
  reported : done = false → ∃ delivered, Reported bound handle wrapper
    (wrapper.engine.registers.get pc) word world fetched delivered after events

end Stepping

open Instruction

namespace Service.Executed

variable {service : Service σ ν} {instruction : Instruction} {done : Bool}

/-- An instruction that completes has reported no exception, as far as the engine itself is
concerned. -/
theorem silent
    (executed : service.Executed address world after wrapper later events instruction true own)
    (pc : UInt32) (condition : ExceptionKind) :
    .requested service.handle (.exceptionRaised pc condition) ∉ own := by
  cases executed with
  | idle | branch => exact List.not_mem_nil
  | supervisorCall number => simp [askedEvents]
  | implemented consulted supported used =>
    cases consulted
    cases used <;> simp

/-- An instruction that does not complete has done nothing but report. -/
theorem sole
    (executed : service.Executed address world after wrapper later events instruction false own) :
    own.filter (Event.isEffect service.handle) =
      [.requested service.handle (.exceptionRaised address .undefinedInstruction)] := by
  cases executed with
  | unimplemented consults consulted =>
    rw [List.filter_append, consulted.effects]
    simp [askedEvents, Event.isEffect]
  | undefined => simp [askedEvents, Event.isEffect]

/-- Before the report there was at most the question to the coprocessor. -/
theorem reported
    (executed : service.Executed address world after wrapper later events instruction false own)
    (classified : Classified word instruction)
    (present : world.wrappers.get? service.handle = some wrapper) :
    ∃ delivered amid,
      (delivered = world ∨ ∃ request answer, Stepping.withCoprocessor service.handle (register word 8)
        (fun bridge => bridge.compile (perform service.bound) request) world = .ok answer delivered) ∧
      Stepping.ask (perform service.bound) service.handle
        (.exceptionRaised address .undefinedInstruction) delivered = .ok () after ∧
      delivered.wrappers.get? service.handle = some amid ∧
      ((∀ request, service.CompilesQuietly (register word 8) request) →
        GuestKept world wrapper delivered amid) := by
  cases executed with
  | unimplemented consults consulted refused course quiet raised =>
    cases classified
    exact ⟨_, _, .inr ⟨_, _, consults⟩, raised.delivers, course.rests.attends.present,
      fun allQuiet => quiet (allQuiet _)⟩
  | undefined raised =>
    exact ⟨world, wrapper, .inl rfl, raised.delivers, present, fun _ => ⟨rfl, rfl⟩⟩

/-- Where an instruction that completes leaves the program counter, provided that no callback wrote
it. -/
theorem counter
    (executed : service.Executed address world after wrapper later events instruction true own)
    (classified : Classified word instruction)
    (unwritten : ∀ surface value reply,
      .acted surface service.handle (.setRegister Stepping.pc value) reply ∉ events) :
    later.engine.registers.get Stepping.pc =
      if IsBranch word then branchTarget address word else address + 4 := by
  cases executed with
  | idle counter =>
    cases classified with
    | idle isIdle => rw [counter, if_neg isIdle.unmatched.1]
  | branch offset counter =>
    cases classified with
    | branch isBranch => rw [counter, if_pos isBranch, branchTarget_eq]
  | supervisorCall number counter =>
    cases classified with
    | supervisorCall isCall => rw [counter unwritten, if_neg isCall.not_branch]
  | implemented consulted supported used counter =>
    cases classified with
    | coprocessor isFor => rw [counter, if_neg isFor.not_branch]

/-- A word is reported if it is in no class, or if its coprocessor declines it. The classes exclude
each other, so each case refutes all the others. -/
theorem verdict
    (executed : service.Executed address world after wrapper later events instruction done own)
    (classified : Classified word instruction) :
    done = false ↔ ¬ IsIdle word ∧ (IsUnmatched word ∨
      IsForCoprocessor word ∧ Stepping.Declined service.configuration word own) := by
  cases classified with
  | idle isIdle =>
    cases executed
    simp [isIdle]
  | branch isBranch =>
    cases executed
    have notFor : ¬ IsForCoprocessor word := fun isFor => isFor.not_branch isBranch
    simp [IsUnmatched, isBranch, notFor]
  | supervisorCall isCall =>
    cases executed
    have notFor : ¬ IsForCoprocessor word := fun isFor => by
      have upper := isFor.2
      have kind := isCall.2
      omega
    simp [IsUnmatched, isCall, notFor]
  | coprocessor isFor instruction =>
    have notIdle : ¬ IsIdle word := fun isIdle => isIdle.unmatched.2.2 isFor
    have notUnmatched : ¬ IsUnmatched word := fun unmatched => unmatched.2.2 isFor
    simp only [notIdle, notUnmatched, isFor, not_false_eq_true, true_and, false_or]
    cases executed with
    | @implemented _ _ _ consulting more consulted supported used =>
      have accepted : ¬ Stepping.Declined service.configuration word consulting := by
        refine fun declined => ?_
        obtain ⟨⟨⟩⟩ | ⟨bridge, index, context, isMember⟩ := consulted.refused_iff.2 declined
        exact supported bridge index context isMember
      -- What happens after the entry has answered adds no further answers, so it does not matter of
      -- which events it is said.
      have same : Stepping.Declined service.configuration word (consulting ++ more) ↔
          Stepping.Declined service.configuration word consulting :=
        Stepping.declined_congr fun _ _ _ _ => by cases used <;> simp
      exact iff_of_false Bool.true_eq_false_eq_False (mt same.1 accepted)
    | @unimplemented _ _ _ consulting _ _ _ _ consults consulted refused =>
      have same : Stepping.Declined service.configuration word (consulting ++
          service.askedEvents (.exceptionRaised address .undefinedInstruction) ()) ↔
            Stepping.Declined service.configuration word consulting :=
        Stepping.declined_congr fun _ _ _ _ => by simp [askedEvents]
      exact iff_of_true rfl (same.2 (consulted.refused_iff.1 refused))
  | undefined notIdle unmatched =>
    cases executed
    simp [notIdle, unmatched]

end Service.Executed

namespace Stepping

/-- Nothing but a callback cuts a step off. -/
theorem step_stopsInCallback (bound : Nat) (attends : Attends world handle wrapper)
    (idle : wrapper.Idle) :
    (step (perform bound) handle).Ensures world (fun _ _ => True)
      (StopsInCallback bound handle wrapper.engine.configuration) := by
  have rests : (service bound handle wrapper.engine.configuration).Rests world wrapper :=
    ⟨⟨attends, rfl, trivial⟩, idle⟩
  apply ((conducted bound handle wrapper.engine.configuration).step rests rfl).mono
  · intro _ _ _
    trivial
  · intro _ _ holds
    exact holds

/-- Whatever the state of the engine, the word that it fetches and its coprocessors, a step
completes or reports an undefined instruction, unless a callback stops everything. -/
theorem stepOutcome (bound : Nat) (attends : Attends world handle wrapper) (idle : wrapper.Idle) :
    (step (perform bound) handle).Ensures world
      (fun done after => ∃ word fetched later events,
        Outcome bound handle world wrapper word fetched after later events done)
      (StopsInCallback bound handle wrapper.engine.configuration) := by
  have conducted := conducted bound handle wrapper.engine.configuration
  have rests : (service bound handle wrapper.engine.configuration).Rests world wrapper :=
    ⟨⟨attends, rfl, trivial⟩, idle⟩
  apply (conducted.step rests rfl).mono ?_ fun _ _ holds => holds
  rintro done after ⟨word, fetched, amid, later, reading, fetching, events, own, stepped⟩
  have whole := conducted.whole rests stepped
  have classified := decode_classified word
  refine ⟨word, fetched, later, _, stepped.fetch, whole.history, whole.rests.attends.present, ?_, ?_, ?_⟩
  -- The verdict is about the events of executing; in the events of the whole step only others are
  -- added, none of them an answer of a compile entry.
  · refine (stepped.executed.verdict classified).trans ?_
    refine and_congr_right fun _ => or_congr_right (and_congr_right fun _ => declined_congr ?_)
    intro index context request answer
    rw [whole.mem_iff rests (by simp [Event.belongs, Belongings.plain]),
      stepped.told.mem_iff (by simp) (by simp [Service.askedEvents])]
  · rintro rfl
    constructor
    · intro address condition
      have silent := stepped.executed.silent address condition
      rw [whole.mem_iff rests (by simp [Event.belongs, Belongings.plain, service]),
        stepped.told.mem_iff (by simp) (by simp [Service.askedEvents])]
      exact silent
    · intro unwritten
      refine stepped.executed.counter classified fun surface value reply isMember => ?_
      exact unwritten surface value reply (List.mem_append_right _ isMember)
  · rintro rfl
    obtain ⟨delivered, told, compiled, delivers, present, quiet⟩ :=
      stepped.executed.reported classified stepped.course.rests.attends.present
    refine ⟨delivered, compiled, delivers, ?_, fun quietEntries => ?_⟩
    · exact whole.effects.trans (stepped.told.effects.trans stepped.executed.sole)
    · have reading := stepped.quiet (quietEntries.fetching _)
      have compiling := quiet fun request => ⟨fun bridge populated =>
        quietEntries.compiling bridge (Vector.mem_of_getElem populated) request⟩
      exact ⟨compiling.words.trans reading.words, told, present,
        compiling.registers.trans reading.registers⟩

/-! ### An engine at an instruction that its coprocessor does not support -/

/-- The worker of the example is inside a run. -/
theorem Lone.attends (memory : UInt32 → UInt32) (device : HostCoprocessor Unit Unit) :
    Attends (Lone.world memory device) Lone.worker (Lone.wrapper memory device) := by
  refine ⟨.of_sole rfl rfl rfl rfl fun bridge employed => ?_, rfl⟩
  obtain ⟨slot, inside, populated⟩ := Vector.mem_iff_getElem.1 employed
  simp only [Lone.wrapper, Engine.stepping, Engine.withRegister, Vector.getElem_ofFn] at populated
  split at populated <;> cases populated
  rfl

/-- An answer at once writes nothing. -/
theorem keepsGuest_finish (answer : α) :
    (Activity.finish answer : Activity σ ν α).KeepsGuest (perform bound) handle := by
  intro world wrapper present
  refine .pure ⟨rfl, fun later found => ?_⟩
  rw [present] at found
  cases found
  rfl

/-- Its entries write nothing that a guest sees. -/
theorem Lone.quietEntries (memory : UInt32 → UInt32) :
    QuietEntries 0 Lone.worker (Lone.wrapper memory .unsupporting).engine.configuration where
  fetching address := keepsGuest_finish _
  compiling bridge employed request := by
    obtain ⟨slot, inside, populated⟩ := Vector.mem_iff_getElem.1 employed
    simp only [Lone.wrapper, Engine.stepping, Engine.withRegister, Vector.getElem_ofFn] at populated
    split at populated <;> cases populated
    cases request <;> exact keepsGuest_finish _

/-- The report finds everything as it was before the step. -/
theorem stepOutcome_unsupported :
    let memory := fun _ => (Assembly.mcr 3 5 14 1 7 6).encode false
    let start := Lone.world memory .unsupporting
    let stepping := Lone.wrapper memory .unsupporting
    ∃ word fetched delivered after later events amid,
      step (RecompilerAdapter.perform 0) Lone.worker start = .ok false after ∧
      Outcome 0 Lone.worker start stepping word fetched after later events false ∧
      ask (RecompilerAdapter.perform 0) Lone.worker (.exceptionRaised 0 .undefinedInstruction)
        delivered = .ok () after ∧
      delivered.wrappers.get? Lone.worker = some amid ∧
      amid.engine.guestState = stepping.engine.guestState := by
  intro memory start stepping
  have attends : Attends start Lone.worker stepping := Lone.attends memory .unsupporting
  have raises : step (RecompilerAdapter.perform 0) Lone.worker start =
      .ok false (Exec.finalWorld (step (RecompilerAdapter.perform 0) Lone.worker) start) :=
    Exec.eq_of_yields (by decide +kernel)
  obtain ⟨word, fetched, later, events, outcome⟩ := (stepOutcome 0 attends rfl).of_completed raises
  obtain ⟨delivered, reported⟩ := outcome.reported rfl
  obtain ⟨-, amid, present, kept⟩ := reported.untouched (Lone.quietEntries memory)
  exact ⟨word, fetched, delivered, _, later, events, amid, raises, outcome, reported.delivers, present,
    kept⟩

end Stepping

end RecompilerAdapter
