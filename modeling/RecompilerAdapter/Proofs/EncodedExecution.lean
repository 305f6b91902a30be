/-
Module: RecompilerAdapter.Proofs.EncodedExecution
Purpose: The execution of encoded words. When a stepping engine has fetched a word that an encoder wrote,
  its own events tell what it does: which entry it calls, with which operands, how often it calls what the
  entry has answered, and with which words. The registers tell the rest.
Trusted boundary: none
Main exports: WireCompiled.deferred?, Stepping.Consulted, Stepping.Ends, Stepping.Transfers,
  Stepping.EncodedExecution, Stepping.step_ensures
-/
import RecompilerAdapter.Proofs.InstructionEffects
import RecompilerAdapter.Proofs.StepOutcomes

namespace RecompilerAdapter

variable {σ ν F : Type} {world ready fetched asked after : World σ ν} {handle : Handle}
  {wrapper : Wrapper σ ν} {bound : Nat} {address word : UInt32}

/-! ### What an answer provides -/

namespace WireCompiled

/-- The deferred operation that an answer holds, as the coprocessor has supplied it, that is, not
yet bound to a handle. -/
def deferred? : WireCompiled F → Option (RawCallback F)
  | operation (.present raw) => some raw
  | oneWord (.callback raw) => some raw
  | twoWords (.callback raw) => some raw
  | _ => none

/-- The cells that an answer grants, that of the low word first. An answer grants cells or holds an
operation, never both. -/
def cells : WireCompiled F → List Location
  | oneWord (.access location) => [location]
  | twoWords (.access (low, high)) => [low, high]
  | _ => []

theorem callback?_decode (wire : WireCompiled F) (handle : Handle) :
    Scripted.callback? (wire.decode handle) = wire.deferred?.map fun raw => raw.bind handle := by
  cases wire with
  | operation answer | oneWord answer | twoWords answer => cases answer <;> rfl

theorem locations_decode (wire : WireCompiled F) (handle : Handle) :
    Scripted.locations (wire.decode handle) = wire.cells := by
  cases wire with
  | operation answer | oneWord answer | twoWords answer => cases answer <;> rfl

/-- An answer that provides neither an operation nor cells tells that the instruction is not
supported. -/
theorem report_unsupported {wire : WireCompiled F} (noOperation : wire.deferred? = none)
    (noCells : wire.cells = []) : wire.report = .unsupported := by
  cases wire with
  | operation answer =>
    cases answer with
    | absent => rfl
    | present raw => cases noOperation
  | oneWord answer | twoWords answer =>
    cases answer with
    | absent => rfl
    | callback raw => cases noOperation
    | access granted => cases noCells

end WireCompiled

namespace Assembly

/-- What a register holds when the instruction has received a low and a high word. In a register
that is to hold both, the high word stays. -/
def received (low high : UInt32) (registers : Registers) (number : RegisterNumber) : Assembly → UInt32
  | mrc _ _ rt _ _ _ => if number = rt then low else registers.get number
  | mrrc _ _ rt rt2 _ =>
    if number = rt2 then high else if number = rt then low else registers.get number
  | _ => registers.get number

theorem received_instruction (low high : UInt32) (registers : Registers) (number : RegisterNumber)
    (assembly : Assembly) (second : Bool) :
    (assembly.instruction second).received low high registers number =
      assembly.received low high registers number := by
  cases assembly <;> rfl

/-- The words that the decoded instruction hands over are those that the encoder has named. -/
theorem operands_instruction (registers : Registers) (assembly : Assembly) (second : Bool) :
    (assembly.instruction second).operands registers = assembly.arguments registers := by
  cases assembly <;> rfl

end Assembly

/-! ### Calls of an engine -/

namespace Stepping

/-- A host has been asked. On its own behalf the engine tells of the request and of its answer; the
entry for the request was carried out once, with the wrapper's handle, while the callbacks were lent
out, and what it has left of the world is there afterwards. -/
structure Asked (bound : Nat) (handle : Handle) (request : HostRequest) (answer : request.Answer)
    (world : World σ ν) (wrapper : Wrapper σ ν) (after : World σ ν) (events : List (Event ν)) : Prop where
  answered : ∃ entry inner,
    wrapper.engine.configuration.callbacks.table.entry? request = some entry ∧
      (entry handle).exec (perform bound)
        ((world.place handle (wrapper.lend [.callbacks])).recordAll
          [.calling wrapper.slot request true, .requested handle request]) = .ok answer inner ∧
      AlikeBeyond handle inner after
  own : events.filter (Event.belongs (.plain (σ := σ) handle wrapper.slot)) =
    [.calling wrapper.slot request true, .requested handle request,
      .answered handle request (request.report answer)]
  history : after.history = world.history ++ events
  attends : Attends after handle (wrapper.replay handle events)

theorem ask_asked (attends : Attends world handle wrapper) (idle : wrapper.Idle)
    {request : HostRequest} {entry : Handle → Activity σ ν request.Answer}
    (served : wrapper.engine.configuration.callbacks.table.entry? request = some entry) :
    (ask (perform bound) handle request).Ensures world
      (fun answer after => ∃ events, Asked bound handle request answer world wrapper after events)
      fun _ _ => True := by
  apply (ask_ensures attends idle served Exec.Ensures.any.remember).mono
  · rintro answer after ⟨inner, inside, ⟨runs, -⟩, -, left, called⟩
    have visited := called.visited (fun _ => rfl) fun _ => rfl
    refine ⟨_, ⟨entry, inner, served, runs, left⟩, ?_, visited.history, visited.attends⟩
    rw [called.work]
    simp [Event.belongs, Belongings.plain]
  · intro _ _ _
    trivial

/-- A coprocessor has been asked for an instruction. On its own behalf the engine tells of the
request and of its answer; the one entry for the request was carried out once, and what it has left
of the world is there afterwards. -/
structure Consulted (bound : Nat) (handle : Handle) (bridge : CoprocessorBridge σ ν)
    (request : CompileRequest) (wire : WireCompiled (DeferredFunction σ ν)) (world : World σ ν)
    (wrapper : Wrapper σ ν) (after : World σ ν) (events : List (Event ν)) : Prop where
  answered : ∃ inner, (bridge.table.answer request).exec (perform bound)
    ((world.place handle (wrapper.lend [.coprocessors])).record
      (.compiling wrapper.slot bridge.index bridge.table.context request)) = .ok wire inner ∧
      AlikeBeyond handle inner after
  own : events.filter (Event.belongs (.plain (σ := σ) handle wrapper.slot)) =
    [.compiling wrapper.slot bridge.index bridge.table.context request,
      .compiled wrapper.slot bridge.index bridge.table.context request wire.report]
  history : after.history = world.history ++ events
  attends : Attends after handle (wrapper.replay handle events)

/-- The engine consults the coprocessor in the slot, and no other. If the entry keeps the registers,
they are afterwards what they were when the instruction was fetched. -/
theorem withCoprocessor_consulted (attends : Attends world handle wrapper) (idle : wrapper.Idle)
    {slot : Fin 16} {bridge : CoprocessorBridge σ ν}
    (populated : wrapper.engine.configuration.coprocessors[slot] = some bridge)
    {request : CompileRequest}
    (keeps : (bridge.table.answer request).KeepsRegisters (perform bound) handle) :
    (withCoprocessor handle slot fun bridge => bridge.compile (perform bound) request).Ensures world
      (fun compiled after => ∃ wire events, compiled = some (wire.decode handle) ∧
        wire.Answers request ∧ Consulted bound handle bridge request wire world wrapper after events ∧
        (wrapper.replay handle events).engine.registers = wrapper.engine.registers)
      fun _ _ => True := by
  apply (withCoprocessor_ensures attends idle populated Exec.Ensures.any.remember).mono
  · rintro _ after ⟨wire, inner, inside, rfl, ⟨runs, -⟩, left, called⟩
    have visited := called.visited (fun _ => rfl) fun _ => rfl
    refine ⟨wire, _, rfl, bridge.table.answers runs,
      ⟨⟨inner, runs, left⟩, ?_, visited.history, visited.attends⟩, ?_⟩
    · rw [called.work]
      simp [Event.belongs, Belongings.plain]
    · have opens (told : List (Event ν)) (rest : Event ν) (none : ∀ engine : Engine σ ν,
          engine.afterEvent handle rest = engine) :
          wrapper.replay handle (told ++ [rest]) = wrapper.replay handle told := by
        simp [Wrapper.replay, none]
      rw [opens _ _ fun _ => rfl]
      exact called.registers keeps
  · intro _ _ _
    trivial

/-! ### One encoded instruction -/

/-- How an instruction that an assembler wrote for a coprocessor ends when its entry has answered.
`asked` is the world in which it has, `registers` are those from before the instruction, and
`calling` is what happens from there on. A deferred operation is called once, with the words that
the encoder has named and from the world in which the engine has just told of the call, and the
cells stay as it leaves them; cells that are granted are accessed without any call; and an
instruction that is not supported is reported where it stands. -/
inductive Ends (bound : Nat) (handle : Handle) (address : UInt32) (registers : Registers)
    (assembly : Assembly) (second : Bool) (asked : World σ ν) (amid : Wrapper σ ν) (after : World σ ν)
    (later : Wrapper σ ν) (calling : List (Event ν)) :
    WireCompiled (DeferredFunction σ ν) → (done : Bool) → Prop where
  | deferred {wire : WireCompiled (DeferredFunction σ ν)} {raw : RawCallback (DeferredFunction σ ν)}
      {value : UInt64} {left : World σ ν}
      (holds : wire.deferred? = some raw)
      (own : calling.filter (Event.belongs (.plain (σ := σ) handle amid.slot)) =
        [.invoked handle raw.userArgument (assembly.arguments registers).1
          (assembly.arguments registers).2])
      (called : (raw.function handle raw.userArgument (assembly.arguments registers).1
          (assembly.arguments registers).2).exec (perform bound)
        (asked.record (.invoked handle raw.userArgument (assembly.arguments registers).1
          (assembly.arguments registers).2)) = .ok value left)
      (cells : after.shared.words = left.shared.words)
      (receives : ∀ number, later.engine.registers.get number =
        if number = pc then address + 4
        else assembly.received value.toUInt32 (value >>> 32).toUInt32
          (amid.replay handle calling).engine.registers number) :
      Ends bound handle address registers assembly second asked amid after later calling wire true
  | granted {wire : WireCompiled (DeferredFunction σ ν)} {first : Location}
      {other : Option Location}
      (grants : wire.cells = first :: other.toList)
      (own : calling.filter (Event.belongs (.plain (σ := σ) handle amid.slot)) = [])
      (stores : ∀ cell, after.shared.words.load cell =
        (assembly.instruction second).stored registers asked.shared.words first other cell)
      (receives : ∀ number, later.engine.registers.get number =
        if number = pc then address + 4
        else assembly.received (asked.shared.words.load first)
          ((other.map asked.shared.words.load).getD 0)
          (amid.replay handle calling).engine.registers number) :
      Ends bound handle address registers assembly second asked amid after later calling wire true
  | unsupported {wire : WireCompiled (DeferredFunction σ ν)}
      (refuses : wire.report = .unsupported)
      (reports : Asked bound handle (.exceptionRaised address .undefinedInstruction) () asked amid after
        calling)
      (stays : later = amid.replay handle calling) :
      Ends bound handle address registers assembly second asked amid after later calling wire false

/-- An engine has executed an instruction that an assembler wrote for a coprocessor. It has called
one entry of the table in the instruction's slot, the one for the encoder's request, and then done
with the answer what the instruction says. -/
structure Transfers (bound : Nat) (handle : Handle) (address : UInt32) (bridge : CoprocessorBridge σ ν)
    (assembly : Assembly) (second : Bool) (ready : World σ ν) (wrapper : Wrapper σ ν)
    (wire : WireCompiled (DeferredFunction σ ν)) (asked after : World σ ν) (later : Wrapper σ ν)
    (compiling calling : List (Event ν)) (done : Bool) : Prop where
  consulted : Consulted bound handle bridge (assembly.request second) wire ready wrapper asked compiling
  ends : Ends bound handle address wrapper.engine.registers assembly second asked
    (wrapper.replay handle compiling) after later calling wire done
  history : after.history = ready.history ++ (compiling ++ calling)
  present : after.wrappers.get? handle = some later

/-- An instruction that an assembler wrote, from the consultation to its end. The three ways to end
are those of the answer: an operation, cells, or neither. -/
theorem execute_transfers (attends : Attends ready handle wrapper) (idle : wrapper.Idle)
    (address : UInt32) {assembly : Assembly} {second : Bool} {bridge : CoprocessorBridge σ ν}
    (populated : wrapper.engine.configuration.coprocessors[assembly.slot] = some bridge)
    (keeps : (bridge.table.answer (assembly.request second)).KeepsRegisters (perform bound) handle) :
    (execute (perform bound) handle address
        (.coprocessor assembly.slot (assembly.instruction second))).Ensures ready
      (fun done after => ∃ wire asked later compiling calling, Transfers bound handle address bridge
        assembly second ready wrapper wire asked after later compiling calling done)
      fun _ _ => True := by
  rw [execute_coprocessor, Assembly.request_instruction]
  apply Exec.Ensures.bind (withCoprocessor_consulted attends idle populated keeps)
  rintro _ asked ⟨wire, compiling, rfl, answers, consulted, kept⟩
  have slot : (wrapper.replay handle compiling).slot = wrapper.slot := by
    rw [Wrapper.slot, Wrapper.replay_configuration, Wrapper.slot]
  rw [← Assembly.request_instruction] at answers
  apply Exec.Ensures.bind (useCompiled_uses consulted.attends (assembly.instruction second) answers)
  rintro done used ⟨refused, applied⟩
  -- An operation that is deferred, and cells that are granted, conclude the instruction. Only an
  -- answer that holds neither is refused.
  cases done with
  | false =>
    obtain ⟨rfl, noOperation, noCells⟩ := refused rfl
    rw [wire.callback?_decode, Option.map_eq_none_iff] at noOperation
    rw [wire.locations_decode] at noCells
    have refuses := WireCompiled.report_unsupported noOperation noCells
    apply Exec.Ensures.bind (ask_asked consulted.attends (idle.replay compiling) rfl)
    rintro _ after ⟨calling, reported⟩
    refine ⟨wire, used, _, compiling, calling, consulted, .unsupported refuses reported rfl, ?_,
      reported.attends.present⟩
    rw [reported.history, consulted.history, List.append_assoc]
  | true =>
    obtain ⟨low, high, calling, applied⟩ := applied rfl
    apply Exec.Ensures.after (writeRegister_of_attends applied.attends pc (address + 4))
    refine ⟨wire, asked, (((wrapper.replay handle compiling).replay handle calling).receive
      (assembly.instruction second) low high).advance (address + 4), compiling, calling, consulted, ?_,
      ?_, (advance_attends applied.attends (address + 4)).present⟩
    · have calls := applied.calls
      have receives (number : RegisterNumber) :
          ((((wrapper.replay handle compiling).replay handle calling).receive
            (assembly.instruction second) low high).advance (address + 4)).engine.registers.get number =
          if number = pc then address + 4
          else assembly.received low high
            ((wrapper.replay handle compiling).replay handle calling).engine.registers number := by
        rw [Wrapper.advance, Engine.withRegister_get, Wrapper.receive,
          CoprocessorInstruction.receive_get, Assembly.received_instruction]
      have provides := applied.provides
      rw [kept] at calls provides
      rw [Assembly.operands_instruction] at calls
      -- The engine's own description of an answer is turned into what the coprocessor has supplied:
      -- its cells, or the raw operation with its argument.
      cases provides with
      | granted grants cells =>
        rw [Scripted.callback?_of_locations grants] at calls
        rw [wire.locations_decode] at grants
        exact .granted grants calls cells receives
      | @deferred callback value answered defers runs cells =>
        rw [Assembly.operands_instruction] at runs
        rw [defers] at calls
        rw [wire.callback?_decode, Option.map_eq_some_iff] at defers
        obtain ⟨raw, holds, rfl⟩ := defers
        rw [Callback.run, Exec.bind_of_ok (Exec.emit_apply _ _)] at runs
        exact .deferred holds calls runs cells receives
    · rw [World.history_place, applied.history, consulted.history, List.append_assoc]

/-! ### One step -/

/-- A step executes the word that it fetches. -/
theorem step_of_fetch (attends : Attends world handle wrapper)
    (fetches : fetch (perform bound) handle (wrapper.engine.registers.get pc) world = .ok word fetched) :
    step (perform bound) handle world =
      execute (perform bound) handle (wrapper.engine.registers.get pc) (Instruction.decode word)
        (fetched.record (.fetched handle (wrapper.engine.registers.get pc) word)) := by
  rw [step, Exec.bind_of_ok (readRegister_of_present attends.present pc)]
  exact (Exec.bind_of_ok fetches).trans (Exec.bind_of_ok (Exec.emit_apply _ _))

/-- What the execution of the word ensures the step does, and nothing but a callback cuts it off. -/
theorem step_ensures (attends : Attends world handle wrapper) (idle : wrapper.Idle)
    (fetches : fetch (perform bound) handle (wrapper.engine.registers.get pc) world = .ok word fetched)
    {completed : Bool → World σ ν → Prop}
    (executes : (execute (perform bound) handle (wrapper.engine.registers.get pc)
      (Instruction.decode word)).Ensures
        (fetched.record (.fetched handle (wrapper.engine.registers.get pc) word)) completed
        fun _ _ => True) :
    (step (perform bound) handle).Ensures world completed
      (StopsInCallback bound handle wrapper.engine.configuration) := by
  have same : (step (perform bound) handle).Ensures world completed fun _ _ => True := by
    unfold Exec.Ensures
    rw [step_of_fetch attends fetches]
    exact executes
  apply (same.and (step_stopsInCallback bound attends idle)).mono
  · intro done after holds
    exact holds.1
  · intro stop after holds
    exact holds.2

/-- Encoders, decoder and bridges agree. An engine whose step fetches a word that an encoder wrote
executes the encoder's instruction. The registers that it hands over are those right after the
fetch, which are those from before the step unless the actions on the wrapper that `reading` tells
have written them. -/
structure EncodedExecution (bound : Nat) (handle : Handle) (world : World σ ν) (wrapper : Wrapper σ ν)
    (word : UInt32) (fetched : World σ ν) (amid : Wrapper σ ν) (reading : List (Event ν)) : Prop where
  history : fetched.history = world.history ++ reading
  present : fetched.wrappers.get? handle = some amid
  reads : amid = wrapper.replay handle reading
  /-- For a coprocessor it makes one call of the entry for the encoder's request, on the table in
  the encoded slot and in the form that was encoded, and one call of a deferred operation if the
  entry answers with one. -/
  coprocessor : ∀ assembly second bridge, word = Assembly.encode assembly second →
    wrapper.engine.configuration.coprocessors[assembly.slot] = some bridge →
    (bridge.table.answer (assembly.request second)).KeepsRegisters (perform bound) handle →
    (step (perform bound) handle).Ensures world
      (fun done after => ∃ wire asked later compiling calling, Transfers bound handle
        (wrapper.engine.registers.get pc) bridge assembly second
        (fetched.record (.fetched handle (wrapper.engine.registers.get pc) word)) amid wire asked after
        later compiling calling done)
      (StopsInCallback bound handle wrapper.engine.configuration)
  /-- A supervisor call reports the low 24 bits of its number once; the program counter has moved on
  by then. -/
  supervisorCall : ∀ number, word = Encoding.supervisorCall number →
    (step (perform bound) handle).Ensures world
      (fun done after => done = true ∧ ∃ calling,
        Asked bound handle (.supervisorCall (number % 0x1000000)) ()
          ((fetched.record (.fetched handle (wrapper.engine.registers.get pc) word)).place handle
            (amid.advance (wrapper.engine.registers.get pc + 4)))
          (amid.advance (wrapper.engine.registers.get pc + 4)) after calling)
      (StopsInCallback bound handle wrapper.engine.configuration)
  /-- A branch counts its words from the address eight bytes ahead, and does nothing else. -/
  branch : ∀ offsetWords : Int32, word = Encoding.branch offsetWords →
    step (perform bound) handle world = .ok true
      ((fetched.record (.fetched handle (wrapper.engine.registers.get pc) word)).place handle
        (amid.advance (wrapper.engine.registers.get pc + 8 +
          UInt32.ofInt (4 * offsetWords.toInt.bmod (2 ^ 24)))))
  /-- Supervisor calls and branches have no second form; it is reported as undefined, once. -/
  undefined : (∃ number, word = Encoding.second (Encoding.supervisorCall number)) ∨
      (∃ offsetWords, word = Encoding.second (Encoding.branch offsetWords)) →
    (step (perform bound) handle).Ensures world
      (fun done after => done = false ∧ ∃ calling, Asked bound handle
        (.exceptionRaised (wrapper.engine.registers.get pc) .undefinedInstruction) ()
        (fetched.record (.fetched handle (wrapper.engine.registers.get pc) word)) amid after calling)
      (StopsInCallback bound handle wrapper.engine.configuration)

/-- The second form of a supervisor call or of a branch means nothing. -/
theorem decode_second_trap
    (isTrap : (∃ number, word = Encoding.second (Encoding.supervisorCall number)) ∨
      ∃ offsetWords, word = Encoding.second (Encoding.branch offsetWords)) :
    Instruction.decode word = .undefined := by
  rcases isTrap with ⟨number, rfl⟩ | ⟨offsetWords, rfl⟩
  · exact Instruction.decode_second (.inr (Instruction.fields_supervisorCall number).2.1)
  · exact Instruction.decode_second (.inl (Instruction.fields_branch offsetWords).2.1)

/-- Whatever a step fetches in a run of an idle engine, it executes as the encoder of the word meant
it. The words that no encoder wrote are not mentioned; for them nothing has to hold. -/
theorem encodedExecution (bound : Nat) (attends : Attends world handle wrapper) (idle : wrapper.Idle)
    (fetches : fetch (perform bound) handle (wrapper.engine.registers.get pc) world = .ok word fetched) :
    ∃ amid reading, EncodedExecution bound handle world wrapper word fetched amid reading := by
  obtain ⟨reading, visited⟩ := (fetch_visits attends idle _).of_completed fetches
  have told := visited.attends.record (.fetched handle (wrapper.engine.registers.get pc) word)
  have stillIdle : (wrapper.replay handle reading).Idle := idle.replay reading
  refine ⟨wrapper.replay handle reading, reading, ?_⟩
  constructor
  case history => exact visited.history
  case present => exact visited.attends.present
  case reads => rfl
  case coprocessor =>
    intro assembly second bridge isWord populated keeps
    apply step_ensures attends idle fetches
    rw [isWord, Assembly.decode_encode, ← isWord]
    rw [← Wrapper.replay_configuration reading] at populated
    exact execute_transfers told stillIdle _ populated keeps
  case supervisorCall =>
    intro number isWord
    apply step_ensures attends idle fetches
    rw [isWord, Instruction.decode_encode_supervisorCall, ← isWord]
    apply Exec.Ensures.after (writeRegister_of_attends told pc _)
    have moved := advance_attends told (wrapper.engine.registers.get pc + 4)
    apply Exec.Ensures.bind (ask_asked moved stillIdle rfl)
    rintro _ after asked
    exact ⟨rfl, asked⟩
  case branch =>
    intro offsetWords isWord
    rw [step_of_fetch attends fetches, isWord, Instruction.decode_encode_branch, ← isWord]
    exact Exec.bind_of_ok (writeRegister_of_attends told pc _)
  case undefined =>
    intro isTrap
    apply step_ensures attends idle fetches
    rw [decode_second_trap isTrap]
    apply Exec.Ensures.bind (ask_asked told stillIdle rfl)
    rintro _ after asked
    exact ⟨rfl, asked⟩

/-! ### An engine at a transfer of one word -/

/-- A coprocessor that defers transfers of one word to it. -/
def Lone.deferring : HostCoprocessor Unit Unit where
  sendOneWord _ _ _ _ _ _ := pure (.callback ⟨fun _ _ _ _ => pure 0, 77⟩)

/-- The engine is at the second form of an instruction. -/
def Lone.atInstruction (assembly : Assembly) : World Unit Unit :=
  Lone.world (fun _ => assembly.encode true) Lone.deferring

/-- The engine has fetched the instruction. -/
def Lone.arrived (assembly : Assembly) : World Unit Unit :=
  Exec.finalWorld (fetch (RecompilerAdapter.perform 0) Lone.worker 0) (Lone.atInstruction assembly)

theorem Lone.keepsRegisters (two : Bool) (opc1 : UInt32) (crn crm : CoprocessorRegister) (opc2 : UInt32) :
    ((Lone.bridge Lone.deferring).table.answer (.sendOneWord two opc1 crn crm opc2)).KeepsRegisters
      (RecompilerAdapter.perform 0) Lone.worker := by
  intro world after before later answer present completes found
  cases completes
  rw [present] at found
  cases found
  rfl

/-- The coprocessor answers with an operation, which is called with the word in the register that is
named in the instruction. -/
theorem encodedExecution_transfer :
    let transfer := Assembly.mcr 3 5 14 1 7 6
    let start := Lone.atInstruction transfer
    let stepping := Lone.wrapper (fun _ => transfer.encode true) Lone.deferring
    ∃ fetched amid reading after wire asked later compiling calling,
      fetch (RecompilerAdapter.perform 0) Lone.worker 0 start = .ok (transfer.encode true) fetched ∧
      EncodedExecution 0 Lone.worker start stepping (transfer.encode true) fetched amid reading ∧
      step (RecompilerAdapter.perform 0) Lone.worker start = .ok true after ∧
      Transfers 0 Lone.worker 0 (Lone.bridge Lone.deferring) transfer true
        (fetched.record (.fetched Lone.worker 0 (transfer.encode true))) amid wire asked after later
        compiling calling true ∧
      after.history.filter (Event.isEffect Lone.worker) = [.invoked Lone.worker 77 0xABCD 0] := by
  intro transfer start stepping
  have attends : Attends start Lone.worker stepping := Lone.attends _ Lone.deferring
  have fetches : fetch (RecompilerAdapter.perform 0) Lone.worker 0 start =
      .ok (transfer.encode true) (Lone.arrived transfer) := rfl
  have completes : step (RecompilerAdapter.perform 0) Lone.worker start =
      .ok true (Exec.finalWorld (step (RecompilerAdapter.perform 0) Lone.worker) start) :=
    Exec.eq_of_yields (by decide +kernel)
  obtain ⟨amid, reading, executes⟩ := encodedExecution 0 attends rfl fetches
  obtain ⟨wire, asked, later, compiling, calling, transfers⟩ :=
    (executes.coprocessor transfer true (Lone.bridge Lone.deferring) rfl rfl
      (Lone.keepsRegisters true 5 1 7 6)).of_completed completes
  exact ⟨_, amid, reading, _, wire, asked, later, compiling, calling, fetches, executes, completes,
    transfers, by decide +kernel⟩

end Stepping

end RecompilerAdapter
