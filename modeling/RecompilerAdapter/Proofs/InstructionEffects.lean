/-
Module: RecompilerAdapter.Proofs.InstructionEffects
Purpose: What an instruction does to the registers. A coprocessor instruction reads its sources before its
  deferred operation is called, writes its targets afterwards and the program counter last; a supervisor
  call moves the program counter on before it is reported; an exception is reported where the program
  counter is.
Trusted boundary: none
Main exports: Stepping.Provides, Stepping.Applied, Stepping.Delivers, Stepping.Effect,
  Stepping.coprocessor_effect
-/
import RecompilerAdapter.Proofs.MirroredEngines
import RecompilerAdapter.Proofs.RegisterWrites

namespace RecompilerAdapter

variable {σ ν : Type} {world ready asked middle after : World σ ν} {handle : Handle}
  {wrapper later : Wrapper σ ν} {bound : Nat} {events : List (Event ν)}
  {low high : UInt32} {instruction : CoprocessorInstruction}

/-! ### Operands and results -/

namespace CoprocessorInstruction

/-- The words that an instruction hands over: what its sources hold, the program counter being the
instruction's own address. -/
def operands (registers : Registers) : CoprocessorInstruction → UInt32 × UInt32
  | .internalOperation .. | .getOneWord .. | .getTwoWords .. => (0, 0)
  | .sendOneWord _ _ _ _ _ source => (registers.get source, 0)
  | .sendTwoWords _ _ _ lowSource highSource =>
    (registers.get lowSource, registers.get highSource)
  | .loadWords _ _ _ _ base | .storeWords _ _ _ _ base => (registers.get base, 0)

/-- What a register holds when an instruction has received a low and a high word. In a register that
is to hold both, the high word stays. -/
def received (low high : UInt32) (registers : Registers) (number : RegisterNumber) :
    CoprocessorInstruction → UInt32
  | .getOneWord _ _ _ _ _ target => if number = target then low else registers.get number
  | .getTwoWords _ _ _ lowTarget highTarget =>
    if number = highTarget then high
    else if number = lowTarget then low
    else registers.get number
  | _ => registers.get number

/-- What a cell holds when an instruction has accessed the cells that it was granted, one or two. In
a cell that was granted twice, the high word stays. -/
def stored (registers : Registers) (words : WordStore) (first : Location) (second : Option Location)
    (cell : Location) : CoprocessorInstruction → UInt32
  | .sendOneWord _ _ _ _ _ source =>
    if cell = first then registers.get source else words.load cell
  | .sendTwoWords _ _ _ lowSource highSource =>
    if some cell = second then registers.get highSource
    else if cell = first then registers.get lowSource
    else words.load cell
  | _ => words.load cell

/-- The engine when an instruction has received a low and a high word. The low word is written
first, so of two equal targets the high word remains. -/
def receive (low high : UInt32) (engine : Engine σ ν) : CoprocessorInstruction → Engine σ ν
  | .getOneWord _ _ _ _ _ target => engine.withRegister target low
  | .getTwoWords _ _ _ lowTarget highTarget =>
    (engine.withRegister lowTarget low).withRegister highTarget high
  | _ => engine

end CoprocessorInstruction

/-- Writing a register changes that register alone. -/
theorem Engine.withRegister_get (engine : Engine σ ν) (target number : RegisterNumber)
    (value : UInt32) : (engine.withRegister target value).registers.get number =
      if number = target then value else engine.registers.get number := by
  by_cases same : number = target
  · subst same
    rw [if_pos rfl]
    exact Vector.getElem_set_self _
  · rw [if_neg same]
    exact Vector.getElem_set_ne target.isLt number.isLt fun equal => same (Fin.ext equal).symm

namespace CoprocessorInstruction

/-- The registers after an instruction has received its words, one by one. -/
theorem receive_get (instruction : CoprocessorInstruction) (engine : Engine σ ν)
    (number : RegisterNumber) : (instruction.receive low high engine).registers.get number =
      instruction.received low high engine.registers number := by
  cases instruction with
  | getOneWord | getTwoWords => simp only [receive, received, Engine.withRegister_get]
  | _ => rfl

example (registers : Registers) :
    received 1 2 registers 4 (.getTwoWords false 0 3 4 4) = 2 :=
  rfl

/-- Nothing is received but in core registers. -/
theorem receive_eq (instruction : CoprocessorInstruction) (low high : UInt32)
    (engine : Engine σ ν) :
    ∃ registers, instruction.receive low high engine = { engine with registers := registers } := by
  cases instruction <;> exact ⟨_, rfl⟩

end CoprocessorInstruction

namespace Wrapper

/-- The wrapper when its engine has received what an instruction receives. -/
def receive (instruction : CoprocessorInstruction) (low high : UInt32) (wrapper : Wrapper σ ν) :
    Wrapper σ ν :=
  { wrapper with engine := instruction.receive low high wrapper.engine }

/-- The wrapper when its engine has moved its program counter. -/
def advance (next : UInt32) (wrapper : Wrapper σ ν) : Wrapper σ ν :=
  { wrapper with engine := wrapper.engine.withRegister Stepping.pc next }

/-- Receiving words lends out nothing. -/
theorem Idle.receive (idle : wrapper.Idle) : (wrapper.receive instruction low high).Idle := by
  obtain ⟨registers, same⟩ := instruction.receive_eq low high wrapper.engine
  rw [Idle, Wrapper.receive, same]
  exact idle

/-- Moving on puts the program counter where it is to be. -/
theorem advance_counter (next : UInt32) (wrapper : Wrapper σ ν) :
    (wrapper.advance next).engine.registers.get Stepping.pc = next := by
  rw [advance, Engine.withRegister_get, if_pos rfl]

end Wrapper

/-- An answer that grants cells holds no deferred operation. -/
theorem Scripted.callback?_of_locations {F : Type} {compiled : Compiled F} {first : Location}
    {second : Option Location} (grants : Scripted.locations compiled = first :: second.toList) :
    Scripted.callback? compiled = none := by
  cases compiled with
  | operation answer => cases grants
  | oneWord answer | twoWords answer => cases answer <;> first | rfl | cases grants

namespace Stepping

/-- A wrapper that is inside a run can have its registers written. -/
theorem writeRegister_of_attends (attends : Attends world handle wrapper) (number : RegisterNumber)
    (value : UInt32) : writeRegister handle number value world = .ok () (world.place handle
      { wrapper with engine := wrapper.engine.withRegister number value }) :=
  Exec.modifyEngine_of_present attends.present _

/-! ### The use of an answer -/

/-- Where the words come from that an instruction receives, and what becomes of the cells of the
caller. It may be granted cells, which it accesses; or it calls a deferred operation once with its
operands, receives both halves of the value, and leaves the cells as they are. -/
inductive Provides (bound : Nat) (handle : Handle) (registers : Registers)
    (instruction : CoprocessorInstruction) (compiled : Compiled (DeferredFunction σ ν))
    (asked after : World σ ν) : (low high : UInt32) → Prop where
  | granted {first : Location} {second : Option Location}
      (grants : Scripted.locations compiled = first :: second.toList)
      (cells : ∀ cell, after.shared.words.load cell =
        instruction.stored registers asked.shared.words first second cell) :
      Provides bound handle registers instruction compiled asked after
        (asked.shared.words.load first) ((second.map asked.shared.words.load).getD 0)
  | deferred {callback : Callback (DeferredFunction σ ν)} {value : UInt64} {answered : World σ ν}
      (defers : Scripted.callback? compiled = some callback)
      (runs : callback.run (perform bound) (instruction.operands registers).1
        (instruction.operands registers).2 asked = .ok value answered)
      (cells : after.shared.words = answered.shared.words) :
      Provides bound handle registers instruction compiled asked after value.toUInt32
        (value >>> 32).toUInt32

/-- An instruction has used the answer of its coprocessor, but not moved the program counter yet. On
its own behalf the engine has called the deferred operation that the answer holds, if it holds
one. -/
structure Applied (bound : Nat) (handle : Handle) (instruction : CoprocessorInstruction)
    (compiled : Compiled (DeferredFunction σ ν)) (asked : World σ ν) (wrapper : Wrapper σ ν)
    (after : World σ ν) (low high : UInt32) (events : List (Event ν)) : Prop where
  provides : Provides bound handle wrapper.engine.registers instruction compiled asked after low high
  history : after.history = asked.history ++ events
  attends : Attends after handle ((wrapper.replay handle events).receive instruction low high)
  calls : events.filter (Event.belongs (.plain (σ := σ) handle wrapper.slot)) =
    (Scripted.callback? compiled).toList.map fun callback =>
      .invoked handle callback.userArgument (instruction.operands wrapper.engine.registers).1
        (instruction.operands wrapper.engine.registers).2

/-- What an instruction makes of an answer: the answer provides nothing and nothing has happened, or
the answer has been used. -/
def Uses (bound : Nat) (handle : Handle) (instruction : CoprocessorInstruction)
    (compiled : Compiled (DeferredFunction σ ν)) (asked : World σ ν) (wrapper : Wrapper σ ν)
    (done : Bool) (after : World σ ν) : Prop :=
  (done = false → after = asked ∧ Scripted.callback? compiled = none ∧
      Scripted.locations compiled = []) ∧
    (done = true → ∃ low high events,
      Applied bound handle instruction compiled asked wrapper after low high events)

/-- An answer that was applied has been used. -/
theorem Uses.applied {compiled : Compiled (DeferredFunction σ ν)}
    (applied : Applied bound handle instruction compiled asked wrapper after low high events) :
    Uses bound handle instruction compiled asked wrapper true after := by
  constructor
  · intro refused
    cases refused
  · intro _
    exact ⟨low, high, events, applied⟩

/-- An answer without operation and cells is refused. -/
theorem Uses.refused {compiled : Compiled (DeferredFunction σ ν)}
    (noOperation : Scripted.callback? compiled = none) (noCells : Scripted.locations compiled = []) :
    Uses bound handle instruction compiled asked wrapper false asked := by
  constructor
  · intro _
    exact ⟨rfl, noOperation, noCells⟩
  · intro done
    cases done

/-- A computation that writes to the registers what an instruction receives, and does nothing else.
It is what is left of an instruction once its words are there. -/
def Delivers (handle : Handle) (instruction : CoprocessorInstruction) (low high : UInt32)
    (finish : Exec σ ν Bool) : Prop :=
  ∀ world wrapper, Attends world handle wrapper → ∃ after, finish world = .ok true after ∧
    after.history = world.history ∧ after.shared = world.shared ∧
    Attends after handle (wrapper.receive instruction low high)

/-- An instruction without targets delivers its words to nobody. -/
theorem Delivers.none (receives : ∀ engine : Engine σ ν, instruction.receive low high engine = engine) :
    Delivers handle instruction low high (pure true : Exec σ ν Bool) := by
  intro world wrapper attends
  refine ⟨world, rfl, rfl, rfl, ?_⟩
  rw [Wrapper.receive, receives]
  exact attends

/-- One word is delivered to one register. -/
theorem Delivers.one (two : Bool) (opc1 : UInt32) (crn crm : CoprocessorRegister) (opc2 : UInt32)
    (target : RegisterNumber) :
    Delivers handle (.getOneWord two opc1 crn crm opc2 target) low high (do
      writeRegister handle target low
      return true : Exec σ ν Bool) := by
  intro world wrapper attends
  refine ⟨_, Exec.bind_of_ok (writeRegister_of_attends attends target low), rfl, rfl, ?_⟩
  exact attends.place attends.running rfl

/-- Two words are delivered one after the other, the low one first. If both targets are the same
register, the high word remains. -/
theorem Delivers.two (two : Bool) (opc : UInt32) (crm : CoprocessorRegister)
    (lowTarget highTarget : RegisterNumber) :
    Delivers handle (.getTwoWords two opc crm lowTarget highTarget) low high (do
      writeRegister handle lowTarget low
      writeRegister handle highTarget high
      return true : Exec σ ν Bool) := by
  intro world wrapper attends
  have first : Attends _ handle { wrapper with engine := wrapper.engine.withRegister lowTarget low } :=
    attends.place attends.running rfl
  refine ⟨_, (Exec.bind_of_ok (writeRegister_of_attends attends lowTarget low)).trans
    (Exec.bind_of_ok (writeRegister_of_attends first highTarget high)), rfl, rfl, ?_⟩
  exact first.place attends.running rfl

section

variable {compiled : Compiled (DeferredFunction σ ν)}

/-- A deferred operation is called with the operands, and its value is delivered. -/
theorem run_uses (attends : Attends asked handle wrapper) (instruction : CoprocessorInstruction)
    (callback : Callback (DeferredFunction σ ν))
    (defers : Scripted.callback? compiled = some callback) (own : callback.handle = handle)
    {finish : UInt64 → Exec σ ν Bool}
    (delivers : ∀ value : UInt64, Delivers handle instruction value.toUInt32 (value >>> 32).toUInt32
      (finish value)) :
    (callback.run (perform bound) (instruction.operands wrapper.engine.registers).1
        (instruction.operands wrapper.engine.registers).2 >>= finish).Ensures asked
      (Uses bound handle instruction compiled asked wrapper) fun _ _ => True := by
  apply Exec.Ensures.bind (callback.run_ensures attends own .any).remember
  rintro value answered ⟨runs, -, inside, called⟩
  have visited := called.visited (fun _ => rfl) fun _ => rfl
  obtain ⟨after, finished, history, shared, attendsAfter⟩ :=
    delivers value answered _ visited.attends
  unfold Exec.Ensures
  rw [finished]
  have applied : Applied bound handle instruction compiled asked wrapper after value.toUInt32
      (value >>> 32).toUInt32 _ :=
    ⟨.deferred defers runs (by rw [shared]), by rw [history, visited.history], attendsAfter, by
      rw [called.work, defers]
      simp [Event.belongs, Belongings.plain]⟩
  exact .applied applied

/-- Cells are read, and what is in them is delivered. -/
theorem load_uses (attends : Attends asked handle wrapper) {first : Location} {second : Option Location}
    (grants : Scripted.locations compiled = first :: second.toList)
    {computation finish : Exec σ ν Bool} (same : computation asked = finish asked)
    (unstored : ∀ cell, instruction.stored wrapper.engine.registers asked.shared.words first second
      cell = asked.shared.words.load cell)
    (delivers : Delivers handle instruction (asked.shared.words.load first)
      ((second.map asked.shared.words.load).getD 0) finish) :
    computation.Ensures asked (Uses bound handle instruction compiled asked wrapper)
      fun _ _ => True := by
  obtain ⟨after, finished, history, shared, attendsAfter⟩ := delivers asked wrapper attends
  unfold Exec.Ensures
  rw [same, finished]
  have cells (cell : Location) : after.shared.words.load cell =
      instruction.stored wrapper.engine.registers asked.shared.words first second cell := by
    rw [shared, unstored]
  have applied : Applied bound handle instruction compiled asked wrapper after _ _ [] :=
    ⟨.granted grants cells, by rw [history, List.append_nil], attendsAfter, by
      rw [Scripted.callback?_of_locations grants]
      rfl⟩
  exact .applied applied

/-- Cells are written, and nothing is received. -/
theorem store_uses (attends : Attends asked handle wrapper) {first : Location}
    {second : Option Location} (grants : Scripted.locations compiled = first :: second.toList)
    (words : WordStore) (stores : ∀ cell, words.load cell =
      instruction.stored wrapper.engine.registers asked.shared.words first second cell)
    (receives : ∀ low high (engine : Engine σ ν), instruction.receive low high engine = engine) :
    Uses bound handle instruction compiled asked wrapper true
      { asked with shared := { asked.shared with words := words } } := by
  have still (low high : UInt32) : wrapper.receive instruction low high = wrapper := by
    rw [Wrapper.receive, receives]
  have attendsAfter : Attends { asked with shared := { asked.shared with words := words } } handle
      wrapper := attends.share _
  have provides : Provides bound handle wrapper.engine.registers instruction compiled asked
      { asked with shared := { asked.shared with words := words } } _ _ := .granted grants stores
  refine .applied ⟨provides, (List.append_nil _).symm, ?_, ?_⟩
  · rw [Wrapper.replay_nil, still]
    exact attendsAfter
  · rw [Scripted.callback?_of_locations grants]
    rfl

/-- An operation is called with what it is to be called with, and nothing is received. -/
theorem runOperation_uses (attends : Attends asked handle wrapper)
    (instruction : CoprocessorInstruction)
    (receives : ∀ low high (engine : Engine σ ν), instruction.receive low high engine = engine)
    {first second : Exec σ ν UInt32}
    (reads : first asked = .ok (instruction.operands wrapper.engine.registers).1 asked)
    (readsAlso : second asked = .ok (instruction.operands wrapper.engine.registers).2 asked)
    (answer : WireCallback (DeferredFunction σ ν)) :
    (runOperation (perform bound) (some (answer.decode handle)) first second).Ensures asked
      (Uses bound handle instruction (.operation (answer.decode handle)) asked wrapper)
      fun _ _ => True := by
  cases answer with
  | absent => exact Uses.refused rfl rfl
  | present raw =>
    apply Exec.Ensures.after reads
    apply Exec.Ensures.after readsAlso
    exact run_uses attends instruction (raw.bind handle) rfl rfl fun _ => .none (receives _ _)

/-- An instruction that sends one word hands it to an operation or stores it in a cell. -/
theorem sendOneWord_uses (attends : Attends asked handle wrapper) (two : Bool) (opc1 : UInt32)
    (crn crm : CoprocessorRegister) (opc2 : UInt32) (source : RegisterNumber)
    (answer : WireTransfer (DeferredFunction σ ν) Location) :
    (sendOneWord (perform bound) handle source (some (answer.decode handle))).Ensures asked
      (Uses bound handle (.sendOneWord two opc1 crn crm opc2 source) (.oneWord (answer.decode handle))
        asked wrapper) fun _ _ => True := by
  have reads := readRegister_of_present attends.present source
  cases answer with
  | absent => exact Uses.refused rfl rfl
  | callback raw =>
    apply Exec.Ensures.after reads
    exact run_uses attends (.sendOneWord two opc1 crn crm opc2 source) (raw.bind handle) rfl rfl
      fun _ => .none fun _ => rfl
  | access location =>
    have grants : Scripted.locations (.oneWord (.access location) :
        Compiled (DeferredFunction σ ν)) = location :: (none : Option Location).toList := rfl
    apply Exec.Ensures.after reads
    apply store_uses attends grants
    · intro cell
      exact WordStore.load_store _ _ _ _
    · exact fun _ _ _ => rfl

/-- An instruction that gets one word has it from an operation or from a cell. -/
theorem getOneWord_uses (attends : Attends asked handle wrapper) (two : Bool) (opc1 : UInt32)
    (crn crm : CoprocessorRegister) (opc2 : UInt32) (target : RegisterNumber)
    (answer : WireTransfer (DeferredFunction σ ν) Location) :
    (getOneWord (perform bound) handle target (some (answer.decode handle))).Ensures asked
      (Uses bound handle (.getOneWord two opc1 crn crm opc2 target) (.oneWord (answer.decode handle))
        asked wrapper) fun _ _ => True := by
  cases answer with
  | absent => exact Uses.refused rfl rfl
  | callback raw =>
    exact run_uses attends (.getOneWord two opc1 crn crm opc2 target) (raw.bind handle) rfl rfl
      fun _ => .one two opc1 crn crm opc2 target
  | access location =>
    have grants : Scripted.locations (.oneWord (.access location) :
        Compiled (DeferredFunction σ ν)) = location :: (none : Option Location).toList := rfl
    apply load_uses attends grants _ _ (.one two opc1 crn crm opc2 target)
    · rfl
    · exact fun _ => rfl

/-- An instruction that sends two words reads both registers before an operation gets them. With
cells, the first word is stored before the second register is read. -/
theorem sendTwoWords_uses (attends : Attends asked handle wrapper) (two : Bool) (opc : UInt32)
    (crm : CoprocessorRegister) (lowSource highSource : RegisterNumber)
    (answer : WireTransfer (DeferredFunction σ ν) (Location × Location)) :
    (sendTwoWords (perform bound) handle lowSource highSource
        (some (answer.decode handle))).Ensures asked
      (Uses bound handle (.sendTwoWords two opc crm lowSource highSource)
        (.twoWords (answer.decode handle)) asked wrapper) fun _ _ => True := by
  have reads := readRegister_of_present attends.present lowSource
  cases answer with
  | absent => exact Uses.refused rfl rfl
  | callback raw =>
    apply Exec.Ensures.after reads
    apply Exec.Ensures.after (readRegister_of_present attends.present highSource)
    exact run_uses attends (.sendTwoWords two opc crm lowSource highSource) (raw.bind handle) rfl rfl
      fun _ => .none fun _ => rfl
  | access locations =>
    obtain ⟨first, second⟩ := locations
    have grants : Scripted.locations (.twoWords (.access (first, second)) :
        Compiled (DeferredFunction σ ν)) = first :: (some second).toList := rfl
    have stored : Exec.storeWord first (wrapper.engine.registers.get lowSource) asked =
        .ok () { asked with shared := { asked.shared with
          words := asked.shared.words.store first (wrapper.engine.registers.get lowSource) } } :=
      rfl
    -- The second source is read when the first cell has been written.
    apply Exec.Ensures.after reads
    apply Exec.Ensures.after stored
    apply Exec.Ensures.after (readRegister_of_present (attends.share _).present highSource)
    apply store_uses attends grants
    · intro cell
      rw [WordStore.load_store, WordStore.load_store]
      simp only [CoprocessorInstruction.stored, Option.some.injEq]
      rfl
    · exact fun _ _ _ => rfl

/-- An instruction that gets two words splits what an operation returns, or loads two cells. -/
theorem getTwoWords_uses (attends : Attends asked handle wrapper) (two : Bool) (opc : UInt32)
    (crm : CoprocessorRegister) (lowTarget highTarget : RegisterNumber)
    (answer : WireTransfer (DeferredFunction σ ν) (Location × Location)) :
    (getTwoWords (perform bound) handle lowTarget highTarget
        (some (answer.decode handle))).Ensures asked
      (Uses bound handle (.getTwoWords two opc crm lowTarget highTarget)
        (.twoWords (answer.decode handle)) asked wrapper) fun _ _ => True := by
  cases answer with
  | absent => exact Uses.refused rfl rfl
  | callback raw =>
    exact run_uses attends (.getTwoWords two opc crm lowTarget highTarget) (raw.bind handle) rfl rfl
      fun _ => .two two opc crm lowTarget highTarget
  | access locations =>
    obtain ⟨first, second⟩ := locations
    have grants : Scripted.locations (.twoWords (.access (first, second)) :
        Compiled (DeferredFunction σ ν)) = first :: (some second).toList := rfl
    apply load_uses attends grants _ _ (.two two opc crm lowTarget highTarget)
    · -- The second cell is read when the first target has been written.
      have written := writeRegister_of_attends attends lowTarget (asked.shared.words.load first)
      apply (Exec.bind_of_ok written).trans
      apply Eq.trans ?_ (Exec.bind_of_ok written).symm
      exact Exec.bind_of_ok rfl
    · exact fun _ => rfl

/-- An answer of the kind that was asked for is used, unless it says that the instruction is not
supported. -/
theorem useCompiled_uses (attends : Attends asked handle wrapper)
    (instruction : CoprocessorInstruction) {wire : WireCompiled (DeferredFunction σ ν)}
    (answers : wire.Answers instruction.request) :
    (useCompiled (perform bound) handle instruction (some (wire.decode handle))).Ensures asked
      (Uses bound handle instruction (wire.decode handle) asked wrapper) fun _ _ => True := by
  cases wire with
  | operation answer =>
    cases instruction with
    | internalOperation two opc1 crd crn crm opc2 =>
      exact runOperation_uses attends (.internalOperation two opc1 crd crn crm opc2)
        (fun _ _ _ => rfl) rfl rfl answer
    | loadWords two long crd option base =>
      exact runOperation_uses attends (.loadWords two long crd option base) (fun _ _ _ => rfl)
        (readRegister_of_present attends.present base) rfl answer
    | storeWords two long crd option base =>
      exact runOperation_uses attends (.storeWords two long crd option base) (fun _ _ _ => rfl)
        (readRegister_of_present attends.present base) rfl answer
    | _ => exact answers.elim
  | oneWord answer =>
    cases instruction with
    | sendOneWord two opc1 crn crm opc2 source =>
      exact sendOneWord_uses attends two opc1 crn crm opc2 source answer
    | getOneWord two opc1 crn crm opc2 target =>
      exact getOneWord_uses attends two opc1 crn crm opc2 target answer
    | _ => exact answers.elim
  | twoWords answer =>
    cases instruction with
    | sendTwoWords two opc crm lowSource highSource =>
      exact sendTwoWords_uses attends two opc crm lowSource highSource answer
    | getTwoWords two opc crm lowTarget highTarget =>
      exact getTwoWords_uses attends two opc crm lowTarget highTarget answer
    | _ => exact answers.elim

end

/-- Where the words came from does not change when registers are written afterwards. -/
theorem Provides.of_words {registers : Registers} {compiled : Compiled (DeferredFunction σ ν)}
    {final : World σ ν} (provides : Provides bound handle registers instruction compiled asked after
      low high) (same : final.shared.words = after.shared.words) :
    Provides bound handle registers instruction compiled asked final low high := by
  cases provides with
  | granted grants cells =>
    rw [← same] at cells
    exact .granted grants cells
  | deferred defers runs cells => exact .deferred defers runs (same.trans cells)

/-! ### Instructions -/

/-- A coprocessor instruction has completed. Its operands are what its sources held when its
coprocessor had answered; its targets and then the program counter were written when everything else
was over. -/
def Concludes (bound : Nat) (handle : Handle) (slot : Fin 16) (instruction : CoprocessorInstruction)
    (ready : World σ ν) (wrapper : Wrapper σ ν) (after : World σ ν) (later : Wrapper σ ν)
    (next : UInt32) (events : List (Event ν)) : Prop :=
  ∃ compiled asked low high compiling calling, events = compiling ++ calling ∧
    withCoprocessor handle slot (fun bridge => bridge.compile (perform bound) instruction.request)
      ready = .ok (some compiled) asked ∧
    Provides bound handle (wrapper.replay handle compiling).engine.registers instruction compiled asked
      after low high ∧
    later = ((wrapper.replay handle events).receive instruction low high).advance next

/-- What has become of the wrapper by an instruction that was fetched from an address. Registers
that callbacks have written since are taken from the events, so they are not counted as effects of
the instruction. -/
structure Effect (bound : Nat) (handle : Handle) (address : UInt32) (instruction : Instruction)
    (ready : World σ ν) (wrapper : Wrapper σ ν) (after : World σ ν) (later : Wrapper σ ν)
    (events : List (Event ν)) (done : Bool) : Prop where
  history : after.history = ready.history ++ events
  attends : Attends after handle later
  idle : later.Idle
  supervisorCall : ∀ number, instruction = .supervisorCall number → done = true ∧
    later = (wrapper.advance (address + 4)).replay handle events
  raised : done = false → later = wrapper.replay handle events
  completed : ∀ slot inner, instruction = .coprocessor slot inner → done = true →
    Concludes bound handle slot inner ready wrapper after later (address + 4) events

/-- An engine that has moved on is still inside its run. -/
theorem advance_attends (attends : Attends world handle wrapper) (next : UInt32) :
    Attends (world.place handle (wrapper.advance next)) handle (wrapper.advance next) :=
  attends.place attends.running rfl

/-- An exception is reported where the program counter is. -/
theorem raise_effect {instruction : Instruction}
    (attends : Attends middle handle (wrapper.replay handle events)) (idle : wrapper.Idle)
    (history : middle.history = ready.history ++ events)
    (reports : ∀ number, instruction ≠ .supervisorCall number) (address : UInt32) :
    (raise (perform bound) handle address).Ensures middle (fun done after => ∃ later further,
      Effect bound handle address instruction ready wrapper after later further done)
      fun _ _ => True := by
  apply Exec.Ensures.bind (ask_visits attends (idle.replay events) rfl)
  rintro _ after ⟨further, visited⟩
  refine ⟨(wrapper.replay handle events).replay handle further, events ++ further, ?_⟩
  constructor
  case history => rw [visited.history, history, List.append_assoc]
  case attends => exact visited.attends
  case idle => exact (idle.replay events).replay further
  case supervisorCall =>
    intro number isCall
    exact (reports number isCall).elim
  case raised =>
    intro _
    rw [Wrapper.replay_append]
  case completed =>
    intro _ _ _ done
    cases done

/-- An instruction that is neither for a coprocessor nor for a supervisor only moves the program
counter. -/
theorem move_effect {instruction : Instruction} (attends : Attends ready handle wrapper)
    (idle : wrapper.Idle) (calls : ∀ number, instruction ≠ .supervisorCall number)
    (transfers : ∀ slot inner, instruction ≠ .coprocessor slot inner) (address next : UInt32) :
    Effect bound handle address instruction ready wrapper
      (ready.place handle (wrapper.advance next)) (wrapper.advance next) [] true := by
  constructor
  case history => exact (List.append_nil _).symm
  case attends => exact advance_attends attends next
  case idle => exact idle
  case supervisorCall =>
    intro number isCall
    exact (calls number isCall).elim
  case raised =>
    intro failed
    cases failed
  case completed =>
    intro slot inner isTransfer
    exact (transfers slot inner isTransfer).elim

/-- A call to a supervisor moves the program counter before it is reported. The callback sees the
new counter, and what it writes there remains. -/
theorem supervisorCall_effect (attends : Attends ready handle wrapper) (idle : wrapper.Idle)
    (address number : UInt32) :
    (execute (perform bound) handle address (.supervisorCall number)).Ensures ready
      (fun done after => ∃ later events,
        Effect bound handle address (.supervisorCall number) ready wrapper after later events done)
      fun _ _ => True := by
  apply Exec.Ensures.after (writeRegister_of_attends attends pc (address + 4))
  have moved := advance_attends attends (address + 4)
  have stillIdle : (wrapper.advance (address + 4)).Idle := idle
  apply Exec.Ensures.bind (ask_visits moved stillIdle rfl)
  rintro _ after ⟨events, visited⟩
  refine ⟨(wrapper.advance (address + 4)).replay handle events, events, ?_⟩
  constructor
  case history => exact visited.history
  case attends => exact visited.attends
  case idle => exact stillIdle.replay events
  case supervisorCall =>
    intro _ _
    exact ⟨rfl, rfl⟩
  case raised =>
    intro failed
    cases failed
  case completed =>
    intro _ _ isCoprocessor
    cases isCoprocessor

/-- A coprocessor instruction either concludes or is reported as undefined. Which of the two depends
on the answer alone, and in the second case no register has been written. -/
theorem coprocessor_effect (attends : Attends ready handle wrapper) (idle : wrapper.Idle)
    (address : UInt32) (slot : Fin 16) (inner : CoprocessorInstruction) :
    (execute (perform bound) handle address (.coprocessor slot inner)).Ensures ready
      (fun done after => ∃ later events,
        Effect bound handle address (.coprocessor slot inner) ready wrapper after later events done)
      fun _ _ => True := by
  have reports (number : UInt32) :
      Instruction.coprocessor slot inner ≠ .supervisorCall number := by
    intro isCall
    cases isCall
  rw [execute_coprocessor]
  apply Exec.Ensures.bind (withCoprocessor_visits attends idle slot inner.request).remember
  rintro compiled asked ⟨consults, compiling, visited, answers⟩
  -- The report is the same whether the slot was empty or the coprocessor refused.
  cases compiled with
  | none =>
    rw [ExecutesAlike.useCompiled_none, pure_bind]
    exact raise_effect visited.attends idle visited.history reports address
  | some compiled =>
    obtain ⟨wire, isAnswer, rfl⟩ := answers compiled rfl
    apply Exec.Ensures.bind (useCompiled_uses visited.attends inner isAnswer)
    rintro done used ⟨refused, applied⟩
    cases done with
    | false =>
      rw [(refused rfl).1]
      exact raise_effect visited.attends idle visited.history reports address
    | true =>
      obtain ⟨low, high, calling, applied⟩ := applied rfl
      apply Exec.Ensures.after (writeRegister_of_attends applied.attends pc (address + 4))
      -- Callbacks may have written registers while the entry was called and while the operation
      -- ran. Both lots are replayed before the instruction's own effect.
      have replayed : (wrapper.replay handle compiling).replay handle calling =
          wrapper.replay handle (compiling ++ calling) := (Wrapper.replay_append _ _).symm
      refine ⟨(((wrapper.replay handle compiling).replay handle calling).receive inner low
        high).advance (address + 4), compiling ++ calling, ?_⟩
      constructor
      case history =>
        rw [World.history_place, applied.history, visited.history, List.append_assoc]
      case attends => exact advance_attends applied.attends (address + 4)
      case idle => exact ((idle.replay compiling).replay calling).receive
      case supervisorCall =>
        intro number isCall
        exact (reports number isCall).elim
      case raised =>
        intro failed
        cases failed
      case completed =>
        rintro _ _ ⟨⟩ _
        exact ⟨_, asked, low, high, compiling, calling, rfl, consults,
          applied.provides.of_words rfl, by rw [replayed]⟩

/-- The effect of an instruction of any class. -/
theorem execute_effect (attends : Attends ready handle wrapper) (idle : wrapper.Idle)
    (address : UInt32) (instruction : Instruction) :
    (execute (perform bound) handle address instruction).Ensures ready (fun done after =>
      ∃ later events, Effect bound handle address instruction ready wrapper after later events done)
      fun _ _ => True := by
  cases instruction with
  | idle | branch =>
    apply Exec.Ensures.after (writeRegister_of_attends attends pc _)
    refine ⟨wrapper.advance _, [], move_effect attends idle ?_ ?_ address _⟩
    · intro _ isCall
      cases isCall
    · intro _ _ isCoprocessor
      cases isCoprocessor
  | supervisorCall number => exact supervisorCall_effect attends idle address number
  | undefined =>
    apply raise_effect (Visited.refl attends).attends idle (Visited.refl attends).history
    intro _ isCall
    cases isCall
  | coprocessor slot inner => exact coprocessor_effect attends idle address slot inner

end Stepping

end RecompilerAdapter
