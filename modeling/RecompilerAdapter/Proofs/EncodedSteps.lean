/-
Module: RecompilerAdapter.Proofs.EncodedSteps
Purpose: The parts of a step. An instruction that an assembler wrote makes a request of its coprocessor,
  and it has words to hand over to what the coprocessor answers. While it waits for the answer, the engine
  has lent out the part of itself that asks.
Trusted boundary: none
Main exports: Assembly.request, Assembly.arguments, WireCompiled.Answers, Stepping.execute_coprocessor
-/
import RecompilerAdapter.Adapter.Perform
import RecompilerAdapter.Proofs.CompileEntries
import RecompilerAdapter.Proofs.EncodedInstructions
import RecompilerAdapter.Proofs.Execution

namespace RecompilerAdapter

variable {σ ν α β : Type} {perform : Performer σ ν} {handle : Handle}

/-! ### What the instructions mean -/

namespace Assembly

/-- What compiling the instruction asks, with the encoder's operands. -/
def request (second : Bool) : Assembly → CompileRequest
  | cdp _ opc1 crd crn crm opc2 =>
    .internalOperation second (operand 4 opc1) crd crn crm (operand 3 opc2)
  | mcr _ opc1 _ crn crm opc2 => .sendOneWord second (operand 3 opc1) crn crm (operand 3 opc2)
  | mrc _ opc1 _ crn crm opc2 => .getOneWord second (operand 3 opc1) crn crm (operand 3 opc2)
  | mcrr _ opc _ _ crm => .sendTwoWords second (operand 4 opc) crm
  | mrrc _ opc _ _ crm => .getTwoWords second (operand 4 opc) crm
  | ldc _ crd _ imm8 long unindexed => .loadWords second long crd (immediate imm8 unindexed)
  | stc _ crd _ imm8 long unindexed => .storeWords second long crd (immediate imm8 unindexed)

theorem request_instruction (assembly : Assembly) (second : Bool) :
    (assembly.instruction second).request = assembly.request second := by
  cases assembly <;> rfl

/-- The words that a deferred operation is called with. Only instructions that hand words over read
registers for it, and the order of the registers is that of the encoder. -/
def arguments (registers : Registers) : Assembly → UInt32 × UInt32
  | cdp .. | mrc .. | mrrc .. => (0, 0)
  | mcr _ _ rt _ _ _ => (registers.get rt, 0)
  | mcrr _ _ rt rt2 _ => (registers.get rt, registers.get rt2)
  | ldc _ _ rn _ _ _ | stc _ _ rn _ _ _ => (registers.get rn, 0)

end Assembly

/-- A body that is carried out leaves the core registers behind the handle as they are. A compile
entry of which this holds cannot change what its instruction hands over. -/
def Activity.KeepsRegisters (perform : Performer σ ν) (handle : Handle)
    (body : Activity σ ν α) : Prop :=
  ∀ world after before later answer, world.wrappers.get? handle = some before →
    body.exec perform world = .ok answer after → after.wrappers.get? handle = some later →
    later.engine.registers = before.engine.registers

theorem Stepping.readRegister_of_present {world : World σ ν} {wrapper : Wrapper σ ν}
    (present : world.wrappers.get? handle = some wrapper) (number : RegisterNumber) :
    readRegister handle number world = .ok wrapper.engine.registers[number] world := by
  rw [readRegister, Exec.bind_of_ok (Exec.engine_of_present present)]
  rfl

/-! ### Answers of the kind that was asked for -/

/-- The answer is of the type that the entry for the request has. Entries cannot answer otherwise,
so an engine never gets an answer that it cannot use. -/
def WireCompiled.Answers {F : Type} : WireCompiled F → CompileRequest → Prop
  | operation _, .internalOperation .. => True
  | operation _, .loadWords .. => True
  | operation _, .storeWords .. => True
  | oneWord _, .sendOneWord .. => True
  | oneWord _, .getOneWord .. => True
  | twoWords _, .sendTwoWords .. => True
  | twoWords _, .getTwoWords .. => True
  | _, _ => False

theorem Exec.map_eq_ok {computation : Exec σ ν α} {image : α → β} {world after : World σ ν}
    {answer : β} (completes : (image <$> computation) world = .ok answer after) :
    ∃ source, image source = answer := by
  change EStateM.map image computation world = _ at completes
  unfold EStateM.map at completes
  split at completes
  · cases completes
    exact ⟨_, rfl⟩
  · cases completes

theorem CoprocessorTable.answers (table : CoprocessorTable σ ν) {request : CompileRequest}
    {world after : World σ ν} {wire : WireCompiled (DeferredFunction σ ν)}
    (completes : (table.answer request).exec perform world = .ok wire after) :
    wire.Answers request := by
  cases request <;> rw [answer, Activity.exec_map] at completes <;>
    obtain ⟨source, rfl⟩ := Exec.map_eq_ok completes <;> trivial

namespace Stepping

variable {world : World σ ν} {address : UInt32} {wrapper : Wrapper σ ν}

/-- Lending out a part when nothing is lent out. -/
theorem lending_eq {part : EnginePart} {body : Exec σ ν α}
    (present : world.wrappers.get? handle = some wrapper) (idle : wrapper.engine.mode = .stepping []) :
    lending handle part body world = (do
      Exec.modifyEngine handle (setLentParts [part])
      let result ← body
      Exec.modifyEngine handle fun engine => setLentParts ((lentParts engine).erase part) engine
      return result) world := by
  have nothing : lentParts wrapper.engine = [] := by
    rw [lentParts, idle]
  have sameLoan : Exec.modifyEngine handle
      (fun engine => setLentParts (part :: lentParts engine) engine) world =
        Exec.modifyEngine handle (setLentParts [part]) world := by
    rw [Exec.modifyEngine_of_present present, Exec.modifyEngine_of_present present, nothing]
  rw [lending, Exec.bind_of_ok (Exec.engine_of_present present), nothing]
  exact Exec.bind_congr_first sameLoan

/-! ### Asking a coprocessor -/

/-- A coprocessor instruction either moves the program counter on or is undefined. -/
theorem execute_coprocessor (slot : Fin 16) (instruction : CoprocessorInstruction) :
    execute perform handle address (.coprocessor slot instruction) = (do
      let compiled ← withCoprocessor handle slot fun bridge =>
        bridge.compile perform instruction.request
      let done ← useCompiled perform handle instruction compiled
      if done then do
        writeRegister handle pc (address + 4)
        return true
      else raise perform handle address) := by
  rw [execute, coprocessor_eq, bind_assoc]

/-- Asking the coprocessor in a populated slot, when nothing is lent out. -/
theorem withCoprocessor_eq {slot : Fin 16} {bridge : CoprocessorBridge σ ν}
    {compile : CoprocessorBridge σ ν → Exec σ ν α}
    (present : world.wrappers.get? handle = some wrapper) (idle : wrapper.engine.mode = .stepping [])
    (populated : wrapper.engine.configuration.coprocessors[slot] = some bridge) :
    withCoprocessor handle slot compile world = (do
      Exec.modifyEngine handle (setLentParts [.coprocessors])
      let answer ← compile bridge
      Exec.modifyEngine handle fun engine =>
        setLentParts ((lentParts engine).erase .coprocessors) engine
      return some answer) world := by
  rw [withCoprocessor, lending_eq present idle]
  have lent := Exec.modifyEngine_of_present present (setLentParts [.coprocessors])
  rw [Exec.bind_of_ok lent, Exec.bind_of_ok lent, bind_assoc]
  have lentPresent : (world.place handle { wrapper with
      engine := setLentParts [.coprocessors] wrapper.engine }).wrappers.get? handle =
        some { wrapper with engine := setLentParts [.coprocessors] wrapper.engine } := by
    rw [World.get?_place, if_pos rfl]
  have still : (setLentParts [.coprocessors] wrapper.engine).configuration.coprocessors[slot] =
      some bridge := by
    rw [setLentParts, idle]
    exact populated
  rw [Exec.bind_of_ok (Exec.engine_of_present lentPresent), still]
  simp only [bind_assoc, pure_bind]

theorem setLentParts_registers (lent : List EnginePart) (engine : Engine σ ν) :
    (setLentParts lent engine).registers = engine.registers := by
  unfold setLentParts
  split <;> rfl

end Stepping

/-! ### A world with one wrapper -/

/-- The table of a host that serves reads from a memory of words and does nothing else. -/
def CallbackTable.ofMemory (memory : UInt32 → UInt32) (ticks : UInt64) : CallbackTable σ ν where
  read8 _ vaddr := pure ((memory vaddr).toBitVec.setWidth 8)
  read16 _ vaddr := pure ((memory vaddr).toBitVec.setWidth 16)
  read32 _ vaddr := pure (memory vaddr).toBitVec
  read64 _ vaddr := pure ((memory vaddr).toBitVec.setWidth 64)
  write8 _ _ _ := pure ()
  write16 _ _ _ := pure ()
  write32 _ _ _ := pure ()
  write64 _ _ _ := pure ()
  isReadOnly := none
  supervisorCall _ _ := pure ()
  exceptionRaised _ _ _ := pure ()
  addTicks _ _ := pure ()
  ticksRemaining _ := pure ticks

namespace Stepping.Lone

/-- The handle of the only wrapper of a world. -/
def worker : Handle :=
  ⟨16⟩

/-- The coprocessor in slot 3. -/
def bridge (device : HostCoprocessor Unit Unit) : CoprocessorBridge Unit Unit :=
  ⟨3, device.table ⟨1⟩, ⟨0⟩⟩

/-- A wrapper in the middle of a run, whose engine executes a memory of words and has one
coprocessor. -/
def wrapper (memory : UInt32 → UInt32) (device : HostCoprocessor Unit Unit) : Wrapper Unit Unit where
  userData := .word 0
  state := .running
  engine := (Engine.stepping
    { callbacks := ⟨.ofMemory memory 1, ⟨0⟩⟩
      pageTable := none
      coprocessors := .ofFn fun slot => if slot.val = 3 then some (bridge device) else none
      options := .default }).withRegister (Fin.last 14).castSucc 0xABCD

/-- The world of that wrapper. -/
def world (memory : UInt32 → UInt32) (device : HostCoprocessor Unit Unit) : World Unit Unit :=
  { World.initial () with
    slots := ⟨#[worker]⟩
    wrappers := ⟨[(worker, wrapper memory device)]⟩
    built := 1 }

end Stepping.Lone

end RecompilerAdapter
