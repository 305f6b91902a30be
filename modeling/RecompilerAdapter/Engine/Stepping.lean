/-
Module: RecompilerAdapter.Engine.Stepping
Purpose: The stepping engine. It executes one instruction at a time, compiling coprocessor instructions
  anew each time they execute. The program counter is register 15; an instruction that completes moves it
  on, one that raises an exception leaves it in place.
Trusted boundary: the definitions of this module
Main exports: lending, fetch, withCoprocessor, coprocessor, execute, step, turn, run
-/
import RecompilerAdapter.Callback.Bridge
import RecompilerAdapter.Coprocessor.Bridge
import RecompilerAdapter.Instruction.Decoding

/-!
While caller code runs on the engine's behalf, the part of the engine that made the call is lent out.
Needing a part that is lent out stops everything.
-/

namespace RecompilerAdapter.Stepping

variable {σ ν α : Type}

/-- The program counter. -/
def pc : RegisterNumber :=
  Fin.last 15

/-- The parts of an engine that are lent out. -/
def lentParts (engine : Engine σ ν) : List EnginePart :=
  match engine.mode with
  | .stepping lent => lent
  | .scripted .. => []

/-- Replaces the parts that are lent out. -/
def setLentParts (lent : List EnginePart) (engine : Engine σ ν) : Engine σ ν :=
  match engine.mode with
  | .stepping _ => { engine with mode := .stepping lent }
  | .scripted .. => engine

/-- Lends out a part for the time of a computation. -/
def lending (handle : Handle) (part : EnginePart) (body : Exec σ ν α) : Exec σ ν α := do
  if (lentParts (← Exec.engine handle)).contains part then
    throw (.lentTwice part)
  Exec.modifyEngine handle fun engine => setLentParts (part :: lentParts engine) engine
  let result ← body
  Exec.modifyEngine handle fun engine => setLentParts ((lentParts engine).erase part) engine
  return result

/-- The value of a core register. -/
def readRegister (handle : Handle) (number : RegisterNumber) : Exec σ ν UInt32 :=
  return (← Exec.engine handle).registers[number]

/-- Replaces the value of a core register. -/
def writeRegister (handle : Handle) (number : RegisterNumber) (value : UInt32) :
    Exec σ ν Unit :=
  Exec.modifyEngine handle fun engine => engine.withRegister number value

/-- Makes a request of the host. -/
def ask (perform : Performer σ ν) (handle : Handle) (request : HostRequest) :
    Exec σ ν request.Answer :=
  lending handle .callbacks do
    (← Exec.engine handle).configuration.callbacks.forward perform request

/-- The instruction word at an address: from its page if that is mapped, else from the host. -/
def fetch (perform : Performer σ ν) (handle : Handle) (address : UInt32) : Exec σ ν UInt32 := do
  let configuration := (← Exec.engine handle).configuration
  let own := (← get).shared.own
  match configuration.pageTable.bind fun table => table.fetch? own address with
  | some word => return word
  | none => return ⟨← ask perform handle (.read .word address)⟩

/-- Asks the coprocessor in a slot; `none` if the slot is empty. -/
def withCoprocessor (handle : Handle) (slot : Fin 16)
    (compile : CoprocessorBridge σ ν → Exec σ ν α) : Exec σ ν (Option α) :=
  lending handle .coprocessors do
    match (← Exec.engine handle).configuration.coprocessors[slot] with
    | some bridge => return some (← compile bridge)
    | none => return none

/-- Executes an operation that is either deferred or unsupported. -/
def runOperation (perform : Performer σ ν)
    (compiled : Option (Option (Callback (DeferredFunction σ ν)))) (first second : Exec σ ν UInt32) :
    Exec σ ν Bool := do
  match compiled with
  | some (some callback) =>
    let _ ← callback.run perform (← first) (← second)
    return true
  | _ => return false

/-- Executes a transfer of one word to a coprocessor. -/
def sendOneWord (perform : Performer σ ν) (handle : Handle) (source : RegisterNumber) :
    Option (Transfer (DeferredFunction σ ν) Location) → Exec σ ν Bool
  | none | some .unsupported => return false
  | some (.callback callback) => do
    let _ ← callback.run perform (← readRegister handle source) 0
    return true
  | some (.access location) => do
    Exec.storeWord location (← readRegister handle source)
    return true

/-- Executes a transfer of one word from a coprocessor. Of a deferred operation's answer the low
word counts. -/
def getOneWord (perform : Performer σ ν) (handle : Handle) (target : RegisterNumber) :
    Option (Transfer (DeferredFunction σ ν) Location) → Exec σ ν Bool
  | none | some .unsupported => return false
  | some (.callback callback) => do
    writeRegister handle target (← callback.run perform 0 0).toUInt32
    return true
  | some (.access location) => do
    writeRegister handle target (← Exec.loadWord location)
    return true

/-- Executes a transfer of two words to a coprocessor, the low word first. -/
def sendTwoWords (perform : Performer σ ν) (handle : Handle) (lowSource highSource : RegisterNumber) :
    Option (Transfer (DeferredFunction σ ν) (Location × Location)) → Exec σ ν Bool
  | none | some .unsupported => return false
  | some (.callback callback) => do
    let _ ← callback.run perform (← readRegister handle lowSource)
      (← readRegister handle highSource)
    return true
  | some (.access (low, high)) => do
    Exec.storeWord low (← readRegister handle lowSource)
    Exec.storeWord high (← readRegister handle highSource)
    return true

/-- Executes a transfer of two words from a coprocessor, the low word first. -/
def getTwoWords (perform : Performer σ ν) (handle : Handle) (lowTarget highTarget : RegisterNumber) :
    Option (Transfer (DeferredFunction σ ν) (Location × Location)) → Exec σ ν Bool
  | none | some .unsupported => return false
  | some (.callback callback) => do
    let value ← callback.run perform 0 0
    writeRegister handle lowTarget value.toUInt32
    writeRegister handle highTarget (value >>> 32).toUInt32
    return true
  | some (.access (low, high)) => do
    writeRegister handle lowTarget (← Exec.loadWord low)
    writeRegister handle highTarget (← Exec.loadWord high)
    return true

/-- Compiles and executes a coprocessor instruction; false if it is not implemented. -/
def coprocessor (perform : Performer σ ν) (handle : Handle) (slot : Fin 16) :
    CoprocessorInstruction → Exec σ ν Bool
  | .internalOperation two opc1 crd crn crm opc2 => do
    let compiled ← withCoprocessor handle slot fun bridge =>
      bridge.internalOperation perform two opc1 crd crn crm opc2
    runOperation perform compiled (pure 0) (pure 0)
  | .sendOneWord two opc1 crn crm opc2 source => do
    let compiled ← withCoprocessor handle slot fun bridge =>
      bridge.sendOneWord perform two opc1 crn crm opc2
    sendOneWord perform handle source compiled
  | .getOneWord two opc1 crn crm opc2 target => do
    let compiled ← withCoprocessor handle slot fun bridge =>
      bridge.getOneWord perform two opc1 crn crm opc2
    getOneWord perform handle target compiled
  | .sendTwoWords two opc crm lowSource highSource => do
    let compiled ← withCoprocessor handle slot fun bridge =>
      bridge.sendTwoWords perform two opc crm
    sendTwoWords perform handle lowSource highSource compiled
  | .getTwoWords two opc crm lowTarget highTarget => do
    let compiled ← withCoprocessor handle slot fun bridge =>
      bridge.getTwoWords perform two opc crm
    getTwoWords perform handle lowTarget highTarget compiled
  | .loadWords two long crd option base => do
    let compiled ← withCoprocessor handle slot fun bridge =>
      bridge.loadWords perform two long crd option
    runOperation perform compiled (readRegister handle base) (pure 0)
  | .storeWords two long crd option base => do
    let compiled ← withCoprocessor handle slot fun bridge =>
      bridge.storeWords perform two long crd option
    runOperation perform compiled (readRegister handle base) (pure 0)

/-- Reports the undefined instruction at an address. -/
def raise (perform : Performer σ ν) (handle : Handle) (address : UInt32) : Exec σ ν Bool := do
  ask perform handle (.exceptionRaised address .undefinedInstruction)
  return false

/-- Executes an instruction that was fetched from `address`; false if it raised an exception. -/
def execute (perform : Performer σ ν) (handle : Handle) (address : UInt32) :
    Instruction → Exec σ ν Bool
  | .idle => do
    writeRegister handle pc (address + 4)
    return true
  | .branch offset => do
    writeRegister handle pc (address + 8 + offset)
    return true
  | .supervisorCall number => do
    writeRegister handle pc (address + 4)
    ask perform handle (.supervisorCall number)
    return true
  | .coprocessor slot instruction => do
    if ← coprocessor perform handle slot instruction then
      writeRegister handle pc (address + 4)
      return true
    else
      raise perform handle address
  | .undefined => raise perform handle address

/-- Executes the instruction at the program counter; false if it raised an exception. -/
def step (perform : Performer σ ν) (handle : Handle) : Exec σ ν Bool := do
  let address ← readRegister handle pc
  let word ← fetch perform handle address
  Exec.emit (.fetched handle address word)
  execute perform handle address (Instruction.decode word)

/-- Takes a pending halt request, if there is one. -/
def takeHalt (handle : Handle) : Exec σ ν Bool := do
  let engine ← Exec.engine handle
  Exec.modifyEngine handle fun engine => { engine with haltRequested := false }
  return engine.haltRequested

/-- One turn of the run loop; false if the run is over. A halt request is looked for first, then the
quota; a step of either outcome costs one tick. -/
def turn (perform : Performer σ ν) (handle : Handle) : Exec σ ν Bool := do
  if ← takeHalt handle then
    return false
  if (← ask perform handle .ticksRemaining) = 0 then
    return false
  let _ ← step perform handle
  ask perform handle (.addTicks 1)
  return true

/-- Runs until a turn ends the run, within a bound on the number of turns. -/
def run (perform : Performer σ ν) (handle : Handle) : (turns : Nat) → Exec σ ν Unit
  | 0 => throw .outOfFuel
  | turns + 1 => do
    if ← turn perform handle then
      run perform handle turns

end RecompilerAdapter.Stepping
