/-
Module: RecompilerAdapter.Coprocessor.Bridge
Purpose: Forwarding an engine's compile requests to the caller's coprocessor table. Each request calls its
  own entry once, with the table's context and the operands as they are; any deferred operation in the
  answer is bound to the wrapper's handle. The handle is fetched last, so on an unbound slot the entry has
  been called when everything ends.
Trusted boundary: the definitions of this module
Main exports: CoprocessorBridge.consult, CoprocessorBridge.compile, CoprocessorTable.release,
  Callback.run, EngineConfiguration.drop
-/
import RecompilerAdapter.Adapter.World

namespace RecompilerAdapter

/-- Releases the context of a table. -/
def CoprocessorTable.release {σ ν : Type} (table : CoprocessorTable σ ν) : Exec σ ν Unit :=
  Exec.emit (.destroyed table.context)

namespace CoprocessorBridge

variable {σ ν : Type}

/-- Calls the entry for a request and reads its answer for the wrapper's handle. -/
def consult {α β : Type} (perform : Performer σ ν) (bridge : CoprocessorBridge σ ν)
    (request : CompileRequest) (entry : Activity σ ν α) (report : α → CompileAnswer)
    (decode : α → Handle → β) : Exec σ ν β := do
  let context := bridge.table.context
  Exec.emit (.compiling bridge.slot bridge.index context request)
  let wire ← entry.exec perform
  Exec.emit (.compiled bridge.slot bridge.index context request (report wire))
  return decode wire (← Exec.boundHandle bridge.slot)

/-- Asks for an internal operation. -/
def internalOperation (perform : Performer σ ν) (bridge : CoprocessorBridge σ ν) (two : Bool)
    (opc1 : UInt32) (crd crn crm : CoprocessorRegister) (opc2 : UInt32) :
    Exec σ ν (Option (Callback (DeferredFunction σ ν))) :=
  let table := bridge.table
  bridge.consult perform (.internalOperation two opc1 crd crn crm opc2)
    (table.internalOperation table.context two opc1 crd crn crm opc2)
    WireCallback.report WireCallback.decode

/-- Asks for a transfer of one word to the coprocessor. -/
def sendOneWord (perform : Performer σ ν) (bridge : CoprocessorBridge σ ν) (two : Bool)
    (opc1 : UInt32) (crn crm : CoprocessorRegister) (opc2 : UInt32) :
    Exec σ ν (Transfer (DeferredFunction σ ν) Location) :=
  let table := bridge.table
  bridge.consult perform (.sendOneWord two opc1 crn crm opc2)
    (table.sendOneWord table.context two opc1 crn crm opc2)
    (WireTransfer.report fun location => [location]) WireTransfer.decode

/-- Asks for a transfer of two words to the coprocessor. -/
def sendTwoWords (perform : Performer σ ν) (bridge : CoprocessorBridge σ ν) (two : Bool)
    (opc : UInt32) (crm : CoprocessorRegister) :
    Exec σ ν (Transfer (DeferredFunction σ ν) (Location × Location)) :=
  let table := bridge.table
  bridge.consult perform (.sendTwoWords two opc crm)
    (table.sendTwoWords table.context two opc crm)
    (WireTransfer.report fun (low, high) => [low, high]) WireTransfer.decode

/-- Asks for a transfer of one word from the coprocessor. -/
def getOneWord (perform : Performer σ ν) (bridge : CoprocessorBridge σ ν) (two : Bool)
    (opc1 : UInt32) (crn crm : CoprocessorRegister) (opc2 : UInt32) :
    Exec σ ν (Transfer (DeferredFunction σ ν) Location) :=
  let table := bridge.table
  bridge.consult perform (.getOneWord two opc1 crn crm opc2)
    (table.getOneWord table.context two opc1 crn crm opc2)
    (WireTransfer.report fun location => [location]) WireTransfer.decode

/-- Asks for a transfer of two words from the coprocessor. -/
def getTwoWords (perform : Performer σ ν) (bridge : CoprocessorBridge σ ν) (two : Bool)
    (opc : UInt32) (crm : CoprocessorRegister) :
    Exec σ ν (Transfer (DeferredFunction σ ν) (Location × Location)) :=
  let table := bridge.table
  bridge.consult perform (.getTwoWords two opc crm)
    (table.getTwoWords table.context two opc crm)
    (WireTransfer.report fun (low, high) => [low, high]) WireTransfer.decode

/-- Asks for a transfer from memory to the coprocessor. -/
def loadWords (perform : Performer σ ν) (bridge : CoprocessorBridge σ ν) (two long : Bool)
    (crd : CoprocessorRegister) (option : Option UInt8) :
    Exec σ ν (Option (Callback (DeferredFunction σ ν))) :=
  let table := bridge.table
  bridge.consult perform (.loadWords two long crd option)
    (table.loadWords table.context two long crd (.ofOption option))
    WireCallback.report WireCallback.decode

/-- Asks for a transfer from the coprocessor to memory. -/
def storeWords (perform : Performer σ ν) (bridge : CoprocessorBridge σ ν) (two long : Bool)
    (crd : CoprocessorRegister) (option : Option UInt8) :
    Exec σ ν (Option (Callback (DeferredFunction σ ν))) :=
  let table := bridge.table
  bridge.consult perform (.storeWords two long crd option)
    (table.storeWords table.context two long crd (.ofOption option))
    WireCallback.report WireCallback.decode

/-- Forwards a compile request and yields its answer. -/
def compile (perform : Performer σ ν) (bridge : CoprocessorBridge σ ν) :
    CompileRequest → Exec σ ν (Compiled (DeferredFunction σ ν))
  | .internalOperation two opc1 crd crn crm opc2 =>
    .operation <$> bridge.internalOperation perform two opc1 crd crn crm opc2
  | .sendOneWord two opc1 crn crm opc2 =>
    .oneWord <$> bridge.sendOneWord perform two opc1 crn crm opc2
  | .sendTwoWords two opc crm => .twoWords <$> bridge.sendTwoWords perform two opc crm
  | .getOneWord two opc1 crn crm opc2 =>
    .oneWord <$> bridge.getOneWord perform two opc1 crn crm opc2
  | .getTwoWords two opc crm => .twoWords <$> bridge.getTwoWords perform two opc crm
  | .loadWords two long crd option => .operation <$> bridge.loadWords perform two long crd option
  | .storeWords two long crd option =>
    .operation <$> bridge.storeWords perform two long crd option

/-- Drops the bridge, which releases the context of its table. -/
def drop (bridge : CoprocessorBridge σ ν) : Exec σ ν Unit := do
  Exec.emit (.log (.destroyingCoprocessor bridge.index))
  bridge.table.release

end CoprocessorBridge

/-- Calls a deferred operation with its own handle and argument. -/
def Callback.run {σ ν : Type} (perform : Performer σ ν) (callback : Callback (DeferredFunction σ ν))
    (first second : UInt32) : Exec σ ν UInt64 := do
  Exec.emit (.invoked callback.handle callback.userArgument first second)
  (callback.call first second).exec perform

/-- Drops the bridges of a configuration, from the lowest slot to the highest. -/
def EngineConfiguration.drop {σ ν : Type} (configuration : EngineConfiguration σ ν) :
    Exec σ ν Unit :=
  configuration.coprocessors.toList.forM fun
    | some bridge => bridge.drop
    | none => pure ()

end RecompilerAdapter
