/-
Module: RecompilerAdapter.Scenario.Tables
Purpose: The tables that the caller of a scenario hands over. Every entry notes that it was called and for
  whom, then does what is asked. There are four callback tables: plain entries with and without the
  read-only query, and entries for host objects with and without a read-only method of their own.
Trusted boundary: the definitions of this module
Main exports: TableStyle, TableStyle.table, Caller.answerCompile, CoprocessorStyle.table
-/
import RecompilerAdapter.Callback.Host
import RecompilerAdapter.Coprocessor.Host
import RecompilerAdapter.Scenario.Caller

namespace RecompilerAdapter.Scenario

namespace Caller

/-- Reads guest memory. -/
def readMemory (receiver : Receiver) (width : Width) (vaddr : UInt32) :
    Body (BitVec width.bits) := do
  let value := (← Activity.get).own.memory.read width vaddr
  Activity.write (.read receiver width vaddr value.toNat)
  return value

/-- Writes guest memory. -/
def writeMemory (receiver : Receiver) (width : Width) (vaddr : UInt32)
    (value : BitVec width.bits) : Body Unit := do
  Activity.write (.write receiver width vaddr value.toNat)
  Activity.modifyOwn fun caller =>
    { caller with memory := caller.memory.write width vaddr value }

/-- Answers whether an address is read-only. -/
def askReadOnly (receiver : Receiver) (vaddr : UInt32) : Body Bool := do
  let answer := (← Activity.get).own.isReadOnly vaddr
  Activity.write (.readOnly receiver vaddr answer)
  return answer

/-- Handles a supervisor call. -/
def handleSupervisorCall (receiver : Receiver) (handle : Handle) (number : UInt32) :
    Body Unit := do
  Activity.write (.supervisorCall receiver number)
  Deed.bodies handle ((← Activity.get).own.supervisorDeeds number)

/-- Handles an exception. -/
def handleException (receiver : Receiver) (handle : Handle) (pc : UInt32)
    (condition : ExceptionKind) : Body Unit := do
  Activity.write (.exceptionRaised receiver pc condition)
  Deed.bodies handle (← Activity.get).own.exceptionDeeds

/-- Accounts ticks. -/
def account (receiver : Receiver) (ticks : UInt64) : Body Unit := do
  Activity.write (.addTicks receiver ticks)
  Activity.modifyOwn fun caller => caller.addTicks ticks

/-- Answers how many ticks are left. -/
def askTicks (receiver : Receiver) : Body UInt64 := do
  let answer := (← Activity.get).own.quota
  Activity.write (.ticksRemaining receiver answer)
  return answer

end Caller

/-- The callback tables of a scenario. -/
inductive TableStyle where
  | plain
  | plainWithoutReadOnly
  | object
  | objectWithoutReadOnly
deriving Repr, DecidableEq

namespace TableStyle

/-- The table of plain entries, which know the handle. -/
def plainTable : CallbackTable Caller Note where
  read8 handle vaddr := Caller.readMemory (.handle handle) .byte vaddr
  read16 handle vaddr := Caller.readMemory (.handle handle) .halfword vaddr
  read32 handle vaddr := Caller.readMemory (.handle handle) .word vaddr
  read64 handle vaddr := Caller.readMemory (.handle handle) .doubleword vaddr
  write8 handle vaddr value := Caller.writeMemory (.handle handle) .byte vaddr value
  write16 handle vaddr value := Caller.writeMemory (.handle handle) .halfword vaddr value
  write32 handle vaddr value := Caller.writeMemory (.handle handle) .word vaddr value
  write64 handle vaddr value := Caller.writeMemory (.handle handle) .doubleword vaddr value
  isReadOnly := some fun handle vaddr => Caller.askReadOnly (.handle handle) vaddr
  supervisorCall handle number := Caller.handleSupervisorCall (.handle handle) handle number
  exceptionRaised handle pc condition :=
    Caller.handleException (.handle handle) handle pc condition
  addTicks handle ticks := Caller.account (.handle handle) ticks
  ticksRemaining handle := Caller.askTicks (.handle handle)

/-- The host object that defines no read-only method. -/
def hostWithoutReadOnly : HostCallbacks Caller Note where
  read self width vaddr := Caller.readMemory (.object self) width vaddr
  write self width vaddr value := Caller.writeMemory (.object self) width vaddr value
  supervisorCall self handle number :=
    Caller.handleSupervisorCall (.objectWith self handle) handle number
  exceptionRaised self handle pc condition :=
    Caller.handleException (.objectWith self handle) handle pc condition
  addTicks self ticks := Caller.account (.object self) ticks
  ticksRemaining self := Caller.askTicks (.object self)

/-- The host object with all methods. -/
def host : HostCallbacks Caller Note :=
  { hostWithoutReadOnly with
    isReadOnly := fun self vaddr => Caller.askReadOnly (.object self) vaddr }

/-- The callback table of a style. -/
def table : TableStyle → CallbackTable Caller Note
  | plain => plainTable
  | plainWithoutReadOnly => { plainTable with isReadOnly := none }
  | object => host.table
  | objectWithoutReadOnly => hostWithoutReadOnly.table

/-- The context that a wrapper with such a table has: a number, or the host object of that
number. -/
def userData (style : TableStyle) (value : UInt64) : UserData :=
  match style with
  | plain | plainWithoutReadOnly => .word value
  | object | objectWithoutReadOnly => .object value

end TableStyle

namespace Response

/-- The handler of all deferred operations: it finds the operation by its argument. -/
def handleDeferred (handle : Handle) (argument : UInt64) (first second : UInt32) :
    Body UInt64 := do
  match (← Activity.get).own.operations.get? argument with
  | some operation =>
    Activity.write (.deferred operation.id handle first second)
    Deed.bodies handle operation.deeds
    return operation.answer
  | none => return 0

/-- The deferred operation of an argument. -/
def raw (argument : UInt64) : RawCallback (DeferredFunction Caller Note) :=
  .forHandler handleDeferred argument

/-- The answer to a request for an operation. Direct access is no answer to it. -/
def operation : Response → WireOperation Caller Note
  | deferred argument => .present (raw argument)
  | _ => .absent

/-- The answer to a request for a transfer of one word. -/
def oneWord : Response → WireOneWord Caller Note
  | deferred argument => .callback (raw argument)
  | locations (location :: _) => .access location
  | _ => .absent

/-- The answer to a request for a transfer of two words. -/
def twoWords : Response → WireTwoWords Caller Note
  | deferred argument => .callback (raw argument)
  | locations (low :: high :: _) => .access (low, high)
  | _ => .absent

end Response

namespace Caller

/-- Notes a compile request and finds the answer to it. -/
def answerCompile (context : Context) (request : CompileRequest) : Body Response := do
  match (← Activity.get).own.coprocessors.get? context with
  | some object =>
    Activity.write (.compile object.id request)
    let (response, object) := object.respond request.kind
    Activity.modifyOwn fun caller =>
      { caller with coprocessors := caller.coprocessors.insert context object }
    return response
  | none => return .unsupported

/-- The coprocessor object with all methods. -/
def coprocessor : HostCoprocessor Caller Note where
  internalOperation self two opc1 crd crn crm opc2 :=
    return (← answerCompile self (.internalOperation two opc1 crd crn crm opc2)).operation
  sendOneWord self two opc1 crn crm opc2 :=
    return (← answerCompile self (.sendOneWord two opc1 crn crm opc2)).oneWord
  sendTwoWords self two opc crm :=
    return (← answerCompile self (.sendTwoWords two opc crm)).twoWords
  getOneWord self two opc1 crn crm opc2 :=
    return (← answerCompile self (.getOneWord two opc1 crn crm opc2)).oneWord
  getTwoWords self two opc crm :=
    return (← answerCompile self (.getTwoWords two opc crm)).twoWords
  loadWords self two long crd option :=
    return (← answerCompile self (.loadWords two long crd option)).operation
  storeWords self two long crd option :=
    return (← answerCompile self (.storeWords two long crd option)).operation

/-- The hand-written coprocessor table. -/
def coprocessorTable (context : Context) : CoprocessorTable Caller Note where
  context := context
  internalOperation this two opc1 crd crn crm opc2 :=
    return (← answerCompile this (.internalOperation two opc1 crd crn crm opc2)).operation
  sendOneWord this two opc1 crn crm opc2 :=
    return (← answerCompile this (.sendOneWord two opc1 crn crm opc2)).oneWord
  sendTwoWords this two opc crm :=
    return (← answerCompile this (.sendTwoWords two opc crm)).twoWords
  getOneWord this two opc1 crn crm opc2 :=
    return (← answerCompile this (.getOneWord two opc1 crn crm opc2)).oneWord
  getTwoWords this two opc crm :=
    return (← answerCompile this (.getTwoWords two opc crm)).twoWords
  loadWords this two long crd option :=
    return (← answerCompile this (.loadWords two long crd option.toOption)).operation
  storeWords this two long crd option :=
    return (← answerCompile this (.storeWords two long crd option.toOption)).operation

end Caller

/-- The table of a coprocessor with the given context. -/
def CoprocessorStyle.table (style : CoprocessorStyle) (context : Context) :
    CoprocessorTable Caller Note :=
  match style with
  | object => Caller.coprocessor.table context
  | handWritten => Caller.coprocessorTable context
  | bare => HostCoprocessor.unsupporting.table context

end RecompilerAdapter.Scenario
