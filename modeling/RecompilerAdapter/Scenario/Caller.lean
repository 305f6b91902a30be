/-
Module: RecompilerAdapter.Scenario.Caller
Purpose: The caller of a scenario: flat guest memory, a quota of ticks, and lists of deeds to be done on
  traps. It also keeps what stands behind the addresses it hands out: the contexts of its coprocessors,
  the arguments of its deferred operations, and the handles of its wrappers.
Trusted boundary: the definitions of this module
Main exports: ResponseRule, CoprocessorRule, Caller, Deed.body
-/
import RecompilerAdapter.Activity
import RecompilerAdapter.Coprocessor.Table
import RecompilerAdapter.Memory
import RecompilerAdapter.Scenario.Note

namespace RecompilerAdapter.Scenario

/-- Deeds to be done on supervisor calls of one number, or of any. -/
structure SupervisorRule where
  number : Option UInt32
  deeds : List Deed
deriving Repr, DecidableEq

/-- A deferred operation: what it is called, what it does and what it answers. -/
structure DeferredOperation where
  id : Nat
  answer : UInt64
  deeds : List Deed
deriving Repr, DecidableEq

/-- An answer of a coprocessor as a scenario gives it. -/
inductive ResponseRule where
  | unsupported
  | locations (locations : List Location)
  | deferred (operation : DeferredOperation)
deriving Repr, DecidableEq

/-- The three ways to write a coprocessor: as an object with methods, as a hand-written table, or as
an object that defines no method. -/
inductive CoprocessorStyle where
  | object
  | handWritten
  | bare
deriving Repr, DecidableEq

/-- A coprocessor as a scenario gives it. The answers to one form of request are given in turn, over
and over. -/
structure CoprocessorRule where
  id : Nat
  style : CoprocessorStyle
  responses : List (CompileKind × List ResponseRule)
deriving Repr, DecidableEq

/-- An answer of a coprocessor, with the argument that stands for a deferred operation. -/
inductive Response where
  | unsupported
  | locations (locations : List Location)
  | deferred (userArgument : UInt64)
deriving Repr, DecidableEq

/-- A coprocessor that the caller has created. -/
structure CoprocessorObject where
  id : Nat
  responses : List (CompileKind × List Response)
  /-- How many requests of each form were answered. -/
  answered : Registry CompileKind Nat
deriving Repr

/-- The state of the caller. -/
structure Caller where
  memory : Memory
  quota : UInt64
  executed : UInt64
  /-- Half-open ranges of read-only addresses. -/
  readOnly : List (Nat × Nat)
  supervisorRules : List SupervisorRule
  exceptionDeeds : List Deed
  coprocessors : Registry Context CoprocessorObject
  operations : Registry UInt64 DeferredOperation
  /-- The living wrappers by number. -/
  wrappers : Registry Nat Handle
  /-- The numbers of all wrappers that ever lived. -/
  numbers : Registry Handle Nat
  /-- How many addresses were handed out. -/
  addresses : Nat
deriving Repr

/-- The body of one of this caller's callbacks. -/
abbrev Body : Type → Type :=
  Activity Caller Note

namespace Caller

/-- The caller before anything happens. -/
def initial (memorySize : Nat) (quota : UInt64) (readOnly : List (Nat × Nat))
    (supervisorRules : List SupervisorRule) (exceptionDeeds : List Deed) : Caller where
  memory := .zeroed memorySize
  quota := quota
  executed := 0
  readOnly := readOnly
  supervisorRules := supervisorRules
  exceptionDeeds := exceptionDeeds
  coprocessors := .empty
  operations := .empty
  wrappers := .empty
  numbers := .empty
  addresses := 0

/-- Whether an address is read-only. -/
def isReadOnly (caller : Caller) (vaddr : UInt32) : Bool :=
  caller.readOnly.any fun (first, after) => first ≤ vaddr.toNat && vaddr.toNat < after

/-- Accounts executed ticks. The count wraps around; the quota stops at zero. -/
def addTicks (caller : Caller) (ticks : UInt64) : Caller :=
  { caller with
    executed := caller.executed + ticks
    quota := if ticks ≤ caller.quota then caller.quota - ticks else 0 }

/-- The deeds for a supervisor call, in the order of the rules. -/
def supervisorDeeds (caller : Caller) (number : UInt32) : List Deed :=
  (caller.supervisorRules.filter fun rule =>
    rule.number == none || rule.number == some number).flatMap (·.deeds)

/-- Gives a deferred operation an argument that stands for it. -/
def addOperation (caller : Caller) (operation : DeferredOperation) : Caller × UInt64 :=
  let address := caller.addresses + 1
  let argument := UInt64.ofNat address
  ({ caller with
      addresses := address
      operations := caller.operations.insert argument operation }, argument)

/-- Prepares an answer. -/
def addResponse (caller : Caller) : ResponseRule → Caller × Response
  | .unsupported => (caller, .unsupported)
  | .locations locations => (caller, .locations locations)
  | .deferred operation =>
    let (caller, argument) := caller.addOperation operation
    (caller, .deferred argument)

/-- Prepares answers in their order. -/
def addResponses (caller : Caller) : List ResponseRule → Caller × List Response
  | [] => (caller, [])
  | rule :: rules =>
    let (caller, response) := caller.addResponse rule
    let (caller, responses) := caller.addResponses rules
    (caller, response :: responses)

/-- Prepares the answers to all forms of requests. -/
def addResponseLists (caller : Caller) :
    List (CompileKind × List ResponseRule) → Caller × List (CompileKind × List Response)
  | [] => (caller, [])
  | (kind, rules) :: rest =>
    let (caller, responses) := caller.addResponses rules
    let (caller, lists) := caller.addResponseLists rest
    (caller, (kind, responses) :: lists)

/-- Creates a coprocessor and its context. -/
def addCoprocessor (caller : Caller) (rule : CoprocessorRule) : Caller × Context :=
  let (caller, responses) := caller.addResponseLists rule.responses
  let context : Context := ⟨caller.addresses + 1⟩
  ({ caller with
      addresses := caller.addresses + 1
      coprocessors := caller.coprocessors.insert context ⟨rule.id, responses, .empty⟩ }, context)

/-- Gives a wrapper its number. -/
def addWrapper (caller : Caller) (number : Nat) (handle : Handle) : Caller :=
  { caller with
    wrappers := caller.wrappers.insert number handle
    numbers := caller.numbers.insert handle number }

/-- Forgets a living wrapper, but not which number its handle had. -/
def removeWrapper (caller : Caller) (number : Nat) : Caller :=
  { caller with wrappers := caller.wrappers.erase number }

/-- The handle of the living wrapper of a number; null if there is none. -/
def handleOf (caller : Caller) (number : Nat) : Handle :=
  (caller.wrappers.get? number).getD .null

end Caller

namespace CoprocessorObject

/-- The next answer to a form of request, and the coprocessor after giving it. -/
def respond (object : CoprocessorObject) (kind : CompileKind) : Response × CoprocessorObject :=
  match object.responses.lookup kind with
  | none | some [] => (.unsupported, object)
  | some (first :: rest) =>
    let turn := (object.answered.get? kind).getD 0
    let responses := first :: rest
    (responses.getD (turn % responses.length) .unsupported,
      { object with answered := object.answered.insert kind (turn + 1) })

end CoprocessorObject

namespace Deed

/-- Does a deed, `handle` naming the wrapper at hand. -/
def body (handle : Handle) : Deed → Body DeedResult
  | act surface action => return .reply (← Activity.act surface handle action)
  | on number deed => do
    let caller := (← Activity.get).own
    deed.body (caller.handleOf number)
  | setTicks ticks => do
    Activity.modifyOwn fun caller => { caller with quota := ticks }
    return .nothing

/-- Does deeds in their order and notes each of them. -/
def bodies (handle : Handle) : List Deed → Body Unit
  | [] => return ()
  | deed :: rest => do
    let result ← deed.body handle
    Activity.write (.deed deed result)
    bodies handle rest

end Deed

end RecompilerAdapter.Scenario
