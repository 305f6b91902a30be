/-
Module: RecompilerAdapter.Scenario.Note
Purpose: What a recording caller does inside its callbacks, and what it notes. The deeds of a scenario are
  data: actions on the wrapper whose handle a callback received, or on another wrapper by its number.
Trusted boundary: the definitions of this module
Main exports: Deed, DeedResult, Note
-/
import RecompilerAdapter.Event

namespace RecompilerAdapter.Scenario

/-- Something done inside a callback, or between runs. -/
inductive Deed where
  /-- Acts on the wrapper at hand. -/
  | act (surface : Surface) (action : Action)
  /-- Does something with the wrapper of the given number. -/
  | on (wrapper : Nat) (deed : Deed)
  /-- Sets the quota of ticks. -/
  | setTicks (ticks : UInt64)
deriving Repr, DecidableEq

/-- What a deed yields. -/
inductive DeedResult where
  | nothing
  | reply (reply : Reply)
deriving Repr, DecidableEq

/-- Whom an entry was called for, as the entry itself can tell: a plain entry knows the handle, a
method knows its object, and the trap methods know both. -/
inductive Receiver where
  | handle (handle : Handle)
  | object (self : UserData)
  | objectWith (self : UserData) (handle : Handle)
deriving Repr, DecidableEq

/-- A note of the caller, made when one of its functions is called or a deed is done. -/
inductive Note where
  | read (receiver : Receiver) (width : Width) (vaddr : UInt32) (value : Nat)
  | write (receiver : Receiver) (width : Width) (vaddr : UInt32) (value : Nat)
  | readOnly (receiver : Receiver) (vaddr : UInt32) (answer : Bool)
  | supervisorCall (receiver : Receiver) (number : UInt32)
  | exceptionRaised (receiver : Receiver) (pc : UInt32) (condition : ExceptionKind)
  | addTicks (receiver : Receiver) (ticks : UInt64)
  | ticksRemaining (receiver : Receiver) (answer : UInt64)
  | compile (coprocessor : Nat) (request : CompileRequest)
  | deferred (operation : Nat) (handle : Handle) (first second : UInt32)
  | deed (deed : Deed) (result : DeedResult)
deriving Repr, DecidableEq

/-- The word by which a note is listed or silenced, if it is not a deed of its own kind. -/
def Note.keyword : Note → String
  | read _ width .. => "read" ++ toString width.bits
  | write _ width .. => "write" ++ toString width.bits
  | readOnly .. => "ro"
  | supervisorCall .. => "svc"
  | exceptionRaised .. => "exc"
  | addTicks .. => "add_ticks"
  | ticksRemaining .. => "ticks"
  | compile _ request => request.kind.mnemonic
  | deferred .. => "deferred"
  | deed .. => "act"

/-- The word by which an event is listed or silenced. The calls that cross the boundary and the
executed words are not listed; the caller's own notes of them are. -/
def keyword? : Event Note → Option String
  | .log _ => some "log"
  | .destroyed _ => some "destroy"
  | .configured _ => some "config"
  | .performed .. => some "eng"
  | .note note => some note.keyword
  | .calling .. | .fallingBack .. | .requested .. | .answered .. | .compiling .. | .compiled ..
  | .invoked .. | .acting .. | .acted .. | .attached .. | .runEntered _ | .runLeft _
  | .fetched .. => none

/-- The events that are listed, leaving out the silenced words. -/
def listed (quiet : List String) (events : List (Event Note)) : List (Event Note) :=
  events.filter fun event =>
    match keyword? event with
    | some word => !quiet.contains word
    | none => false

end RecompilerAdapter.Scenario
