/-
Module: RecompilerAdapter.Scenario.Step
Purpose: The steps of a session with builders and wrappers, which are known by numbers, and what the steps
  yield.
Trusted boundary: the definitions of this module
Main exports: PageRule, Step, StepResult
-/
import RecompilerAdapter.Adapter.Command
import RecompilerAdapter.Scenario.Tables

namespace RecompilerAdapter.Scenario

/-- A page of a page table: little-endian words at offsets, and zeros elsewhere. -/
structure PageRule where
  number : Nat
  words : List (Nat × UInt32)
deriving Repr, DecidableEq

namespace PageRule

/-- The page that a rule describes. -/
def page (rule : PageRule) : Page :=
  rule.words.foldl (fun page (offset, word) => page.store offset word) .zeroed

/-- The page table with the given pages. Of two pages with one number the later one counts. -/
def table (rules : List PageRule) : PageTable Caller where
  page? number := (rules.findRev? fun rule => rule.number == number).map fun rule _ => rule.page

end PageRule

/-- One step of a session. -/
inductive Step where
  | openBuilder (builder : Nat) (style : TableStyle) (userData : UInt64)
  | installCoprocessor (builder slot : Nat) (coprocessor : CoprocessorRule)
  /-- Replaces the coprocessors of all slots. -/
  | installCoprocessors (builder : Nat) (coprocessors : List (Nat × CoprocessorRule))
  /-- Reads tunables from a text and uses them. -/
  | useOptions (builder : Nat) (text : String)
  | usePageTable (builder : Nat) (pages : Option (List PageRule))
  | dropBuilder (builder : Nat)
  | build (builder wrapper : Nat) (engine : EngineChoice)
  /-- Builds a wrapper on the foreign surface. -/
  | construct (wrapper : Nat) (style : TableStyle) (userData : UInt64)
      (pages : Option (List PageRule)) (coprocessors : Option (List (Nat × CoprocessorRule)))
      (engine : EngineChoice)
  | deed (wrapper : Nat) (deed : Deed)
  /-- Gives the ownership of a wrapper away and asks whether its handle stays the same. -/
  | giveAway (wrapper : Nat)
  /-- Takes the ownership of a wrapper back. -/
  | takeBack (wrapper : Nat)
  | delete (wrapper : Nat)
  | loadWords (address : UInt32) (words : List UInt32)
  | peek (address length : Nat)
  | setTicks (ticks : UInt64)
  | askTicks
  /-- Asks for the words at the first eight locations. -/
  | askWords
  | setWord (location : Location) (word : UInt32)
  | onSupervisorCall (rules : List SupervisorRule)
  | onException (deeds : List Deed)
deriving Repr, DecidableEq

/-- What a step of a session yields. -/
inductive StepResult where
  | nothing
  | accepted
  | refused (error : AdapterError)
  | deed (result : DeedResult)
  | flag (value : Bool)
  | bytes (bytes : List UInt8)
  /-- The ticks that are left and the ticks that were executed. -/
  | ticks (left executed : UInt64)
  | words (words : List UInt32)
deriving Repr, DecidableEq

end RecompilerAdapter.Scenario
