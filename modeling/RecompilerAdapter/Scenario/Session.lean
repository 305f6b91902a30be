/-
Module: RecompilerAdapter.Scenario.Session
Purpose: Sessions of the recording caller. Most steps give one command; building and deleting also keep
  the caller's list of living wrappers. When the steps are over, the builders that are left are dropped in
  the order of their numbers, then the living wrappers are deleted in the order of theirs.
Trusted boundary: the definitions of this module
Main exports: Session.caller, Session.perform, playSession
-/
import RecompilerAdapter.Scenario.Step
import RecompilerAdapter.Scenario.Transcript

namespace RecompilerAdapter.Scenario

/-- What a step yields, given the outcome of its command. -/
def StepResult.ofOutcome : Outcome StepResult → StepResult
  | .done | .built _ => accepted
  | .refused error => refused error
  | .answered result => result

namespace Session

/-- The caller. -/
def caller : Play Caller :=
  return (← get).shared.own

/-- Changes the caller. -/
def modifyCaller (update : Caller → Caller) : Play Unit :=
  modify fun stage => { stage with shared := { stage.shared with own := update stage.shared.own } }

/-- Creates a coprocessor and its table. -/
def createCoprocessor (rule : CoprocessorRule) : Play (CoprocessorTable Caller Note) := do
  let (after, context) := (← caller).addCoprocessor rule
  modifyCaller fun _ => after
  return rule.style.table context

/-- Creates coprocessors in their order. -/
def createCoprocessors (rules : List (Nat × CoprocessorRule)) :
    Play (List (Nat × CoprocessorTable Caller Note)) :=
  rules.mapM fun (slot, rule) => return (slot, ← createCoprocessor rule)

/-- The tables of all slots. -/
def arrange (tables : List (Nat × CoprocessorTable Caller Note)) : CoprocessorTables Caller Note :=
  tables.foldl (fun slots (slot, table) => slots.setIfInBounds slot (some table))
    (Vector.replicate coprocessorCount none)

/-- The handle of the living wrapper of a number. -/
def handle (number : Nat) : Play Handle := do
  match (← caller).wrappers.get? number with
  | some handle => return handle
  | none => throw (.unknownNumber number)

/-- Carries out a command. -/
def submit (builders : Builders Caller Note) (command : Command Caller Note StepResult) :
    Play (StepResult × Builders Caller Note) := do
  let (outcome, builders) ← command.exec performer builders
  return (.ofOutcome outcome, builders)

/-- Carries out a command that reports nothing. -/
def submitSilently (builders : Builders Caller Note) (command : Command Caller Note StepResult) :
    Play (StepResult × Builders Caller Note) := do
  let (_, builders) ← command.exec performer builders
  return (.nothing, builders)

/-- Gives a wrapper its number. A wrapper that had the number before is deleted. -/
def adopt (number : Nat) (handle : Handle) : Play Unit := do
  let previous := (← caller).wrappers.get? number
  modifyCaller fun caller => caller.addWrapper number handle
  previous.forM Wrapper.delete

/-- Carries out a command that builds a wrapper, and gives the wrapper its number. -/
def submitBuild (builders : Builders Caller Note) (number : Nat)
    (command : Command Caller Note StepResult) : Play (StepResult × Builders Caller Note) := do
  let (outcome, builders) ← command.exec performer builders
  if let .built handle := outcome then
    adopt number handle
  return (.ofOutcome outcome, builders)

/-- Changes the caller and yields nothing. -/
def update (change : Caller → Caller) : Body StepResult := do
  Activity.modifyOwn change
  return .nothing

/-- Looks at the caller's side. -/
def inspect (view : Shared Caller → StepResult) : Body StepResult :=
  return view (← Activity.get)

/-- Performs one step. -/
def perform (builders : Builders Caller Note) : Step → Play (StepResult × Builders Caller Note)
  | .openBuilder number style userData =>
    submitSilently builders (.openBuilder number (style.userData userData) style.table)
  | .installCoprocessor number slot rule => do
    submit builders (.installCoprocessor number slot (← createCoprocessor rule))
  | .installCoprocessors number rules => do
    submit builders (.installCoprocessors number (arrange (← createCoprocessors rules)))
  | .useOptions number text =>
    match Options.ofJson text with
    | .ok options => submit builders (.useOptions number options)
    | .error fault => return (.refused (.invalidOptions fault), builders)
  | .usePageTable number pages =>
    submit builders (.usePageTable number (pages.map PageRule.table))
  | .dropBuilder number => submitSilently builders (.dropBuilder number)
  | .build number wrapper engine => submitBuild builders wrapper (.build number engine)
  | .construct wrapper style userData pages rules engine => do
    let tables ← rules.mapM createCoprocessors
    submitBuild builders wrapper (.construct (style.userData userData) style.table
      (pages.map PageRule.table)
      (tables.map fun tables => (arrange tables).map WireOption.ofOption) engine)
  | .deed wrapper deed => do
    let handle ← handle wrapper
    submit builders (.call (StepResult.deed <$> deed.body handle))
  | .giveAway wrapper => do
    let _ ← handle wrapper
    return (.flag true, builders)
  | .takeBack wrapper => do
    let _ ← handle wrapper
    return (.nothing, builders)
  | .delete wrapper => do
    let answer ← submitSilently builders (.delete (← handle wrapper))
    modifyCaller fun caller => caller.removeWrapper wrapper
    return answer
  | .loadWords address words =>
    submit builders (.call (update fun caller =>
      { caller with memory := caller.memory.loadWords address words }))
  | .peek address length =>
    submit builders (.call (inspect fun shared =>
      .bytes (shared.own.memory.bytes.extract address (address + length)).toList))
  | .setTicks ticks => submit builders (.call (update fun caller => { caller with quota := ticks }))
  | .askTicks =>
    submit builders (.call (inspect fun shared => .ticks shared.own.quota shared.own.executed))
  | .askWords =>
    submit builders (.call (inspect fun shared =>
      .words ((List.range 8).map fun index => shared.words.load ⟨index⟩)))
  | .setWord location word =>
    submit builders (.call do
      Activity.storeWord location word
      return .nothing)
  | .onSupervisorCall rules =>
    submit builders (.call (update fun caller => { caller with supervisorRules := rules }))
  | .onException deeds =>
    submit builders (.call (update fun caller => { caller with exceptionDeeds := deeds }))

/-- Drops the builders that are left, then deletes the living wrappers. -/
def teardown (builders : Builders Caller Note) : Play Unit := do
  for number in builders.keys.mergeSort do
    (builders.get? number).forM Builder.release
  let wrappers := (← caller).wrappers
  for number in wrappers.keys.mergeSort do
    (wrappers.get? number).forM Wrapper.delete

end Session

/-- The transcript of a session. -/
def playSession (caller : Caller) (steps : List Step) : Transcript StepResult :=
  .record Session.perform Session.teardown .empty (.initial caller) steps

end RecompilerAdapter.Scenario
