/-
Module: RecompilerAdapter.Scenario.LoneBridge
Purpose: Scenarios about a single bridge without an engine around it. The bridge has a handle slot of its
  own, which is bound beforehand or stays unbound.
Trusted boundary: the definitions of this module
Main exports: LoneBridge.playCallbacks, LoneBridge.CoprocessorStep, LoneBridge.playCoprocessor
-/
import RecompilerAdapter.Scenario.Tables
import RecompilerAdapter.Scenario.Transcript

namespace RecompilerAdapter.Scenario

/-- Creates a slot and binds it, if there is a handle. -/
def prepareSlot (handle : Option Handle) : Play HandleSlot := do
  let slot ← Exec.allocateSlot
  handle.forM (Exec.bindSlot slot)
  return slot

namespace LoneBridge

/-- The transcript of operations on a callback bridge. -/
def playCallbacks (caller : Caller) (style : TableStyle) (handle : Option Handle)
    (operations : List EngineOperation) : Transcript OperationResult :=
  let opening : Play (EngineConfiguration Caller Note) := do
    return {
      callbacks := ⟨style.table, ← prepareSlot handle⟩
      pageTable := none
      coprocessors := Vector.replicate coprocessorCount none
      options := .default }
  match opening (.initial caller) with
  | .ok configuration stage =>
    .record (Scripted.execute performer configuration) (fun _ => pure ()) none stage operations
  | .error stop stage => ⟨[], .stopped stop [], stage⟩

/-- A step with a coprocessor bridge. -/
inductive CoprocessorStep where
  | compile (request : CompileRequest)
  | use (use : AnswerUse)
  /-- Asks the bridge for the number of its slot. -/
  | index
deriving Repr, DecidableEq

/-- What a step with a coprocessor bridge yields. -/
inductive CoprocessorResult where
  | operation (result : OperationResult)
  | index (number : Nat)
deriving Repr, DecidableEq

/-- Performs one step with a coprocessor bridge. -/
def performStep (bridge : CoprocessorBridge Caller Note) (last : Scripted.Last Caller Note) :
    CoprocessorStep → Play (CoprocessorResult × Scripted.Last Caller Note)
  | .compile request => do
    let compiled ← bridge.compile performer request
    return (.operation (Scripted.describe compiled), some compiled)
  | .use use => return (.operation (← Scripted.useAnswer performer last use), last)
  | .index => return (.index bridge.index, last)

/-- The transcript of steps with a coprocessor bridge. The bridge is dropped in the end. -/
def playCoprocessor (caller : Caller) (rule : CoprocessorRule) (index : Nat)
    (handle : Option Handle) (steps : List CoprocessorStep) : Transcript CoprocessorResult :=
  let (caller, context) := caller.addCoprocessor rule
  match prepareSlot handle (.initial caller) with
  | .ok slot stage =>
    let bridge : CoprocessorBridge Caller Note := ⟨index, rule.style.table context, slot⟩
    .record (performStep bridge) (fun _ => bridge.drop) none stage steps
  | .error stop stage => ⟨[], .stopped stop [], stage⟩

end LoneBridge

end RecompilerAdapter.Scenario
