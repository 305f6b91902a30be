/-
Module: RecompilerAdapter.Proofs.LikeEngines
Purpose: Engines that are alike do alike. From worlds that are alike, a stepping engine behind a handle
  mirrors the one on the other side, a scripted engine performs each operation with the same result, and
  so runs and all other actions end alike.
Trusted boundary: none
Main exports: Stepping.turn_alike, Likeness.performWith
-/
import RecompilerAdapter.Proofs.Likeness
import RecompilerAdapter.Proofs.Performance

namespace RecompilerAdapter

open Stepping (CompiledAlike TransfersAlike)

variable {σ ν α β : Type}

/-! ### Changes of engines -/

namespace BodyRelation

variable {bodies : BodyRelation σ ν}

/-- Engines that are alike have lent out the same parts. -/
theorem Engines.lentParts {engine other : Engine σ ν} (engines : bodies.Engines engine other) :
    Stepping.lentParts engine = Stepping.lentParts other := by
  have mode := engines.mode
  unfold Stepping.lentParts
  generalize engine.mode = kind at mode ⊢
  generalize other.mode = kindToo at mode ⊢
  cases mode <;> rfl

/-- They stay alike when both lend out the same. -/
theorem Engines.setLentParts {engine other : Engine σ ν} (engines : bodies.Engines engine other)
    (lent : List EnginePart) :
    bodies.Engines (Stepping.setLentParts lent engine) (Stepping.setLentParts lent other) := by
  have mode := engines.mode
  unfold Stepping.setLentParts
  cases kind : engine.mode <;> cases kindToo : other.mode <;> rw [kind, kindToo] at mode <;> cases mode
  · exact { engines with mode := .stepping lent }
  · exact engines

/-- They stay alike when both keep answers that are alike. -/
theorem Engines.setLastAnswer {engine other : Engine σ ν} (engines : bodies.Engines engine other)
    {last lastToo : Scripted.Last σ ν} (alike : Option.Rel (CompiledAlike bodies.Callbacks) last lastToo) :
    bodies.Engines (Scripted.setLastAnswer last engine) (Scripted.setLastAnswer lastToo other) := by
  have mode := engines.mode
  unfold Scripted.setLastAnswer
  cases kind : engine.mode <;> cases kindToo : other.mode <;> rw [kind, kindToo] at mode <;> cases mode
  · exact engines
  · exact { engines with mode := .scripted alike }

/-- The answers that they have kept are alike. -/
theorem Engines.lastAnswer {engine other : Engine σ ν} (engines : bodies.Engines engine other) :
    Option.Rel (CompiledAlike bodies.Callbacks) (Scripted.lastAnswer engine)
      (Scripted.lastAnswer other) := by
  have mode := engines.mode
  unfold Scripted.lastAnswer
  generalize engine.mode = kind at mode ⊢
  generalize other.mode = kindToo at mode ⊢
  cases mode with
  | stepping => exact .none
  | scripted alike => exact alike

/-- An action that changes an engine changes engines that are alike in the same way. -/
theorem Engines.adjustment {engine other : Engine σ ν} (engines : bodies.Engines engine other)
    {action : Action} {update : Engine σ ν → Engine σ ν}
    (adjusts : action.adjustment? = some update) : bodies.Engines (update engine) (update other) := by
  cases action <;> cases adjusts
  · exact { engines with haltRequested := rfl }
  · exact { engines with registers := congrArg (Vector.set · _ _) engines.registers }
  · exact { engines with
      extensionRegisters := congrArg (Vector.set · _ _) engines.extensionRegisters }
  · exact { engines with programStatus := rfl }
  · exact { engines with floatingPointStatus := rfl }

/-- Wrappers that are alike look the same. -/
theorem Wrappers.observation {wrapper other : Wrapper σ ν} (wrappers : bodies.Wrappers wrapper other)
    {action : Action} {view : Wrapper σ ν → Reply} (observes : action.observation? = some view) :
    view wrapper = view other := by
  cases action <;> cases observes
  · exact congrArg Reply.state wrappers.state
  · exact congrArg Reply.userData wrappers.userData
  · exact congrArg₂ Reply.description wrappers.userData wrappers.state
  · exact congrArg Reply.registers wrappers.engine.registers
  · exact congrArg Reply.extensionRegisters wrappers.engine.extensionRegisters
  · exact congrArg Reply.word wrappers.engine.programStatus
  · exact congrArg Reply.word wrappers.engine.floatingPointStatus

end BodyRelation

/-! ### Turns and runs of stepping engines -/

namespace Stepping

variable {stopped related : WorldRelation σ ν} {perform counterpart : Performer σ ν}
  {handle another : Handle}

/-- Two engines take a turn alike if they do each part of it alike. -/
theorem turn_alike (takes : Exec.Corresponds stopped related related (· = ·) (takeHalt handle)
      (takeHalt another))
    (asks : ∀ request, Exec.Corresponds stopped related related (· = ·) (ask perform handle request)
      (ask counterpart another request))
    (steps : Exec.Corresponds stopped related related (· = ·) (step perform handle)
      (step counterpart another)) :
    Exec.Corresponds stopped related related (· = ·) (turn perform handle)
      (turn counterpart another) := by
  apply takes.bind_same
  intro halted
  split
  · exact .pure rfl
  · apply (asks .ticksRemaining).bind_same
    intro remaining
    split
    · exact .pure rfl
    · apply steps.bind_same
      intro _
      exact (asks (.addTicks 1)).bind_same fun _ => .pure rfl

/-- By induction on the turns: two run loops end alike if each turn does. -/
theorem run_alike (stops : ∀ world other, related world other → stopped world other)
    (turns : Exec.Corresponds stopped related related (· = ·) (turn perform handle)
      (turn counterpart another)) (bound : Nat) :
    Exec.Corresponds stopped related related (· = ·) (run perform handle bound)
      (run counterpart another bound) := by
  induction bound with
  | zero => exact .throw stops
  | succ bound ih =>
    apply turns.bind_same
    intro goesOn
    cases goesOn
    · exact .pure rfl
    · exact ih

end Stepping

namespace Likeness

variable {stopped related : WorldRelation σ ν} {perform counterpart : Performer σ ν}
  {bodies : BodyRelation σ ν} {handles : Handle → Prop} {handle : Handle}
  (alike : Likeness stopped related perform counterpart bodies handles)

include alike

/-! ### Stepping engines -/

section

variable (isAlike : handles handle)

include isAlike

/-- The answers of coprocessors that are alike are used alike. Their callbacks need not be the same
function, only to end alike. -/
theorem usesAlike :
    Stepping.UsesAlike stopped related related perform counterpart handle handle bodies.Callbacks
      fun _ => True where
  weaken _ _ := id
  run callback other callbacks first second := alike.run callbacks first second
  read number := by
    apply (alike.engine isAlike).bind
    intro engine other engines
    rw [engines.registers]
    exact .pure rfl
  write number value := alike.modifyEngine isAlike fun engine other engines =>
    { engines with registers := congrArg (Vector.set · _ _) engines.registers }
  load location _ := alike.loadWord location
  store location _ := alike.storesWord location

/-- So engines that are alike execute instructions alike, by the general rules for two engines. They
have like bodies in all places, so each part is one rule about bodies. -/
theorem mirrors :
    Stepping.Mirrors stopped (fun _ => related) perform counterpart handle handle bodies.Engines
      fun _ => CompiledAlike bodies.Callbacks where
  stops _ := alike.stops
  engine _ := alike.engine isAlike
  registers engine other engines := engines.registers
  lent engine other engines := engines.lentParts
  paged _ world other worlds engine copy engines address := by
    rw [Stepping.pagedWord, Stepping.pagedWord, engines.configuration.pageTable,
      alike.shared world other worlds]
  lend _ change := alike.modifyEngine isAlike fun engine other engines => by
    rw [engines.lentParts]
    exact engines.setLentParts _
  advance _ next _ := (alike.usesAlike isAlike).write Stepping.pc next
  forward _ engine other engines request _ :=
    alike.forward engines.configuration.slot engines.configuration.table request
  compile _ engine other engines slot request := by
    have bridges := engines.configuration.coprocessors slot
    generalize engine.configuration.coprocessors[slot] = populated at bridges ⊢
    generalize other.configuration.coprocessors[slot] = copied at bridges ⊢
    cases bridges with
    | none => exact .none
    | some same => exact .some (alike.compile same request)
  complete _ instruction compiled other answers next _ :=
    (alike.usesAlike isAlike).complete instruction answers (.any _)
      ((alike.usesAlike isAlike).write Stepping.pc next)

/-- A request is made on both sides, and entries that are alike answer it. -/
theorem ask (request : HostRequest) :
    Exec.Corresponds stopped related related (· = ·) (Stepping.ask perform handle request)
      (Stepping.ask counterpart handle request) := by
  apply (alike.mirrors isAlike).lending []
  apply (alike.engine isAlike).bind
  intro engine other engines
  exact alike.forward engines.configuration.slot engines.configuration.table request

/-- A request to halt is taken on both sides. -/
theorem clearHalt : Exec.Corresponds stopped related related (· = ·)
    (Exec.modifyEngine handle fun engine => { engine with haltRequested := false })
    (Exec.modifyEngine handle fun engine => { engine with haltRequested := false }) :=
  alike.modifyEngine isAlike fun _ _ engines => { engines with haltRequested := rfl }

/-- Both engines find a request to halt, or none does. -/
theorem takeHalt :
    Exec.Corresponds stopped related related (· = ·) (Stepping.takeHalt handle)
      (Stepping.takeHalt handle) := by
  apply (alike.engine isAlike).bind
  intro engine other engines
  apply (alike.clearHalt isAlike).bind_same
  intro _
  exact .pure engines.haltRequested

/-- A run of a stepping engine ends alike on both sides. -/
theorem steppingRun (turns : Nat) :
    Exec.Corresponds stopped related related (· = ·) (Stepping.run perform handle turns)
      (Stepping.run counterpart handle turns) := by
  have mirrors := alike.mirrors isAlike
  have steps := mirrors.step [] mirrors fun _ _ => alike.emit isAlike
  exact Stepping.run_alike alike.stops
    (Stepping.turn_alike (alike.takeHalt isAlike) (alike.ask isAlike) steps) turns

end

/-! ### Scripted engines -/

omit alike in
/-- If one answer holds a deferred operation, so does the other one, and the operations are
alike. -/
theorem callback?_alike {last lastToo : Scripted.Last σ ν}
    (lasts : Option.Rel (CompiledAlike bodies.Callbacks) last lastToo) :
    Option.Rel bodies.Callbacks (last.bind Scripted.callback?) (lastToo.bind Scripted.callback?) := by
  cases lasts with
  | none => exact .none
  | some compiled =>
    cases compiled with
    | operation answers => exact answers
    | oneWord answers | twoWords answers =>
      cases answers with
      | callback held => exact .some held
      | unsupported | access => exact .none

omit alike in
/-- The answers grant access to the same words. -/
theorem locations_alike {last lastToo : Scripted.Last σ ν}
    (lasts : Option.Rel (CompiledAlike bodies.Callbacks) last lastToo) :
    (last.map Scripted.locations).getD [] = (lastToo.map Scripted.locations).getD [] := by
  cases lasts with
  | none => rfl
  | some compiled =>
    cases compiled with
    | operation => rfl
    | oneWord answers | twoWords answers => cases answers <;> rfl

omit alike in
/-- What is told of an answer does not depend on what its operation does. -/
theorem describe_alike {compiled other : Compiled (DeferredFunction σ ν)}
    (answers : CompiledAlike bodies.Callbacks compiled other) :
    Scripted.describe compiled = Scripted.describe other := by
  cases answers with
  | operation answers =>
    cases answers with
    | none => rfl
    | some held => exact congrArg₂ OperationResult.bound held.userArgument held.handle
  | oneWord answers | twoWords answers =>
    cases answers with
    | unsupported | access => rfl
    | callback held => exact congrArg₂ OperationResult.bound held.userArgument held.handle

/-- A scripted engine uses its answer in the same way on both sides. -/
theorem useAnswer {last lastToo : Scripted.Last σ ν}
    (lasts : Option.Rel (CompiledAlike bodies.Callbacks) last lastToo) (use : AnswerUse) :
    Exec.Corresponds stopped related related (· = ·) (Scripted.useAnswer perform last use)
      (Scripted.useAnswer counterpart lastToo use) := by
  cases use with
  | call first second =>
    have callbacks := callback?_alike lasts
    simp only [Scripted.useAnswer]
    generalize last.bind Scripted.callback? = held at callbacks ⊢
    generalize lastToo.bind Scripted.callback? = heldToo at callbacks ⊢
    cases callbacks with
    | none => exact .pure rfl
    | some same => exact (alike.run same first second).bind_same fun _ => .pure rfl
  | load =>
    simp only [Scripted.useAnswer, locations_alike lasts]
    split
    · exact .pure rfl
    · exact (Exec.Corresponds.mapM _ alike.loadWord).bind_same fun _ => .pure rfl
  | store first second =>
    simp only [Scripted.useAnswer, locations_alike lasts]
    split
    · exact .pure rfl
    · exact (Exec.Corresponds.forM _ fun _ => alike.storesWord _ _).bind_same fun _ => .pure rfl

/-- An operation of a script yields the same and leaves answers behind that are alike. The slot of a
compile operation is a number that may be out of range. -/
theorem execute {configuration other : EngineConfiguration σ ν}
    (configurations : bodies.Configurations configuration other) {last lastToo : Scripted.Last σ ν}
    (lasts : Option.Rel (CompiledAlike bodies.Callbacks) last lastToo) (operation : EngineOperation) :
    Exec.Corresponds stopped related related
      (fun done doneToo => done.1 = doneToo.1 ∧
        Option.Rel (CompiledAlike bodies.Callbacks) done.2 doneToo.2)
      (Scripted.execute perform configuration last operation)
      (Scripted.execute counterpart other lastToo operation) := by
  cases operation with
  | request request =>
    exact (alike.forward configurations.slot configurations.table request).bind_same
      fun _ => .pure ⟨rfl, lasts⟩
  | fallback pc instructions =>
    have falls : Exec.Corresponds stopped related related (· = ·)
        (configuration.callbacks.fallback pc instructions)
        (other.callbacks.fallback pc instructions) := by
      unfold CallbackBridge.fallback
      rw [configurations.slot]
      exact .bind_same (alike.emit trivial) fun _ => .throw alike.stops
    exact falls.bind_same fun _ => .pure ⟨rfl, lasts⟩
  | compile slot request =>
    have bridges : Option.Rel bodies.Bridges configuration.coprocessors[slot]?.join
        other.coprocessors[slot]?.join := by
      -- A script may name a slot that does not exist; it is treated as an empty one.
      by_cases inRange : slot < coprocessorCount
      · rw [Vector.getElem?_eq_getElem inRange, Vector.getElem?_eq_getElem inRange]
        exact configurations.coprocessors ⟨slot, inRange⟩
      · rw [Vector.getElem?_eq_none (Nat.le_of_not_lt inRange),
          Vector.getElem?_eq_none (Nat.le_of_not_lt inRange)]
        exact .none
    simp only [Scripted.execute]
    generalize configuration.coprocessors[slot]?.join = bridge at bridges ⊢
    generalize other.coprocessors[slot]?.join = bridgeToo at bridges ⊢
    cases bridges with
    | none => exact .pure ⟨rfl, lasts⟩
    | some same =>
      apply (alike.compile same request).bind
      intro compiled compiledToo answers
      exact .pure ⟨describe_alike answers, .some answers⟩
  | use use => exact (alike.useAnswer lasts use).bind_same fun _ => .pure ⟨rfl, lasts⟩

/-- The operations under construction end alike. -/
theorem probe {configuration other : EngineConfiguration σ ν}
    (configurations : bodies.Configurations configuration other) {last lastToo : Scripted.Last σ ν}
    (lasts : Option.Rel (CompiledAlike bodies.Callbacks) last lastToo)
    (operations : List EngineOperation) :
    Exec.Corresponds stopped related related (Option.Rel (CompiledAlike bodies.Callbacks))
      (Scripted.probe perform configuration last operations)
      (Scripted.probe counterpart other lastToo operations) := by
  induction operations generalizing last lastToo with
  | nil => exact .pure lasts
  | cons operation rest ih =>
    apply (alike.execute configurations lasts operation).bind
    rintro ⟨result, last⟩ ⟨_, lastToo⟩ ⟨rfl, lasts⟩
    exact .bind_same (alike.emit trivial) fun _ => ih lasts

section

variable (isAlike : handles handle)

include isAlike

/-- By induction on the script. Both engines look for a request to halt before each operation, and
find the same. -/
theorem runOperations (operations : List EngineOperation) :
    Exec.Corresponds stopped related related (· = ·)
      (Scripted.runOperations perform handle operations)
      (Scripted.runOperations counterpart handle operations) := by
  induction operations with
  | nil => exact .pure rfl
  | cons operation rest ih =>
    apply (alike.engine isAlike).bind
    intro engine other engines
    rw [engines.haltRequested]
    split
    · exact alike.clearHalt isAlike
    · apply (alike.execute engines.configuration engines.lastAnswer operation).bind
      rintro ⟨result, last⟩ ⟨_, lastToo⟩ ⟨rfl, lasts⟩
      apply (alike.modifyEngine isAlike fun _ _ engines => engines.setLastAnswer lasts).bind_same
      intro _
      exact .bind_same (alike.emit trivial) fun _ => ih

/-- A run of a scripted engine takes the script that both worlds hold. -/
theorem scriptedRun :
    Exec.Corresponds stopped related related (· = ·) (Scripted.run perform handle)
      (Scripted.run counterpart handle) :=
  alike.takeScript.bind_same fun operations => alike.runOperations isAlike operations

/-! ### Runs and other actions -/

/-- Engines that are alike are of one kind. -/
theorem runEngine (turns : Nat) :
    Exec.Corresponds stopped related related (· = ·) (Wrapper.runEngine perform turns handle)
      (Wrapper.runEngine counterpart turns handle) := by
  apply (alike.engine isAlike).bind
  intro engine other engines
  have mode := engines.mode
  generalize engine.mode = kind at mode ⊢
  generalize other.mode = kindToo at mode ⊢
  cases mode with
  | stepping => exact alike.steppingRun isAlike turns
  | scripted => exact alike.scriptedRun isAlike

/-- A run is accepted or rejected on both sides. -/
theorem wrapperRun (turns : Nat) :
    Exec.Corresponds stopped related related (· = ·) (Wrapper.run perform turns handle)
      (Wrapper.run counterpart turns handle) := by
  apply (alike.wrapper isAlike).bind
  intro wrapper other wrappers
  rw [wrappers.state, wrappers.userData]
  split
  · exact .pure rfl
  · apply (alike.setState isAlike .running).bind_same
    intro _
    refine .bind_same (alike.emit trivial) fun _ => ?_
    refine .bind_same (alike.emit trivial) fun _ => ?_
    apply (alike.runEngine isAlike turns).bind_same
    intro _
    apply (alike.setState isAlike .halted).bind_same
    intro _
    refine .bind_same (alike.emit trivial) fun _ => ?_
    exact .bind_same (alike.emit trivial) fun _ => .pure rfl

/-- Wrappers that are alike look the same. -/
theorem observe {action : Action} {view : Wrapper σ ν → Reply}
    (observes : action.observation? = some view) (turns : Nat) (surface : Surface) :
    Exec.Corresponds stopped related related (· = ·)
      (Wrapper.performWith perform turns surface handle action)
      (Wrapper.performWith counterpart turns surface handle action) := by
  rw [Wrapper.performWith_observation observes, Wrapper.performWith_observation observes]
  exact (alike.wrapper isAlike).bind fun _ _ wrappers => .pure (wrappers.observation observes)

/-- Wrappers that are alike stay so when both are changed. -/
theorem adjust {action : Action} {update : Engine σ ν → Engine σ ν}
    (adjusts : action.adjustment? = some update) (turns : Nat) (surface : Surface) :
    Exec.Corresponds stopped related related (· = ·)
      (Wrapper.performWith perform turns surface handle action)
      (Wrapper.performWith counterpart turns surface handle action) := by
  rw [Wrapper.performWith_adjustment adjusts, Wrapper.performWith_adjustment adjusts]
  have keeps (engine other : Engine σ ν) (engines : bodies.Engines engine other) :
      bodies.Engines (update engine) (update other) := engines.adjustment adjusts
  exact (alike.modifyEngine isAlike keeps).bind_same fun _ => .pure rfl

/-- Every action ends alike, on one surface. -/
theorem performWith (turns : Nat) (surface : Surface) (action : Action) :
    Exec.Corresponds stopped related related (· = ·)
      (Wrapper.performWith perform turns surface handle action)
      (Wrapper.performWith counterpart turns surface handle action) := by
  cases action using Action.byKind σ ν with
  | run script =>
    apply (alike.schedule script).bind_same
    intro _
    apply (alike.wrapperRun isAlike turns).bind_same
    intro finished
    cases finished with
    | true => exact .pure rfl
    | false =>
      cases surface with
      | direct => exact .pure rfl
      | foreign => exact .throw alike.stops
  | adjust action update adjusts => exact alike.adjust isAlike adjusts turns surface
  | observe action view observes => exact alike.observe isAlike observes turns surface
  | arrange number => exact .throw alike.stops

end

end Likeness

end RecompilerAdapter
