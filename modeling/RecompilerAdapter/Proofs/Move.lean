/-
Module: RecompilerAdapter.Proofs.Move
Purpose: The moves of the world. While a caller's code or an engine is at work, everything that happens is
  a sequence of moves, each of which records at most the events of one call or return. A move says which
  wrapper's engine may make it, what it finds in the world, and what it leaves behind. Moves neither build
  nor delete wrappers, so handle slots, contexts and configurations stay as they are.
Trusted boundary: none
Main exports: Keeps, Tunes, Move, Final, Moves, Halts
-/
import Mathlib.Logic.Relation
import RecompilerAdapter.Engine.Scripted
import RecompilerAdapter.Proofs.Execution
import RecompilerAdapter.Proofs.History

/-!
A computation that stops has made some moves and then one last step: it got stuck without a trace,
or it met a condition that ends everything.
-/

namespace RecompilerAdapter

variable {σ ν : Type}

/-! ### Actions that are not runs -/

namespace Action

/-- What an action yields, if it only looks at a wrapper. Together with changes of engines, these
are all actions that do not start runs, and all lemmas about actions follow this division. -/
def observation? : Action → Option (Wrapper σ ν → Reply)
  | state => some fun wrapper => .state wrapper.state
  | userData => some fun wrapper => .userData wrapper.userData
  | describe => some fun wrapper => .description wrapper.userData wrapper.state
  | registers => some fun wrapper => .registers wrapper.engine.registers
  | extensionRegisters => some fun wrapper => .extensionRegisters wrapper.engine.extensionRegisters
  | programStatus => some fun wrapper => .word wrapper.engine.programStatus
  | floatingPointStatus => some fun wrapper => .word wrapper.engine.floatingPointStatus
  | _ => none

/-- What an action changes, if it changes an engine. No change of this kind touches the
configuration or the mode of the engine, from which follows that it disturbs nobody's work. -/
def adjustment? : Action → Option (Engine σ ν → Engine σ ν)
  | halt => some fun engine => { engine with haltRequested := true }
  | setRegister number value => some fun engine => engine.withRegister number value
  | setExtensionRegister number value => some fun engine => engine.withExtensionRegister number value
  | setProgramStatus value => some fun engine => { engine with programStatus := value }
  | setFloatingPointStatus value => some fun engine => { engine with floatingPointStatus := value }
  | _ => none

/-- Each action is a run, changes an engine, looks at a wrapper, or was arranged. A proof about
actions splits on this, not on the names of the actions. -/
theorem byKind (σ ν : Type) {motive : Action → Prop} (run : ∀ script, motive (.run script))
    (adjust : ∀ action (update : Engine σ ν → Engine σ ν), action.adjustment? = some update →
      motive action)
    (observe : ∀ action (view : Wrapper σ ν → Reply), action.observation? = some view → motive action)
    (arrange : ∀ number, motive (.arrange number)) (action : Action) : motive action := by
  cases action with
  | run script => exact run script
  | halt | setRegister | setExtensionRegister | setProgramStatus | setFloatingPointStatus =>
    exact adjust _ _ rfl
  | state | userData | describe | registers | extensionRegisters | programStatus
    | floatingPointStatus => exact observe _ _ rfl
  | arrange number => exact arrange number

theorem not_run_of_observation {action : Action} {view : Wrapper σ ν → Reply}
    (observes : action.observation? = some view) (script : Option (List EngineOperation)) :
    action ≠ .run script := by
  rintro rfl
  cases observes

theorem not_run_of_adjustment {action : Action} {update : Engine σ ν → Engine σ ν}
    (adjusts : action.adjustment? = some update) (script : Option (List EngineOperation)) :
    action ≠ .run script := by
  rintro rfl
  cases adjusts

theorem configuration_adjustment {action : Action} {update : Engine σ ν → Engine σ ν}
    (adjusts : action.adjustment? = some update) (engine : Engine σ ν) :
    (update engine).configuration = engine.configuration := by
  cases action <;> simp only [adjustment?, reduceCtorEq, Option.some.injEq] at adjusts <;>
    subst adjusts <;> rfl

theorem mode_adjustment {action : Action} {update : Engine σ ν → Engine σ ν}
    (adjusts : action.adjustment? = some update) (engine : Engine σ ν) :
    (update engine).mode = engine.mode := by
  cases action <;> simp only [adjustment?, reduceCtorEq, Option.some.injEq] at adjusts <;>
    subst adjusts <;> rfl

end Action

/-! ### Who is at work -/

/-- Whether an engine is a stepping one. Its kind is chosen when it is constructed and never
changes. -/
def EngineMode.isStepping : EngineMode σ ν → Bool
  | stepping _ => true
  | scripted _ => false

/-- What stays with a wrapper for its whole life: its context, its configuration and the kind of its
engine. -/
def Wrapper.fixed (wrapper : Wrapper σ ν) : UserData × EngineConfiguration σ ν × Bool :=
  (wrapper.userData, wrapper.engine.configuration, wrapper.engine.mode.isStepping)

namespace World

/-- The mode of the engine behind a handle. -/
def mode? (world : World σ ν) (handle : Handle) : Option (EngineMode σ ν) :=
  (world.wrappers.get? handle).map (·.engine.mode)

@[simp] theorem mode?_place (world : World σ ν) (handle other : Handle) (wrapper : Wrapper σ ν) :
    (world.place handle wrapper).mode? other =
      if other = handle then some wrapper.engine.mode else world.mode? other := by
  unfold mode?
  rw [get?_place]
  split <;> rfl

@[simp] theorem mode?_record (world : World σ ν) (event : Event ν) (handle : Handle) :
    (world.record event).mode? handle = world.mode? handle :=
  rfl

@[simp] theorem mode?_recordAll (world : World σ ν) (events : List (Event ν)) (handle : Handle) :
    (world.recordAll events).mode? handle = world.mode? handle := by
  unfold mode?
  rw [wrappers_recordAll]

/-- The world after a run has brought a script along, or none. A script is left in the world for
whoever runs next, even if the run that has brought it is rejected. -/
def scheduled (world : World σ ν) : Option (List EngineOperation) → World σ ν
  | some operations => { world with script := operations }
  | none => world

end World

/-- The innermost open run is a run of the wrapper behind the handle, whose engine has this
configuration. -/
structure AtWork (world : World σ ν) (handle : Handle)
    (configuration : EngineConfiguration σ ν) : Prop where
  innermost : (openRuns world.history).head? = some handle
  employed : ∃ wrapper, world.wrappers.get? handle = some wrapper ∧
    wrapper.engine.configuration = configuration

/-- A deferred operation is what the coprocessors of a configuration answered last, bound to the
handle in their slot. -/
def AnsweredLast (world : World σ ν) (configuration : EngineConfiguration σ ν)
    (callback : Callback (DeferredFunction σ ν)) : Prop :=
  ∃ bridge, some bridge ∈ configuration.coprocessors ∧
    world.slots.get? bridge.slot = some callback.handle ∧
    lastAnswer bridge.slot world.history = some (.deferred callback.userArgument)

/-- An engine is a scripted one and keeps a deferred operation, which it may call at any time as
long as it is at work. -/
def Keeps (world : World σ ν) (handle : Handle)
    (callback : Callback (DeferredFunction σ ν)) : Prop :=
  ∃ compiled, world.mode? handle = some (.scripted (some compiled)) ∧
    Scripted.callback? compiled = some callback

/-! ### Moves -/

/-- The events that may be recorded on their own, with what has to hold when they are. A call names
the bridge of the engine that is at work, and an answer the handle that this bridge has got. -/
def Admissible (world : World σ ν) : Event ν → Prop
  | .note _ | .performed .. | .configured _ => True
  | .calling _ request served => served = false ∧ ∃ vaddr, request = .isReadOnly vaddr
  | .answered handle _ _ => ∃ worker configuration, AtWork world worker configuration ∧
    world.slots.get? configuration.callbacks.slot = some handle
  | .compiling slot index context _ => ∃ worker configuration bridge,
    AtWork world worker configuration ∧ some bridge ∈ configuration.coprocessors ∧
      bridge.slot = slot ∧ bridge.index = index ∧ bridge.table.context = context
  | .compiled slot index context _ _ => ∃ worker configuration bridge,
    AtWork world worker configuration ∧ some bridge ∈ configuration.coprocessors ∧
      bridge.slot = slot ∧ bridge.index = index ∧ bridge.table.context = context ∧
      (world.mode? worker).map (·.isStepping) = some true
  | .invoked handle argument _ _ => ∃ worker configuration callback,
    AtWork world worker configuration ∧ callback.handle = handle ∧
      callback.userArgument = argument ∧
      (AnsweredLast world configuration callback ∨ Keeps world worker callback)
  | .fetched handle _ _ => (openRuns world.history).head? = some handle
  | _ => False

/-- One engine may replace another at a wrapper at work: the configuration and the kept answer are
the same. -/
structure Tunes (before after : Engine σ ν) : Prop where
  configuration : after.configuration = before.configuration
  mode : after.mode = before.mode ∨ after.mode.isStepping ∧ before.mode.isStepping

/-- One move: what a caller's code or an engine at work may do between two moments at which others
can see the world. Wrappers are neither built nor deleted by moves. -/
inductive Move : World σ ν → World σ ν → Prop where
  | record {world : World σ ν} {event : Event ν} (admissible : Admissible world event) :
      Move world (world.record event)
  /-- The engine at work calls an entry of its host. -/
  | request {world : World σ ν} {worker bound : Handle}
      {configuration : EngineConfiguration σ ν} {request : HostRequest}
      (work : AtWork world worker configuration)
      (served : (configuration.callbacks.table.entry? request).isSome)
      (slot : world.slots.get? configuration.callbacks.slot = some bound) :
      Move world (world.recordAll
        [.calling configuration.callbacks.slot request true, .requested bound request])
  | access {world : World σ ν} (update : Shared σ → Shared σ) :
      Move world { world with shared := update world.shared }
  | observe {world : World σ ν} {surface : Surface} {handle : Handle} {action : Action}
      {wrapper : Wrapper σ ν} {view : Wrapper σ ν → Reply}
      (present : world.wrappers.get? handle = some wrapper)
      (observes : action.observation? = some view) :
      Move world (world.recordAll
        [.acting surface handle action, .acted surface handle action (view wrapper)])
  | adjust {world : World σ ν} {surface : Surface} {handle : Handle} {action : Action}
      {wrapper : Wrapper σ ν} {update : Engine σ ν → Engine σ ν}
      (present : world.wrappers.get? handle = some wrapper)
      (adjusts : action.adjustment? = some update) :
      Move world ((world.place handle { wrapper with engine := update wrapper.engine }).recordAll
        [.acting surface handle action, .acted surface handle action .done])
  | reject {world : World σ ν} {handle : Handle} {wrapper : Wrapper σ ν}
      {script : Option (List EngineOperation)}
      (present : world.wrappers.get? handle = some wrapper)
      (running : wrapper.state = .running) :
      Move world ((world.scheduled script).recordAll
        [.acting .direct handle (.run script),
          .acted .direct handle (.run script) .alreadyRunning])
  | enter {world : World σ ν} {surface : Surface} {handle : Handle} {wrapper : Wrapper σ ν}
      {script : Option (List EngineOperation)}
      (present : world.wrappers.get? handle = some wrapper)
      (resting : wrapper.state ≠ .running) :
      Move world (((world.scheduled script).place handle
        { wrapper with state := .running }).recordAll
        [.acting surface handle (.run script), .runEntered handle,
          .log (.engineRun wrapper.userData)])
  | leave {world : World σ ν} {surface : Surface} {handle : Handle} {wrapper : Wrapper σ ν}
      {script : Option (List EngineOperation)}
      (innermost : (openRuns world.history).head? = some handle)
      (present : world.wrappers.get? handle = some wrapper) :
      Move world ((world.place handle { wrapper with state := .halted }).recordAll
        [.runLeft handle, .log (.engineReturned wrapper.userData),
          .acted surface handle (.run script) .finished])
  /-- The engine at work changes its own state. -/
  | tune {world : World σ ν} {handle : Handle} {wrapper : Wrapper σ ν} {engine : Engine σ ν}
      (innermost : (openRuns world.history).head? = some handle)
      (present : world.wrappers.get? handle = some wrapper)
      (tunes : Tunes wrapper.engine engine) :
      Move world (world.place handle { wrapper with engine := engine })
  /-- A coprocessor has answered a scripted engine, which keeps the answer. -/
  | keep {world : World σ ν} {handle : Handle} {wrapper : Wrapper σ ν}
      {bridge : CoprocessorBridge σ ν} {request : CompileRequest} {answer : CompileAnswer}
      {last : Scripted.Last σ ν} {compiled : Compiled (DeferredFunction σ ν)}
      (innermost : (openRuns world.history).head? = some handle)
      (present : world.wrappers.get? handle = some wrapper)
      (employed : some bridge ∈ wrapper.engine.configuration.coprocessors)
      (scripted : wrapper.engine.mode = .scripted last)
      (own : ∀ callback, Scripted.callback? compiled = some callback →
        world.slots.get? bridge.slot = some callback.handle ∧
          answer = .deferred callback.userArgument) :
      Move world ((world.record
        (.compiled bridge.slot bridge.index bridge.table.context request answer)).place handle
        { wrapper with engine := { wrapper.engine with mode := .scripted (some compiled) } })
  | script {world : World σ ν} (operations : List EngineOperation) :
      Move world { world with script := operations }

/-- The last step of a computation that stops. It tells apart what ends everything from what merely
cannot go on, and names the events that a fatal condition leaves behind. -/
inductive Final : World σ ν → Stop → World σ ν → Prop where
  /-- The computation cannot go on, which is not a fatal condition. -/
  | stuck {world : World σ ν} {stop : Stop} (harmless : ∀ reason, stop ≠ .fatal reason) :
      Final world stop world
  /-- Somebody acts on a wrapper that is not there. -/
  | dangling {world : World σ ν} {surface : Surface} {handle : Handle} {action : Action}
      (script : Option (List EngineOperation))
      (absent : world.wrappers.get? handle = none) :
      Final world (.danglingHandle handle)
        ((world.scheduled script).record (.acting surface handle action))
  /-- Somebody asks for what the caller has not arranged. -/
  | unarranged {world : World σ ν} {surface : Surface} {handle : Handle} {number : Nat} :
      Final world (.unknownNumber number) (world.record (.acting surface handle (.arrange number)))
  | reentrant {world : World σ ν} {handle : Handle} {wrapper : Wrapper σ ν}
      {script : Option (List EngineOperation)}
      (present : world.wrappers.get? handle = some wrapper)
      (running : wrapper.state = .running) :
      Final world (.fatal .reentrantRun)
        ((world.scheduled script).record (.acting .foreign handle (.run script)))
  | unboundRequest {world : World σ ν} {slot : HandleSlot} {request : HostRequest}
      (unbound : world.slots.get? slot = none) :
      Final world (.fatal .unboundHandle) (world.record (.calling slot request true))
  | unboundCompile {world : World σ ν} {slot : HandleSlot} {index : Nat} {context : Context}
      {request : CompileRequest} {answer : CompileAnswer}
      (unbound : world.slots.get? slot = none) :
      Final world (.fatal .unboundHandle)
        (world.record (.compiled slot index context request answer))
  | fallback {world : World σ ν} {slot : HandleSlot} {pc : UInt32} {instructions : UInt64} :
      Final world (.fatal (.interpreterFallback pc instructions))
        (world.record (.fallingBack slot pc instructions))

theorem Final.unknown {world : World σ ν} (handle : Handle) :
    Final world (.danglingHandle handle) world := by
  refine .stuck fun reason same => ?_
  cases same

/-- No computation that makes moves ends because an engine was refused. -/
theorem Final.ne_constructionFailed {world after : World σ ν} {stop : Stop}
    (final : Final world stop after) : stop ≠ .fatal .constructionFailed := by
  cases final with
  | stuck harmless => exact harmless _
  | _ => nofun

/-- Any number of moves. That a computation makes moves only is all that the invariants need to know
of it. -/
abbrev Moves : World σ ν → World σ ν → Prop :=
  Relation.ReflTransGen Move

/-- A computation makes moves and then stops. Whatever held of the moves held up to the last
step. -/
def Halts (before : World σ ν) (stop : Stop) (after : World σ ν) : Prop :=
  ∃ last, Moves before last ∧ Final last stop after

theorem Halts.ne_constructionFailed {before after : World σ ν} {stop : Stop}
    (halts : Halts before stop after) : stop ≠ .fatal .constructionFailed := by
  obtain ⟨last, -, final⟩ := halts
  exact final.ne_constructionFailed

end RecompilerAdapter
