/-
Module: RecompilerAdapter.Proofs.SolitaryRuns
Purpose: A wrapper at work alone. Its engine executes the same instructions, beside others or alone, if
  what is done to the wrapper by actions is the same. So by induction on the nesting of runs every action
  on it ends alike, as long as no callback of another wrapper acts on it.
Trusted boundary: none
Main exports: Exec.Shadowed, Performer.Shadowed, attending_shadowed
-/
import RecompilerAdapter.Proofs.Solitude

namespace RecompilerAdapter

open Stepping (CompiledAlike)

variable {σ ν ω α β γ : Type}

/-! ### Changes of engines -/

section

variable {own : Belongings σ ν ω}

namespace Engine.Alone

variable {engine other : Engine σ ν} (alone : engine.Alone own other)

include alone

/-- Beside others or alone, an engine has lent out the same parts. -/
theorem lentParts : Stepping.lentParts engine = Stepping.lentParts other := by
  rw [Stepping.lentParts, Stepping.lentParts, alone.mode]

/-- It lends out the same parts in both worlds. -/
theorem setLentParts (lent : List EnginePart) :
    (Stepping.setLentParts lent engine).Alone own (Stepping.setLentParts lent other) := by
  obtain ⟨before, isStepping⟩ := alone.stepping
  have isSteppingToo := alone.mode.symm.trans isStepping
  simp only [Stepping.setLentParts, isStepping, isSteppingToo]
  exact { alone with mode := rfl, stepping := ⟨lent, rfl⟩ }

/-- An action changes the engine in the same way where the wrapper is alone. -/
theorem adjustment {action : Action} {update : Engine σ ν → Engine σ ν}
    (adjusts : action.adjustment? = some update) : (update engine).Alone own (update other) := by
  cases action <;> cases adjusts
  · exact { alone with haltRequested := rfl }
  · exact { alone with registers := congrArg (Vector.set · _ _) alone.registers }
  · exact { alone with
      extensionRegisters := congrArg (Vector.set · _ _) alone.extensionRegisters }
  · exact { alone with programStatus := rfl }
  · exact { alone with floatingPointStatus := rfl }

end Engine.Alone

/-- The wrapper looks the same where it is alone. -/
theorem Wrapper.Alone.observation {wrapper other : Wrapper σ ν} (alone : wrapper.Alone own other)
    {action : Action} {view : Wrapper σ ν → Reply} (observes : action.observation? = some view) :
    view wrapper = view other := by
  cases action <;> cases observes
  · exact congrArg Reply.state alone.state
  · exact congrArg Reply.userData alone.userData
  · exact congrArg₂ Reply.description alone.userData alone.state
  · exact congrArg Reply.registers alone.engine.registers
  · exact congrArg Reply.extensionRegisters alone.engine.extensionRegisters
  · exact congrArg Reply.word alone.engine.programStatus
  · exact congrArg Reply.word alone.engine.floatingPointStatus

end

/-! ### Two computations -/

/-- From worlds in which the same was done to the wrapper, two computations end alike. -/
abbrev Exec.Shadowed (own : Belongings σ ν ω) (start origin : World σ ν) (present : Bool)
    (agree : α → β → Prop) (computation : Exec σ ν α) (counterpart : Exec σ ν β) : Prop :=
  Exec.Corresponds (fun _ _ => True) (Shadows own start origin present)
    (Shadows own start origin present) agree computation counterpart

/-- Actions on the wrapper do the same where it is alone, and actions on others are nothing to it;
they always complete, and give its handle to nobody else. -/
structure Performer.Shadowed (own : Belongings σ ν ω) (start origin : World σ ν) (present : Bool)
    (perform counterpart : Performer σ ν) : Prop where
  same : ∀ surface action, Exec.Shadowed own start origin present (· = ·)
    (perform surface own.handle action) (counterpart surface .first action)
  others : ∀ surface target action, target ≠ own.handle → ∀ world other,
    Shadows own start origin present world other → (perform surface target action).Ensures world
      (fun reply after => Shadows own start origin present after other ∧ reply ≠ .built own.handle)
      fun _ _ => False

/-- What leads to nothing in the first world may be left out in the second one. -/
theorem Exec.Corresponds.omit_first {stopped before completed : WorldRelation σ ν}
    {agree : β → γ → Prop} {computation : Exec σ ν α} {next : α → Exec σ ν β}
    {counterpart : Exec σ ν γ} (yields : α → Prop)
    (omitted : ∀ world other, before world other → computation.Ensures world
      (fun answer after => before after other ∧ yields answer) fun _ _ => False)
    (rest : ∀ answer, yields answer →
      Corresponds stopped before completed agree (next answer) counterpart) :
    Corresponds stopped before completed agree (computation >>= next) counterpart := by
  intro world other related
  have ensured := omitted world other related
  unfold Exec.Ensures at ensured
  cases ends : computation world with
  | ok answer after =>
    rw [ends] at ensured
    rw [Exec.bind_of_ok ends]
    exact rest answer ensured.2 after other ensured.1
  | error stop after =>
    rw [ends] at ensured
    exact ensured.elim

namespace Exec.Shadowed

variable {own : Belongings σ ν ω} {start origin : World σ ν} {present : Bool} {event : Event ν}

/-! ### The primitive computations -/

/-- An event of the wrapper is told in both worlds, in the second one under the first handle. Log
lines have a rule of their own, because they name no handle. -/
theorem emit (belongs : event.belongs own = true) (unlogged : event.isLogged = false) :
    Exec.Shadowed own start origin present (· = ·) (Exec.emit event) (Exec.emit event.rehome) :=
  Exec.Corresponds.emit fun _ _ shadows => shadows.record belongs unlogged

/-- A run is entered or left, and a line is logged about it. -/
theorem emitLogged_bind {agree : α → β → Prop} {next : Unit → Exec σ ν α} {onward : Unit → Exec σ ν β}
    (belongs : event.belongs own = true) (logged : event.isLogged = true) (line : LogLine)
    (rest : Exec.Shadowed own start origin present agree (next ()) (onward ())) :
    Exec.Shadowed own start origin present agree
      (Exec.emit event >>= fun _ => Exec.emit (.log line) >>= next)
      (Exec.emit event.rehome >>= fun _ => Exec.emit (.log line) >>= onward) :=
  fun _ _ shadows => rest _ _ (shadows.recordLogged belongs logged line)

/-- In both worlds the wrapper's slot holds the wrapper's handle, or nothing. -/
theorem boundHandle :
    Exec.Shadowed own start origin present (fun handle first => handle = own.handle ∧ first = .first)
      (Exec.boundHandle own.slot) (Exec.boundHandle .first) := by
  apply Exec.Corresponds.get_bind
  intro world other shadows
  have slots := shadows.slot
  generalize world.slots.get? own.slot = handle at slots ⊢
  generalize other.slots.get? .first = first at slots ⊢
  cases slots with
  | none => exact ⟨rfl, trivial⟩
  | some same => exact ⟨same, shadows⟩

/-- A word of the wrapper's coprocessors is the same in both worlds. -/
theorem loadWord {location : Location} (owned : location.Owned own) :
    Exec.Shadowed own start origin present (· = ·) (Exec.loadWord location)
      (Exec.loadWord location) :=
  fun _ _ shadows => ⟨owned.load _ _ shadows.view, shadows⟩

/-- It stays so when both worlds store the same. -/
theorem storeWord {location : Location} (owned : location.Owned own) (word : UInt32) :
    Exec.Shadowed own start origin present (· = ·) (Exec.storeWord location word)
      (Exec.storeWord location word) :=
  fun _ _ shadows => ⟨rfl, shadows.share (owned.store _ _ shadows.view word)⟩

/-- The wrapper is there in both worlds or in none. -/
theorem wrapper : Exec.Shadowed own start origin true (Wrapper.Alone own) (Exec.wrapper own.handle)
    (Exec.wrapper .first) := by
  apply Exec.Corresponds.get_bind
  intro world other shadows
  have wrappers := shadows.wrapper
  have isPresent := shadows.present
  generalize world.wrappers.get? own.handle = found at wrappers isPresent ⊢
  generalize other.wrappers.get? .first = foundToo at wrappers ⊢
  cases wrappers with
  | none => cases isPresent
  | some alone => exact ⟨alone, shadows⟩

/-- So is its engine. -/
theorem engine : Exec.Shadowed own start origin true (Engine.Alone own) (Exec.engine own.handle)
    (Exec.engine .first) :=
  wrapper.bind fun _ _ alone => .pure alone.engine

/-- What is done to the wrapper in both worlds leaves it the same. -/
theorem modifyWrapper {update change : Wrapper σ ν → Wrapper σ ν}
    (keeps : ∀ wrapper copy, wrapper.Alone own copy → (update wrapper).Alone own (change copy)) :
    Exec.Shadowed own start origin true (· = ·) (Exec.modifyWrapper own.handle update)
      (Exec.modifyWrapper .first change) :=
  wrapper.bind fun wrapper copy alone _ _ shadows =>
    ⟨rfl, shadows.place rfl (keeps wrapper copy alone)⟩

/-- So does what is done to its engine. -/
theorem modifyEngine {update change : Engine σ ν → Engine σ ν}
    (keeps : ∀ engine copy, engine.Alone own copy → (update engine).Alone own (change copy)) :
    Exec.Shadowed own start origin true (· = ·) (Exec.modifyEngine own.handle update)
      (Exec.modifyEngine .first change) :=
  modifyWrapper fun _ _ alone => { alone with engine := keeps _ _ alone.engine }

/-- It enters and leaves runs in both worlds. -/
theorem setState (state : RunState) :
    Exec.Shadowed own start origin true (· = ·) (Exec.setState own.handle state)
      (Exec.setState .first state) :=
  modifyWrapper fun _ _ alone => { alone with state := rfl }

end Exec.Shadowed

/-! ### Bodies and bridges -/

section

open Exec.Shadowed

variable {own : Belongings σ ν ω} {start origin : World σ ν} {present : Bool}
  {perform counterpart : Performer σ ν}
  (shadowed : Performer.Shadowed own start origin present perform counterpart)

include shadowed

/-- The wrapper's own callbacks do the same in both worlds, except that what they do to others is
left out of the second. The induction follows the way in which the second body is what is left of
the first. -/
theorem Activity.exec_shadowed {agree : α → β → Prop} {body : Activity σ ν α} {copy : Activity σ ν β}
    (alone : body.Alone own agree copy) :
    Exec.Shadowed own start origin present agree (body.exec perform) (copy.exec counterpart) := by
  induction alone with
  | finish agrees => exact .pure agrees
  | access changes rest ih =>
    have accesses : Exec.Shadowed own start origin present
        (fun shared other => own.view shared = own.view other) (Exec.accessShared _)
        (Exec.accessShared _) :=
      fun _ _ shadows => ⟨shadows.view, shadows.share (changes _ _ shadows.view)⟩
    exact accesses.bind ih
  | @record note _ _ belongs rest ih =>
    have told : (Event.note note).belongs own = true := belongs
    exact (emit told rfl).bind_same fun _ => ih
  | perform rest ih => exact (shadowed.same _ _).bind_same ih
  | omitAccess keeps rest ih =>
    refine .omit_first (fun _ => True) (fun _ _ shadows => ?_) fun before _ => ih before
    exact ⟨shadows.share ((keeps _).trans shadows.view), trivial⟩
  | omitRecord foreign rest ih =>
    refine .omit_first (fun _ => True) (fun _ _ shadows => ?_) fun _ _ => ih
    exact ⟨shadows.recordForeign foreign, trivial⟩
  | omitPerform different rest ih =>
    exact .omit_first (fun reply => reply ≠ .built own.handle) (shadowed.others _ _ _ different) ih

/-- A request of the wrapper's engine goes to entries of which one is what is left of the other. -/
theorem CallbackBridge.forward_shadowed {bridge other : CallbackBridge σ ν}
    (slot : bridge.slot = own.slot) (slotToo : other.slot = .first)
    (callbacks : bridge.table.Alone own other.table) (request : HostRequest) :
    Exec.Shadowed own start origin present (· = ·) (bridge.forward perform request)
      (other.forward counterpart request) := by
  have entries := callbacks request
  unfold forward
  rw [slot, slotToo]
  generalize bridge.table.entry? request = served at entries ⊢
  generalize other.table.entry? request = servedToo at entries ⊢
  cases entries with
  | none =>
    refine .bind_same (emit (decide_eq_true rfl) rfl) fun _ => ?_
    cases request <;> exact .pure rfl
  | some entries =>
    refine .bind_same (emit (decide_eq_true rfl) rfl) fun _ => ?_
    apply boundHandle.bind
    rintro _ _ ⟨rfl, rfl⟩
    refine .bind_same (emit (decide_eq_true rfl) rfl) fun _ => ?_
    apply (Activity.exec_shadowed shadowed entries).bind_same
    intro answer
    exact .bind_same (emit (decide_eq_true rfl) rfl) fun _ => .pure rfl

/-- So does a call of a deferred operation. -/
theorem Callback.run_shadowed {callback other : Callback (DeferredFunction σ ν)}
    (alone : callback.Alone own other) (first second : UInt32) :
    Exec.Shadowed own start origin present (· = ·) (callback.run perform first second)
      (other.run counterpart first second) := by
  unfold run
  rw [alone.handle, alone.handleToo, alone.userArgument]
  refine .bind_same (emit (decide_eq_true rfl) rfl) fun _ => ?_
  exact Activity.exec_shadowed shadowed (alone.call first second)

/-- So does a compile request; and what it grants belongs to the wrapper, so nobody else has changed
it. -/
theorem CoprocessorBridge.compile_shadowed {bridge other : CoprocessorBridge σ ν}
    (alone : bridge.Alone own other) (request : CompileRequest) :
    Exec.Shadowed own start origin present
      (fun compiled copy => CompiledAlike (Callback.Alone own) compiled copy ∧
        Stepping.Grants (Location.Owned own) compiled)
      (bridge.compile perform request) (other.compile counterpart request) := by
  rw [compile_eq, compile_eq, consult, consult, alone.index, alone.slot, alone.slotToo,
    alone.table.context]
  refine .bind_same (emit (decide_eq_true rfl) rfl) fun _ => ?_
  apply (Activity.exec_shadowed shadowed (alone.table.answer request)).bind
  intro answer reply answers
  rw [answers.report]
  refine .bind_same (emit (decide_eq_true rfl) rfl) fun _ => ?_
  apply boundHandle.bind
  rintro _ _ ⟨rfl, rfl⟩
  exact .pure ⟨answers.compiled, answers.grants⟩

end

/-! ### Stepping engines and actions -/

section

open Exec.Shadowed

variable {own : Belongings σ ν ω} {start origin : World σ ν} {perform counterpart : Performer σ ν}
  (shadowed : Performer.Shadowed own start origin true perform counterpart)

namespace Stepping

include shadowed

/-- So answers are used in the same way in both worlds. -/
theorem uses_shadowed :
    UsesAlike (fun _ _ => True) (Shadows own start origin true) (Shadows own start origin true)
      perform counterpart own.handle .first (Callback.Alone own) (Location.Owned own) where
  weaken _ _ := id
  run _ _ alone first second := Callback.run_shadowed shadowed alone first second
  read number := engine.bind fun _ _ alone => by
    rw [alone.registers]
    exact .pure rfl
  write number value := modifyEngine fun _ _ alone =>
    { alone with registers := congrArg (Vector.set · _ _) alone.registers }
  load _ owned := loadWord owned
  store _ owned word := storeWord owned word

/-- And the engine executes every instruction as it does alone, by the general rules for two
engines. -/
theorem mirrors_shadowed :
    Mirrors (fun _ _ => True) (fun _ => Shadows own start origin true) perform counterpart own.handle
      .first (Engine.Alone own) fun _ compiled other =>
        CompiledAlike (Callback.Alone own) compiled other ∧ Grants (Location.Owned own) compiled where
  stops _ _ _ _ := trivial
  engine _ := engine
  registers _ _ alone := alone.registers
  lent _ _ alone := alone.lentParts
  paged _ _ _ shadows _ _ alone := alone.configuration.pageTable.fetch _ _ shadows.view
  lend _ change := modifyEngine fun _ _ alone => by
    rw [alone.lentParts]
    exact alone.setLentParts _
  advance _ next _ := (uses_shadowed shadowed).write pc next
  forward _ _ _ alone request _ :=
    CallbackBridge.forward_shadowed shadowed alone.configuration.slot alone.configuration.slotToo
      alone.configuration.callbacks request
  compile _ engine other alone slot request := by
    have bridges := alone.configuration.coprocessors slot
    generalize engine.configuration.coprocessors[slot] = populated at bridges ⊢
    generalize other.configuration.coprocessors[slot] = copied at bridges ⊢
    cases bridges with
    | none => exact .none
    | some same => exact .some (CoprocessorBridge.compile_shadowed shadowed same request)
  complete _ instruction _ _ answers next _ :=
    (uses_shadowed shadowed).complete instruction answers.1 answers.2
      ((uses_shadowed shadowed).write pc next)

/-- The host is asked, and what is left of its answer is the same. -/
theorem ask_shadowed (request : HostRequest) :
    Exec.Shadowed own start origin true (· = ·) (ask perform own.handle request)
      (ask counterpart .first request) := by
  apply (mirrors_shadowed shadowed).lending []
  apply engine.bind
  intro engine other alone
  exact CallbackBridge.forward_shadowed shadowed alone.configuration.slot alone.configuration.slotToo
    alone.configuration.callbacks request

omit shadowed in
/-- A request to halt is pending in both worlds or in none. -/
theorem takeHalt_shadowed :
    Exec.Shadowed own start origin true (· = ·) (takeHalt own.handle) (takeHalt .first) := by
  have clears : Exec.Shadowed own start origin true (· = ·)
      (Exec.modifyEngine own.handle fun engine => { engine with haltRequested := false })
      (Exec.modifyEngine .first fun engine => { engine with haltRequested := false }) :=
    modifyEngine fun _ _ alone => { alone with haltRequested := rfl }
  apply engine.bind
  intro engine other alone
  apply clears.bind_same
  intro _
  exact .pure alone.haltRequested

/-- By induction on the turns, the whole run goes as it does alone. -/
theorem run_shadowed (turns : Nat) :
    Exec.Shadowed own start origin true (· = ·) (run perform own.handle turns)
      (run counterpart .first turns) := by
  have mirrors := mirrors_shadowed shadowed
  have steps := mirrors.step [] mirrors fun _ _ => emit (decide_eq_true rfl) rfl
  exact run_alike (fun _ _ _ => trivial)
    (turn_alike takeHalt_shadowed (ask_shadowed shadowed) steps) turns

end Stepping

namespace Wrapper

include shadowed

/-- Only stepping engines are considered, as all scripted engines share one script. -/
theorem runEngine_shadowed (turns : Nat) :
    Exec.Shadowed own start origin true (· = ·) (runEngine perform turns own.handle)
      (runEngine counterpart turns .first) := by
  apply Exec.Shadowed.engine.bind
  intro engine other alone
  obtain ⟨lent, isStepping⟩ := alone.stepping
  rw [← alone.mode, isStepping]
  exact Stepping.run_shadowed shadowed turns

/-- A run is accepted or rejected in both worlds. -/
theorem run_shadowed (turns : Nat) :
    Exec.Shadowed own start origin true (· = ·) (run perform turns own.handle)
      (run counterpart turns .first) := by
  apply wrapper.bind
  intro wrapper other alone
  rw [alone.state, alone.userData]
  split
  · exact .pure rfl
  · apply (setState .running).bind_same
    intro _
    have entered : (Event.runEntered own.handle : Event ν).belongs own = true := decide_eq_true rfl
    have left : (Event.runLeft own.handle : Event ν).belongs own = true := decide_eq_true rfl
    refine emitLogged_bind entered rfl _ ?_
    apply (runEngine_shadowed shadowed turns).bind_same
    intro _
    apply (setState .halted).bind_same
    intro _
    exact emitLogged_bind left rfl _ (.pure rfl)

omit shadowed in
/-- A script may be handed over in both worlds. -/
theorem schedule_shadowed (script : Option (List EngineOperation)) :
    Exec.Shadowed own start origin true (· = ·) (schedule script) (schedule script) := by
  cases script with
  | none => exact .pure rfl
  | some operations => exact fun _ _ shadows => ⟨rfl, shadows.scripts operations operations⟩

/-- Each action on the wrapper ends as it does alone, if the actions inside its callbacks do. A run
is the only one inside which anything else happens. -/
theorem performWith_shadowed (turns : Nat) (surface : Surface) (action : Action) :
    Exec.Shadowed own start origin true (· = ·)
      (performWith perform turns surface own.handle action)
      (performWith counterpart turns surface .first action) := by
  cases action using Action.byKind σ ν with
  | run script =>
    apply (schedule_shadowed script).bind_same
    intro _
    apply (run_shadowed shadowed turns).bind_same
    intro finished
    cases finished with
    | true => exact .pure rfl
    | false =>
      cases surface with
      | direct => exact .pure rfl
      | foreign => exact .throw fun _ _ _ => trivial
  | adjust action update adjusts =>
    rw [performWith_adjustment adjusts, performWith_adjustment adjusts]
    have keeps (engine copy : Engine σ ν) (alone : engine.Alone own copy) :
        (update engine).Alone own (update copy) := alone.adjustment adjusts
    exact (modifyEngine keeps).bind_same fun _ => .pure rfl
  | observe action view observes =>
    rw [performWith_observation observes, performWith_observation observes]
    exact wrapper.bind fun _ _ alone => .pure (alone.observation observes)
  | arrange number => exact .throw fun _ _ _ => trivial

/-- It is told of in both worlds, provided that actions on the wrapper are counted among its
events. -/
theorem recording_shadowed (counted : own.actions = true) (turns : Nat) (surface : Surface)
    (action : Action) :
    Exec.Shadowed own start origin true (· = ·)
      ((performWith perform turns).recording surface own.handle action)
      ((performWith counterpart turns).recording surface .first action) := by
  refine .bind_same (emit (by simp [Event.belongs, counted]) rfl) fun _ => ?_
  apply (performWith_shadowed shadowed turns surface action).bind_same
  intro reply
  exact .bind_same (emit (by simp [Event.belongs, counted]) rfl) fun _ => .pure rfl

end Wrapper

end

/-! ### The induction on the nesting of runs -/

section

variable {own : Belongings σ ν ω} {arrangements : Arrangements σ ν} (counted : own.actions = true)
  (avoid : arrangements.Avoid own) (start origin : World σ ν)

include counted avoid

/-- What is done to others, without their acting on the wrapper, is nothing to it. -/
theorem attending_others (present : Bool) (bound : Nat) (surface : Surface) {target : Handle}
    (action : Action) (different : target ≠ own.handle) {world other : World σ ν}
    (shadows : Shadows own start origin present world other) :
    (attending arrangements own.handle own.slot bound surface target action).Ensures world
      (fun reply after => Shadows own start origin present after other ∧ reply ≠ .built own.handle)
      fun _ _ => False := by
  rw [attending_other different]
  have aside := shunning_aside avoid world bound surface target action world (.refl shadows.beside)
  unfold Exec.Ensures at aside ⊢
  unfold Exec.caught
  cases ends : shunning arrangements own.handle own.slot bound surface target action world with
  | ok reply after =>
    rw [ends] at aside
    exact ⟨shadows.pass counted aside.1, aside.2⟩
  | error stop after => exact ⟨shadows, nofun⟩

/-- As long as no callback of another wrapper acts on the wrapper, the same is done to it where it
is alone. -/
theorem attending_shadowed (present : Bool) (bound : Nat) :
    Performer.Shadowed own start origin present (attending arrangements own.handle own.slot bound)
      (performPresent bound) := by
  have others (present : Bool) (bound : Nat) (surface : Surface) (target : Handle) (action : Action)
      (different : target ≠ own.handle) (world other : World σ ν)
      (shadows : Shadows own start origin present world other) :=
    attending_others counted avoid start origin present bound surface action different shadows
  induction bound generalizing present with
  | zero =>
    refine ⟨fun surface action => ?_, others present 0⟩
    unfold attending performPresent
    rw [if_pos rfl]
    exact .throw fun _ _ _ => trivial
  | succ bound ih =>
    refine ⟨fun surface action world other shadows => ?_, others present (bound + 1)⟩
    unfold attending performPresent
    rw [if_pos rfl]
    unfold Exec.ifPresent
    have wrappers := shadows.wrapper
    have isPresent := shadows.present
    -- The wrapper is there on both sides or on neither, and each side asks for its own.
    generalize world.wrappers.get? own.handle = found at wrappers isPresent ⊢
    generalize other.wrappers.get? .first = foundToo at wrappers ⊢
    cases wrappers with
    | none => exact ⟨rfl, trivial⟩
    | some =>
      subst isPresent
      exact Wrapper.recording_shadowed (ih true) counted bound surface action world other shadows

end

end RecompilerAdapter
