/-
Module: RecompilerAdapter.Proofs.Bystanders
Purpose: Engines at work beside a wrapper. Whatever another wrapper's engine does, it passes the wrapper
  by, if the actions that callbacks carry out do; so by induction on the nesting of runs, every action
  does that is carried out while the wrapper is inside a run of its own.
Trusted boundary: none
Main exports: Exec.Aside, Performer.Aside, Belongings.Permits, Wrapper.run_aside, perform_aside
-/
import RecompilerAdapter.Proofs.Belongings
import RecompilerAdapter.Proofs.RejectedRuns

namespace RecompilerAdapter

variable {σ ν ω α β : Type} {own : Belongings σ ν ω} {start world : World σ ν}
  {perform : Performer σ ν} {handle : Handle}

namespace Exec

/-- What a computation does passes the wrapper by, and its answers are as `yields` says. `start` is
where it began, so that several computations in a row make one that passes by. -/
def Aside (own : Belongings σ ν ω) (start : World σ ν) (computation : Exec σ ν α)
    (yields : α → Prop) : Prop :=
  ∀ world, Passed own start world →
    computation.Ensures world (fun answer after => Passed own start after ∧ yields answer)
      fun _ _ => True

end Exec

/-- What the performer carries out passes the wrapper by. -/
def Performer.Aside (own : Belongings σ ν ω) (start : World σ ν) (perform : Performer σ ν) : Prop :=
  ∀ surface handle action, (perform surface handle action).Aside own start fun _ => True

namespace Exec.Aside

variable {yields weaker : α → Prop} {further : β → Prop} {event : Event ν}

/-- Answering at once touches nobody. -/
theorem pure {answer : α} (holds : yields answer) :
    (Pure.pure answer : Exec σ ν α).Aside own start yields :=
  fun _ passed => ⟨passed, holds⟩

/-- What stops has no claim to make about the wrapper. -/
theorem throw (stop : Stop) : (MonadExcept.throw stop : Exec σ ν α).Aside own start yields :=
  fun _ _ => trivial

/-- Less may be said of the answer. -/
theorem weaken {computation : Exec σ ν α} (aside : computation.Aside own start yields)
    (weakens : ∀ answer, yields answer → weaker answer) : computation.Aside own start weaker :=
  fun world passed => (aside world passed).mono (fun answer _ ends => ⟨ends.1, weakens answer ends.2⟩)
    fun _ _ => id

/-- Computations that pass the wrapper by, one after the other, pass it by. What the first one
yields may be needed to see that the second one does. -/
theorem bind {computation : Exec σ ν α} {next : α → Exec σ ν β}
    (first : computation.Aside own start yields)
    (rest : ∀ answer, yields answer → (next answer).Aside own start further) :
    (computation >>= next).Aside own start further :=
  fun world passed => (first world passed).bind fun answer after ⟨stillPassed, holds⟩ =>
    rest answer holds after stillPassed

/-- An event that does not belong to the wrapper may be told if it does not change its engine
either. An action on the wrapper does not belong to it but changes it, so such events take another
rule. -/
theorem emit (foreign : event.belongs own = false)
    (unchanged : ∀ engine : Engine σ ν, engine.afterEvent own.handle event = engine) :
    (Exec.emit event).Aside own start fun _ => True :=
  fun _ passed => ⟨passed.record foreign unchanged, trivial⟩

/-- The handles of other slots are those of other wrappers, as a wrapper's handle is bound to its
own slot alone. -/
theorem boundHandle {slot : HandleSlot} (different : slot ≠ own.slot) :
    (Exec.boundHandle slot).Aside own start fun handle => handle ≠ own.handle := by
  intro world passed
  rw [← bind_pure (Exec.boundHandle slot)]
  apply Ensures.boundHandle_bind
  · intro handle isBound
    exact ⟨passed, passed.beside.sole_ne different isBound⟩
  · exact fun _ => trivial

/-- The engines of other wrappers have no part in what belongs to this one. -/
theorem engine (different : handle ≠ own.handle) :
    (Exec.engine handle).Aside own start fun engine => engine.Avoids own := by
  intro world passed
  rw [← bind_pure (Exec.engine handle)]
  apply Ensures.engine_bind
  · intro wrapper present
    exact ⟨passed, passed.beside.others handle wrapper different present⟩
  · exact fun _ => trivial

/-- Another wrapper may be changed, provided that its engine still has no part in it. -/
theorem modifyWrapper (different : handle ≠ own.handle) {update : Wrapper σ ν → Wrapper σ ν}
    (avoids : ∀ wrapper, wrapper.engine.Avoids own → (update wrapper).engine.Avoids own) :
    (Exec.modifyWrapper handle update).Aside own start fun _ => True := by
  intro world passed
  rw [← bind_pure (Exec.modifyWrapper handle update)]
  apply Ensures.modifyWrapper_bind
  · intro wrapper present
    have avoided := avoids wrapper (passed.beside.others handle wrapper different present)
    exact ⟨passed.place different avoided, trivial⟩
  · exact fun _ => trivial

/-- So may another engine. -/
theorem modifyEngine (different : handle ≠ own.handle) {update : Engine σ ν → Engine σ ν}
    (avoids : ∀ engine, engine.Avoids own → (update engine).Avoids own) :
    (Exec.modifyEngine handle update).Aside own start fun _ => True :=
  modifyWrapper different fun wrapper => avoids wrapper.engine

/-- A word that is not the wrapper's may be stored. -/
theorem storeWord {location : Location} (avoids : location.Avoids own) (word : UInt32) :
    (Exec.storeWord location word).Aside own start fun _ => True :=
  fun world passed => ⟨passed.share (avoids world.shared word), trivial⟩

/-- Any word may be loaded: looking at a word does not touch it. -/
theorem loadWord (location : Location) :
    (Exec.loadWord location).Aside own start fun _ => True :=
  fun _ passed => ⟨passed, trivial⟩

/-- Items are gone through one after the other, each of them aside. -/
theorem mapM {body : β → Exec σ ν α} (items : List β)
    (each : ∀ item, (body item).Aside own start fun _ => True) :
    (items.mapM body).Aside own start fun _ => True := by
  induction items with
  | nil => exact .pure trivial
  | cons item items ih =>
    rw [List.mapM_cons]
    exact (each item).bind fun _ _ => ih.bind fun _ _ => .pure trivial

/-- The same where the items matter. -/
theorem forM {body : β → Exec σ ν PUnit} (items : List β)
    (each : ∀ item ∈ items, (body item).Aside own start fun _ => True) :
    (items.forM body).Aside own start fun _ => True := by
  induction items with
  | nil => exact .pure trivial
  | cons item items ih =>
    rw [List.forall_mem_cons] at each
    exact each.1.bind fun _ _ => ih each.2

end Exec.Aside

/-! ### Bodies and bridges -/

section

variable (aside : perform.Aside own start)

include aside

/-- A body that has no part in what belongs to the wrapper passes it by, if the actions that it
carries out do. -/
theorem Activity.exec_aside {yields : α → Prop} {body : Activity σ ν α}
    (avoids : body.Avoids own yields) : (body.exec perform).Aside own start yields := by
  induction avoids with
  | finish holds => exact .pure holds
  | access keeps rest ih =>
    intro world passed
    apply Exec.Ensures.modifyGet_bind
    exact ih _ _ (passed.share (keeps world.shared))
  | record foreign rest ih => exact .bind (.emit foreign fun _ => rfl) fun _ _ => ih
  | perform rest ih => exact .bind (aside _ _ _) fun reply _ => ih reply

/-- Requests of other engines go to entries that have no part in it, and to its slot none goes. -/
theorem CallbackBridge.forward_aside {configuration : EngineConfiguration σ ν}
    (avoids : configuration.Avoids own) (request : HostRequest) :
    (configuration.callbacks.forward perform request).Aside own start fun _ => True := by
  refine .bind (.emit (decide_eq_false avoids.slot) fun _ => rfl) fun _ _ => ?_
  split
  · cases request <;> exact .pure trivial
  · rename_i entry isEntry
    refine .bind (.boundHandle avoids.slot) fun handle different => ?_
    refine .bind (.emit (decide_eq_false different) fun _ => rfl) fun _ _ => ?_
    refine .bind (Activity.exec_aside aside (avoids.entries request entry handle different isEntry))
      fun answer _ => ?_
    exact .bind (.emit (decide_eq_false different) fun _ => rfl) fun _ _ => .pure trivial

/-- So do compile requests; what comes back may be called or accessed later and has no part in it
either. -/
theorem CoprocessorBridge.compile_aside {bridge : CoprocessorBridge σ ν} (avoids : bridge.Avoids own)
    (request : CompileRequest) :
    (bridge.compile perform request).Aside own start fun compiled => compiled.Avoids own := by
  rw [compile_eq, consult]
  refine .bind (.emit (decide_eq_false avoids.slot) fun _ => rfl) fun _ _ => ?_
  refine .bind (Activity.exec_aside aside (avoids.answer request)) fun wire answers => ?_
  refine .bind (.emit (decide_eq_false avoids.slot) fun _ => rfl) fun _ _ => ?_
  exact .bind (.boundHandle avoids.slot) fun handle different => .pure (answers handle different)

/-- A deferred operation of another wrapper is called with another handle. -/
theorem Callback.run_aside {callback : Callback (DeferredFunction σ ν)} (avoids : callback.Avoids own)
    (first second : UInt32) : (callback.run perform first second).Aside own start fun _ => True :=
  .bind (.emit (decide_eq_false avoids.handle) fun _ => rfl) fun _ _ =>
    Activity.exec_aside aside (avoids.call first second)

end

/-! ### The stepping engine -/

namespace Stepping

/-- Lending out parts does not change what an engine has a part in. -/
theorem avoids_setLentParts {engine : Engine σ ν} (avoids : engine.Avoids own)
    (lent : List EnginePart) : (setLentParts lent engine).Avoids own := by
  unfold setLentParts
  split
  · exact avoids.tune rfl nofun
  · exact avoids

variable (different : handle ≠ own.handle)

include different

/-- An engine lends out its own parts, not those of the wrapper. -/
theorem lending_aside {yields : α → Prop} {part : EnginePart} {body : Exec σ ν α}
    (bodies : body.Aside own start yields) : (lending handle part body).Aside own start yields := by
  have inside : Exec.Aside own start (do
      Exec.modifyEngine handle fun engine => setLentParts (part :: lentParts engine) engine
      let result ← body
      Exec.modifyEngine handle fun engine => setLentParts ((lentParts engine).erase part) engine
      return result) yields :=
    .bind (.modifyEngine different fun _ avoids => avoids_setLentParts avoids _) fun _ _ =>
      bodies.bind fun _ holds =>
        .bind (.modifyEngine different fun _ avoids => avoids_setLentParts avoids _) fun _ _ =>
          .pure holds
  refine .bind (.engine different) fun engine _ => ?_
  dsimp only
  split
  · exact fun _ _ => trivial
  · exact inside

theorem readRegister_aside (number : RegisterNumber) :
    (readRegister handle number : Exec σ ν UInt32).Aside own start fun _ => True :=
  .bind (.engine different) fun _ _ => .pure trivial

theorem writeRegister_aside (number : RegisterNumber) (value : UInt32) :
    (writeRegister handle number value : Exec σ ν Unit).Aside own start fun _ => True :=
  .modifyEngine different fun _ avoids => avoids.tune rfl fun _ => id

theorem takeHalt_aside : (takeHalt handle : Exec σ ν Bool).Aside own start fun _ => True :=
  .bind (.engine different) fun _ _ =>
    .bind (.modifyEngine different fun _ avoids => avoids.tune rfl fun _ => id) fun _ _ =>
      .pure trivial

variable (aside : perform.Aside own start)

include aside

theorem ask_aside (request : HostRequest) :
    (ask perform handle request).Aside own start fun _ => True :=
  lending_aside different (.bind (.engine different) fun _ avoids =>
    CallbackBridge.forward_aside aside avoids.configuration request)

theorem fetch_aside (address : UInt32) :
    (fetch perform handle address).Aside own start fun _ => True := by
  refine .bind (.engine different) fun engine _ world passed => ?_
  apply Exec.Ensures.get_bind
  dsimp only
  split
  · exact ⟨passed, trivial⟩
  · have asked := ask_aside different aside (.read .word address)
    exact Exec.Aside.bind asked (fun _ _ => .pure trivial) world passed

/-- The answer of a coprocessor that has no part in what belongs to the wrapper leads to nothing
that does. -/
theorem withCoprocessor_aside (slot : Fin 16) (request : CompileRequest) :
    (withCoprocessor handle slot fun bridge => bridge.compile perform request).Aside own start
      fun compiled => ∀ answer, compiled = some answer → answer.Avoids own := by
  refine lending_aside different (.bind (.engine different) fun engine avoids => ?_)
  split
  · rename_i bridge populated
    have employed : some bridge ∈ engine.configuration.coprocessors :=
      Vector.mem_of_getElem populated
    refine .bind (CoprocessorBridge.compile_aside aside (avoids.configuration.bridges bridge employed)
      request) fun compiled holds => .pure ?_
    rintro _ ⟨⟩
    exact holds
  · refine .pure ?_
    rintro _ ⟨⟩

omit different in
/-- An operation that was answered is called with operands that are read from other registers. -/
theorem runOperation_aside {compiled : Option (Callback (DeferredFunction σ ν))}
    (avoids : ∀ callback, compiled = some callback → callback.Avoids own) (first second : Exec σ ν UInt32)
    (firstAside : first.Aside own start fun _ => True)
    (secondAside : second.Aside own start fun _ => True) :
    (runOperation perform (some compiled) first second).Aside own start fun _ => True := by
  cases compiled with
  | none => exact .pure trivial
  | some callback =>
    exact firstAside.bind fun _ _ => secondAside.bind fun _ _ =>
      .bind (Callback.run_aside aside (avoids callback rfl) _ _) fun _ _ => .pure trivial

/-- Whatever the form of the answer, it calls an operation or accesses words, and it was obtained
from one who has no part in what belongs to the wrapper. -/
theorem useCompiled_aside (instruction : CoprocessorInstruction)
    {compiled : Compiled (DeferredFunction σ ν)} (avoids : compiled.Avoids own) :
    (useCompiled perform handle instruction (some compiled)).Aside own start fun _ => True := by
  have reads (number : RegisterNumber) :
      (readRegister handle number : Exec σ ν UInt32).Aside own start fun _ => True :=
    readRegister_aside different number
  have writes (number : RegisterNumber) (value : UInt32) :
      (writeRegister handle number value : Exec σ ν Unit).Aside own start fun _ => True :=
    writeRegister_aside different number value
  -- Each kind of answer serves some instructions; to the others it means nothing, and nothing is
  -- done.
  cases compiled with
  | operation answer =>
    have operates := runOperation_aside aside avoids.callback
    cases instruction with
    | internalOperation => exact operates _ _ (.pure trivial) (.pure trivial)
    | loadWords | storeWords => exact operates _ _ (reads _) (.pure trivial)
    | _ => exact .pure trivial
  | oneWord answer =>
    cases answer with
    | unsupported => cases instruction <;> exact .pure trivial
    | callback callback =>
      have runs := Callback.run_aside aside (avoids.callback callback rfl)
      cases instruction with
      | sendOneWord =>
        exact .bind (reads _) fun _ _ => .bind (runs _ _) fun _ _ => .pure trivial
      | getOneWord =>
        exact .bind (runs _ _) fun _ _ => .bind (writes _ _) fun _ _ => .pure trivial
      | _ => exact .pure trivial
    | access location =>
      have avoided := avoids.locations location (List.mem_singleton.2 rfl)
      cases instruction with
      | sendOneWord =>
        exact .bind (reads _) fun _ _ => .bind (.storeWord avoided _) fun _ _ => .pure trivial
      | getOneWord =>
        exact .bind (.loadWord _) fun _ _ => .bind (writes _ _) fun _ _ => .pure trivial
      | _ => exact .pure trivial
  | twoWords answer =>
    cases answer with
    | unsupported => cases instruction <;> exact .pure trivial
    | callback callback =>
      have runs := Callback.run_aside aside (avoids.callback callback rfl)
      cases instruction with
      | sendTwoWords =>
        exact .bind (reads _) fun _ _ => .bind (reads _) fun _ _ => .bind (runs _ _) fun _ _ =>
          .pure trivial
      | getTwoWords =>
        exact .bind (runs _ _) fun _ _ => .bind (writes _ _) fun _ _ =>
          .bind (writes _ _) fun _ _ => .pure trivial
      | _ => exact .pure trivial
    | access locations =>
      obtain ⟨low, high⟩ := locations
      have lowAvoided := avoids.locations low (by simp [Scripted.locations])
      have highAvoided := avoids.locations high (by simp [Scripted.locations])
      cases instruction with
      | sendTwoWords =>
        exact .bind (reads _) fun _ _ => .bind (.storeWord lowAvoided _) fun _ _ =>
          .bind (reads _) fun _ _ => .bind (.storeWord highAvoided _) fun _ _ => .pure trivial
      | getTwoWords =>
        exact .bind (.loadWord _) fun _ _ => .bind (writes _ _) fun _ _ =>
          .bind (.loadWord _) fun _ _ => .bind (writes _ _) fun _ _ => .pure trivial
      | _ => exact .pure trivial

/-- So an instruction that another engine executes passes the wrapper by. Its own registers are its
own, and what it calls was assumed to do so. -/
theorem execute_aside (address : UInt32) (instruction : Instruction) :
    (execute perform handle address instruction).Aside own start fun _ => True := by
  have writes (number : RegisterNumber) (value : UInt32) :
      (writeRegister handle number value : Exec σ ν Unit).Aside own start fun _ => True :=
    writeRegister_aside different number value
  have raises : (raise perform handle address).Aside own start fun _ => True :=
    .bind (ask_aside different aside _) fun _ _ => .pure trivial
  cases instruction with
  | idle | branch => exact .bind (writes _ _) fun _ _ => .pure trivial
  | supervisorCall number =>
    exact .bind (writes _ _) fun _ _ => .bind (ask_aside different aside _) fun _ _ => .pure trivial
  | coprocessor slot instruction =>
    rw [execute, coprocessor_eq, bind_assoc]
    refine .bind (withCoprocessor_aside different aside slot instruction.request)
      fun compiled avoids => ?_
    have used : (useCompiled perform handle instruction compiled).Aside own start fun _ => True := by
      cases compiled with
      | none => cases instruction <;> exact .pure trivial
      | some compiled => exact useCompiled_aside different aside instruction (avoids compiled rfl)
    refine used.bind fun done _ => ?_
    cases done with
    | true => exact .bind (writes _ _) fun _ _ => .pure trivial
    | false => exact raises
  | undefined => exact raises

theorem step_aside : (step perform handle).Aside own start fun _ => True :=
  .bind (readRegister_aside different pc) fun address _ =>
    .bind (fetch_aside different aside address) fun _ _ =>
      .bind (.emit (decide_eq_false different) fun _ => rfl) fun _ _ =>
        execute_aside different aside address _

theorem turn_aside : (turn perform handle).Aside own start fun _ => True := by
  refine .bind (takeHalt_aside different) fun halted _ => ?_
  cases halted with
  | true => exact .pure trivial
  | false =>
    refine .bind (ask_aside different aside .ticksRemaining) fun left _ => ?_
    split
    · exact .pure trivial
    · exact .bind (step_aside different aside) fun _ _ =>
        .bind (ask_aside different aside (.addTicks 1)) fun _ _ => .pure trivial

/-- The run of another wrapper passes the wrapper by; the wrapper itself is running and rejects. The
case that it rests does not occur, because the frame is for what happens inside its runs. -/
theorem run_aside (turns : Nat) : (run perform handle turns).Aside own start fun _ => True := by
  induction turns with
  | zero => exact .throw _
  | succ turns ih =>
    refine .bind (turn_aside different aside) fun goesOn _ => ?_
    cases goesOn with
    | true => exact ih
    | false => exact .pure trivial

end Stepping

/-! ### The scripted engine -/

namespace Scripted

/-- A scripted engine may keep an answer that has no part in what belongs to the wrapper. -/
theorem avoids_setLastAnswer {engine : Engine σ ν} {last : Last σ ν} (avoids : engine.Avoids own)
    (answer : ∀ compiled, last = some compiled → compiled.Avoids own) :
    (setLastAnswer last engine).Avoids own := by
  unfold setLastAnswer
  split
  · exact ⟨avoids.configuration, fun compiled same =>
      answer compiled (EngineMode.scripted.inj same)⟩
  · exact avoids

/-- And what it has kept is such an answer. -/
theorem avoids_lastAnswer {engine : Engine σ ν} (avoids : engine.Avoids own)
    (compiled : Compiled (DeferredFunction σ ν)) (same : lastAnswer engine = some compiled) :
    compiled.Avoids own := by
  unfold lastAnswer at same
  split at same
  · rename_i mode
    exact avoids.answer compiled (mode.trans (congrArg _ same))
  · cases same

variable {last : Last σ ν} (aside : perform.Aside own start)
  (avoids : ∀ compiled, last = some compiled → compiled.Avoids own)

include aside avoids

/-- A scripted engine uses such an answer in one of three ways: it calls the operation, or it loads
or stores the words. -/
theorem useAnswer_aside (use : AnswerUse) :
    (useAnswer perform last use).Aside own start fun _ => True := by
  cases use with
  | call first second =>
    simp only [useAnswer]
    split
    · rename_i callback found
      obtain ⟨compiled, kept, held⟩ := Option.bind_eq_some_iff.1 found
      have avoided := (avoids compiled kept).callback callback held
      exact .bind (Callback.run_aside aside avoided first second) fun _ _ => .pure trivial
    · exact .pure trivial
  | load =>
    simp only [useAnswer]
    split
    · exact .pure trivial
    · exact .bind (.mapM _ .loadWord) fun _ _ => .pure trivial
  | store first second =>
    simp only [useAnswer]
    split
    · exact .pure trivial
    · rename_i granted _
      refine .bind (.forM _ fun item isItem => .storeWord ?_ _) fun _ _ => .pure trivial
      have isGranted := (List.of_mem_zip isItem).1
      cases kept : last with
      | none => simp [kept] at isGranted
      | some compiled =>
        simp only [kept, Option.map_some, Option.getD_some] at isGranted
        exact (avoids compiled kept).locations item.1 isGranted

/-- The operations of a script, with what they leave behind for those that follow. -/
theorem execute_aside {configuration : EngineConfiguration σ ν} (employs : configuration.Avoids own)
    (operation : EngineOperation) :
    (execute perform configuration last operation).Aside own start fun result =>
      ∀ compiled, result.2 = some compiled → compiled.Avoids own := by
  cases operation with
  | request request =>
    exact .bind (CallbackBridge.forward_aside aside employs request) fun _ _ => .pure avoids
  | fallback pc instructions =>
    have falls : (configuration.callbacks.fallback pc instructions).Aside own start fun _ => True :=
      .bind (.emit (decide_eq_false employs.slot) fun _ => rfl) fun _ _ => .throw _
    exact falls.bind fun _ _ => .pure avoids
  | compile slot request =>
    simp only [execute]
    split
    · rename_i bridge found
      have employed : some bridge ∈ configuration.coprocessors :=
        Vector.mem_of_getElem? (Option.join_eq_some_iff.1 found)
      refine .bind (CoprocessorBridge.compile_aside aside (employs.bridges bridge employed) request)
        fun compiled holds => .pure ?_
      rintro _ ⟨⟩
      exact holds
    · exact .pure avoids
  | use use => exact .bind (useAnswer_aside aside avoids use) fun _ _ => .pure avoids

omit avoids in
/-- By induction on the script. What was answered last is carried along as something that has no
part in what belongs to the wrapper. -/
theorem runOperations_aside (different : handle ≠ own.handle) (operations : List EngineOperation) :
    (runOperations perform handle operations).Aside own start fun _ => True := by
  induction operations with
  | nil => exact .pure trivial
  | cons operation rest ih =>
    refine .bind (.engine different) fun engine avoids => ?_
    split
    · exact .modifyEngine different fun _ avoids => avoids.tune rfl fun _ => id
    · refine .bind (execute_aside aside (avoids_lastAnswer avoids) avoids.configuration operation)
        fun result holds => ?_
      exact .bind (.modifyEngine different fun _ avoids => avoids_setLastAnswer avoids holds)
        fun _ _ => .bind (.emit rfl fun _ => rfl) fun _ _ => ih

omit avoids in
theorem run_aside (different : handle ≠ own.handle) :
    (run perform handle).Aside own start fun _ => True := by
  have takes : (Exec.takeScript : Exec σ ν (List EngineOperation)).Aside own start fun _ => True :=
    fun _ passed => ⟨passed.script [], trivial⟩
  exact takes.bind fun operations _ => runOperations_aside aside different operations

end Scripted

/-! ### Actions -/

/-- Actions on the wrapper behind the handle do not count among the belongings. If they do, only
actions on others pass it by. -/
def Belongings.Permits (own : Belongings σ ν ω) (handle : Handle) : Prop :=
  own.actions = true → handle ≠ own.handle

/-- An action that is permitted is no event of the wrapper, either because it is one on another
wrapper or because actions on it are not counted. -/
theorem Belongings.Permits.foreign (permits : own.Permits handle) :
    (own.actions && decide (handle = own.handle)) = false := by
  rw [Bool.and_eq_false_iff]
  cases counted : own.actions with
  | false => exact .inl rfl
  | true => exact .inr (decide_eq_false (permits counted))

namespace Passed

variable {surface : Surface} {action : Action} {wrapper : Wrapper σ ν}

/-- Somebody has looked at a wrapper. -/
theorem observe {view : Wrapper σ ν → Reply} (observes : action.observation? = some view)
    (permits : own.Permits handle) (passed : Passed own start world) :
    Passed own start ((world.record (.acting surface handle action)).record
      (.acted surface handle action (view wrapper))) := by
  have begins : Passed own start (world.record (.acting surface handle action)) :=
    passed.record permits.foreign fun _ => rfl
  refine begins.record permits.foreign fun engine => ?_
  cases action <;> first | exact ite_self _ | cases observes

/-- Somebody has changed the engine of a wrapper, be it this one or another. If it is this one, the
events tell of the change, and replaying them accounts for it. -/
theorem adjust {update : Engine σ ν → Engine σ ν} (adjusts : action.adjustment? = some update)
    (permits : own.Permits handle) (passed : Passed own start world)
    (present : world.wrappers.get? handle = some wrapper) :
    Passed own start (((world.record (.acting surface handle action)).place handle
      { wrapper with engine := update wrapper.engine }).record
        (.acted surface handle action .done)) := by
  by_cases same : handle = own.handle
  · subst same
    refine passed.trans ⟨⟨passed.beside.sole, ?_⟩, rfl, rfl,
      [.acting surface own.handle action, .acted surface own.handle action .done], ?_, ?_, ?_⟩
    · intro other found different isFound
      simp only [World.wrappers_record, World.get?_place, different, if_false] at isFound
      exact passed.beside.others other found different isFound
    · simp
    · simpa [Event.belongs] using permits.foreign
    · rw [World.wrappers_record, World.get?_place, if_pos rfl, present]
      simp [Wrapper.replay, Engine.afterEvent, adjusts]
  · have avoids : (update wrapper.engine).Avoids own :=
      (passed.beside.others handle wrapper same present).tune
      (action.configuration_adjustment adjusts _) fun compiled => by
        rw [action.mode_adjustment adjusts]
        exact id
    have begins : Passed own start (world.record (.acting surface handle action)) :=
      passed.record permits.foreign fun _ => rfl
    exact (begins.place same avoids).record permits.foreign fun _ => if_neg same

end Passed

namespace Wrapper

variable {turns : Nat} {surface : Surface} {action : Action}

/-- Both kinds of engines pass the wrapper by while they work. -/
theorem runEngine_aside (aside : perform.Aside own start) (different : handle ≠ own.handle) :
    (runEngine perform turns handle).Aside own start fun _ => True := by
  refine .bind (.engine different) fun engine _ => ?_
  split
  · exact Stepping.run_aside different aside turns
  · exact Scripted.run_aside aside different

/-- The run of another wrapper passes the wrapper by; the wrapper itself is running and rejects. -/
theorem run_aside (aside : perform.Aside own start) (running : handle = own.handle →
      ∀ wrapper, start.wrappers.get? own.handle = some wrapper → wrapper.state = .running) :
    (run perform turns handle).Aside own start fun _ => True := by
  intro world passed
  apply Exec.Ensures.wrapper_bind
  · intro wrapper present
    by_cases same : handle = own.handle
    · have isRunning : wrapper.state = .running := by
        obtain ⟨-, -, -, events, -, -, replays⟩ := passed
        rw [← same, present, same] at replays
        obtain ⟨first, isFirst, rfl⟩ := Option.map_eq_some_iff.1 replays.symm
        exact running same first isFirst
      rw [if_pos isRunning]
      exact ⟨passed, trivial⟩
    · have sets (state : RunState) : (Exec.setState handle state).Aside own start fun _ => True :=
        .modifyWrapper same fun _ => id
      split
      · exact ⟨passed, trivial⟩
      · have runs : Exec.Aside own start (do
            Exec.setState handle .running
            Exec.emit (.runEntered handle)
            Exec.emit (.log (.engineRun wrapper.userData))
            runEngine perform turns handle
            Exec.setState handle .halted
            Exec.emit (.runLeft handle)
            Exec.emit (.log (.engineReturned wrapper.userData))
            return true) fun _ => True :=
          .bind (sets _) fun _ _ => .bind (.emit (decide_eq_false same) fun _ => rfl) fun _ _ =>
            .bind (.emit rfl fun _ => rfl) fun _ _ => .bind (runEngine_aside aside same) fun _ _ =>
              .bind (sets _) fun _ _ => .bind (.emit (decide_eq_false same) fun _ => rfl) fun _ _ =>
                .bind (.emit rfl fun _ => rfl) fun _ _ => .pure trivial
        exact runs world passed
  · exact fun _ => trivial

/-- The script that is handed over to engines does not belong to any wrapper. -/
theorem schedule_aside (script : Option (List EngineOperation)) :
    (schedule script : Exec σ ν Unit).Aside own start fun _ => True := by
  cases script with
  | none => exact .pure trivial
  | some operations => exact fun _ passed => ⟨passed.script operations, trivial⟩

/-- Every action on another wrapper passes by; so does every action on a wrapper that is inside a
run, unless it counts among its belongings. -/
theorem recording_aside (aside : perform.Aside own start) (permits : own.Permits handle)
    (running : handle = own.handle →
      ∀ wrapper, start.wrappers.get? own.handle = some wrapper → wrapper.state = .running) :
    ((performWith perform turns).recording surface handle action).Aside own start fun _ => True := by
  cases action using Action.byKind σ ν with
  | run script =>
    rw [recording_run]
    refine .bind (.emit permits.foreign fun _ => rfl) fun _ _ => .bind (schedule_aside script) fun _ _ =>
      .bind (run_aside aside running) fun accepted _ => ?_
    have told (surface : Surface) (reply : Reply) :
        (Exec.emit (.acted surface handle (.run script) reply)).Aside own start fun _ => True :=
      .emit permits.foreign fun _ => ite_self _
    cases accepted with
    | true => exact (told surface .finished).bind fun _ _ => .pure trivial
    | false =>
      cases surface with
      | direct => exact (told .direct .alreadyRunning).bind fun _ _ => .pure trivial
      | foreign => exact .throw _
  | adjust action update adjusts =>
    exact fun _ passed => recording_adjustment adjusts
      (fun _ present => ⟨passed.adjust adjusts permits present, trivial⟩) fun _ => trivial
  | observe action view observes =>
    exact fun _ passed => recording_observation observes
      (fun _ _ => ⟨passed.observe observes permits, trivial⟩) fun _ => trivial
  | arrange number =>
    have stops : (performWith perform turns surface handle (.arrange number)).Aside own start
        fun _ => False := .throw _
    exact .bind (.emit permits.foreign fun _ => rfl) fun _ _ => stops.bind fun _ => False.elim

end Wrapper

/-- Whatever the bound on the nesting is, all actions pass by a wrapper that is inside a run. -/
theorem perform_aside (uncounted : own.actions = false)
    (running : ∀ wrapper, start.wrappers.get? own.handle = some wrapper → wrapper.state = .running)
    (bound : Nat) : (RecompilerAdapter.perform bound).Aside own start := by
  induction bound with
  | zero => exact fun _ _ _ => .throw _
  | succ bound ih =>
    intro surface handle action
    have permits : own.Permits handle := fun counted => by simp [uncounted] at counted
    exact Wrapper.recording_aside ih permits fun _ => running

end RecompilerAdapter
