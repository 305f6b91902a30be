/-
Module: RecompilerAdapter.Proofs.SteppingRuns
Purpose: A stepping engine at work. Each of its computations proceeds: the engine changes only itself,
  calls only its own bridges, and runs a deferred operation right after its coprocessor has answered with
  it.
Trusted boundary: none
Main exports: Stepping.Advances, Stepping.Looks, Stepping.lending_proceeds,
  Stepping.withCoprocessor_proceeds
-/
import RecompilerAdapter.Engine.Stepping
import RecompilerAdapter.Proofs.Bridges

namespace RecompilerAdapter

variable {σ ν α β : Type} {perform : Performer σ ν} {world after : World σ ν} {worker : Handle}
  {waiting others : List Handle} {configuration : EngineConfiguration σ ν}

/-- The wrapper at work has a stepping engine. -/
structure Engaged (world : World σ ν) (worker : Handle) (waiting : List Handle)
    (configuration : EngineConfiguration σ ν) : Prop
    extends Busy world worker waiting configuration where
  stepping : (world.mode? worker).map (·.isStepping) = some true

/-- A computation that comes back leaves the engine engaged: its wrapper is where it was, its run is
the innermost one, and its mode is still that of a stepping engine. -/
theorem Engaged.later (engaged : Engaged world worker waiting configuration)
    (reaches : Reaches others world after) : Engaged after worker waiting configuration := by
  refine ⟨engaged.toBusy.later reaches, ?_⟩
  have kind (any : World σ ν) : (any.mode? worker).map (·.isStepping) =
      ((any.wrappers.get? worker).map Wrapper.fixed).map (·.2.2) := by
    simp [World.mode?, Function.comp_def, Wrapper.fixed]
  rw [kind, reaches.steady.wrappers, ← kind]
  exact engaged.stepping

namespace Stepping

/-- While the wrapper is at work with a stepping engine, a computation proceeds: it makes moves and
comes back to the same runs. -/
def Advances (worker : Handle) (waiting : List Handle) (configuration : EngineConfiguration σ ν)
    (computation : Exec σ ν α) : Prop :=
  ∀ world, Engaged world worker waiting configuration →
    computation.Proceeds waiting world fun _ _ => True

/-- While the wrapper is at work, a computation only looks at the world. -/
def Looks (worker : Handle) (waiting : List Handle) (configuration : EngineConfiguration σ ν)
    (computation : Exec σ ν α) : Prop :=
  ∀ world, Engaged world worker waiting configuration →
    computation.Proceeds waiting world fun _ after => after = world

namespace Advances

/-- Answering at once advances nothing. -/
theorem pure (answer : α) : Advances worker waiting configuration (Pure.pure answer) :=
  fun _ _ => .pure trivial

/-- Computations of the engine follow one another, because each of them leaves the engine
engaged. -/
theorem bind {computation : Exec σ ν α} {next : α → Exec σ ν β}
    (first : Advances worker waiting configuration computation)
    (rest : ∀ answer, Advances worker waiting configuration (next answer)) :
    Advances worker waiting configuration (computation >>= next) :=
  fun world engaged => (first world engaged).bind fun answer after reaches _ =>
    rest answer after (engaged.later reaches)

end Advances

/-- To look at something is to advance without moving. -/
theorem Looks.advances {computation : Exec σ ν α}
    (looks : Looks worker waiting configuration computation) :
    Advances worker waiting configuration computation :=
  fun world engaged => (looks world engaged).mono fun _ _ _ _ => trivial

/-- Lending out a part is a change that an engine may make of itself. -/
theorem tunes_setLentParts (lent : List EnginePart) (engine : Engine σ ν) :
    Tunes engine (setLentParts lent engine) := by
  unfold setLentParts
  split
  · rename_i before isMode
    exact ⟨rfl, .inr ⟨rfl, by rw [isMode]; rfl⟩⟩
  · exact ⟨rfl, .inl rfl⟩

/-- What a computation ensures about the history and the slots is also ensured when a part of the
engine is lent out for its time. -/
theorem lending_proceeds {part : EnginePart} {body : Exec σ ν α}
    (completed : α → List (Event ν) → HandleSlots → Prop)
    (engaged : Engaged world worker waiting configuration)
    (proceeds : ∀ middle, Engaged middle worker waiting configuration →
      body.Proceeds waiting middle fun answer after => completed answer after.history after.slots) :
    (lending worker part body).Proceeds waiting world
      fun answer after => completed answer after.history after.slots := by
  unfold lending
  apply (Exec.engine_proceeds engaged.toBusy).bind
  intro engine middle _ same
  obtain ⟨rfl, -⟩ := same
  dsimp only
  split
  · exact .throw nofun
  · have lent := Exec.modifyEngine_proceeds _ engaged.toBusy fun engine =>
      tunes_setLentParts (part :: lentParts engine) engine
    apply lent.bind
    intro _ middle reaches _
    apply (proceeds middle (engaged.later reaches)).bind
    intro answer last onward holds
    have returned := Exec.modifyEngine_proceeds _ (engaged.later (reaches.trans onward)).toBusy
      fun engine => tunes_setLentParts ((lentParts engine).erase part) engine
    refine returned.bind fun _ final _ same => .pure ?_
    rw [same.1, same.2]
    exact holds

/-! ### Registers and words -/

/-- Loading a word of the caller is a look. -/
theorem loadWord_looks (location : Location) :
    Looks (σ := σ) (ν := ν) worker waiting configuration (Exec.loadWord location) :=
  fun _ _ => Exec.loadWord_proceeds location

/-- Storing a word is an access to what the caller shares. -/
theorem storeWord_advances (location : Location) (word : UInt32) :
    Advances (σ := σ) (ν := ν) worker waiting configuration (Exec.storeWord location word) :=
  fun _ _ => Exec.storeWord_proceeds location word

/-- Reading a register is a look at the engine's own state. -/
theorem readRegister_looks (number : RegisterNumber) :
    Looks (σ := σ) (ν := ν) worker waiting configuration (readRegister worker number) := by
  intro world engaged
  apply (Exec.engine_proceeds engaged.toBusy).bind
  intro engine middle _ same
  exact .pure same.1

/-- Writing a register is a change that an engine may make of itself. -/
theorem writeRegister_advances (number : RegisterNumber) (value : UInt32) :
    Advances (σ := σ) (ν := ν) worker waiting configuration (writeRegister worker number value) := by
  intro _ engaged
  have written := Exec.modifyEngine_proceeds (·.withRegister number value) engaged.toBusy
    fun _ => ⟨rfl, .inl rfl⟩
  exact written.mono fun _ _ _ _ => trivial

/-! ### Calls of the caller -/

/-- A request is forwarded by the engine's own bridge, with the callbacks lent out. -/
theorem ask_advances (proceeds : perform.Proceeds) (request : HostRequest) :
    Advances worker waiting configuration (ask perform worker request) := by
  intro world engaged
  apply lending_proceeds (fun _ _ _ => True) engaged
  intro middle engaged
  apply (Exec.engine_proceeds engaged.toBusy).bind
  intro engine after _ same
  obtain ⟨rfl, same, -⟩ := same
  rw [same]
  exact Exec.Proceeds.subset (CallbackBridge.forward_proceeds proceeds engaged.toBusy request)
    fun _ => List.mem_cons_of_mem worker

/-- A word is read from a page, which is a look, or asked for. -/
theorem fetch_advances (proceeds : perform.Proceeds) (address : UInt32) :
    Advances worker waiting configuration (fetch perform worker address) := by
  intro world engaged
  unfold fetch
  apply (Exec.engine_proceeds engaged.toBusy).bind
  intro engine after _ same
  obtain ⟨rfl, -⟩ := same
  apply Exec.Ensures.get_bind
  dsimp only
  split
  · exact Exec.Proceeds.pure trivial
  · exact (ask_advances proceeds _).bind (fun _ => .pure _) _ engaged

/-! ### Coprocessor instructions -/

/-- What the coprocessor in a slot answered last is what the engine gets. In particular an operation
that it gets is bound to the engine's own handle. -/
theorem withCoprocessor_proceeds {slot : Fin 16} {compile : CoprocessorBridge σ ν → Exec σ ν α}
    {callback? : α → Option (Callback (DeferredFunction σ ν))} {request : CompileRequest}
    (engaged : Engaged world worker waiting configuration)
    (compiles : ∀ bridge middle, Engaged middle worker waiting configuration →
      some bridge ∈ configuration.coprocessors →
      (compile bridge).Ensures middle
        (fun answer => Consulted (worker :: waiting) middle bridge request (callback? answer))
        (Halts middle)) :
    (withCoprocessor worker slot compile).Proceeds waiting world fun compiled after =>
      ∀ callback, compiled.bind callback? = some callback →
        AnsweredLast after configuration callback := by
  apply lending_proceeds (fun (compiled : Option α) history slots =>
    ∀ callback, compiled.bind callback? = some callback →
      ∃ bridge, some bridge ∈ configuration.coprocessors ∧
        slots.get? bridge.slot = some callback.handle ∧
        lastAnswer bridge.slot history = some (.deferred callback.userArgument))
    engaged
  intro middle engaged
  apply (Exec.engine_proceeds engaged.toBusy).bind
  intro engine after _ same
  obtain ⟨rfl, same, -⟩ := same
  rw [same]
  cases populated : configuration.coprocessors[slot] with
  | none => exact .pure nofun
  | some bridge =>
    have employed : some bridge ∈ configuration.coprocessors := by
      rw [← populated]
      exact Vector.getElem_mem _
    -- The report of the answer is admissible because the engine is still at work when the entry
    -- returns, whatever it has done with other wrappers.
    apply Exec.Ensures.bind (compiles bridge after engaged employed)
    intro answer last consulted
    obtain ⟨asked, handle, report, reaches, isBound, rfl, reported⟩ := consulted
    have later := engaged.later reaches
    have admissible : Admissible asked
        (.compiled bridge.slot bridge.index bridge.table.context request report) :=
      ⟨worker, configuration, bridge, later.atWork, employed, rfl, rfl, rfl, later.stepping⟩
    refine ⟨(reaches.subset fun _ => List.mem_cons_of_mem worker).trans (.record admissible), ?_⟩
    intro callback held
    obtain ⟨rfl, rfl⟩ := reported callback held
    exact ⟨bridge, employed, isBound, by simp [Event.answerThrough]⟩

/-- A deferred operation may be called as long as it is the one that a coprocessor answered with
last. -/
theorem callback_proceeds (proceeds : perform.Proceeds)
    {callback : Callback (DeferredFunction σ ν)}
    (engaged : Engaged world worker waiting configuration)
    (own : AnsweredLast world configuration callback) (first second : UInt32) :
    (callback.run perform first second).Proceeds waiting world fun _ _ => True :=
  Exec.Proceeds.subset (callback.run_proceeds proceeds engaged.toBusy (.inl own) first second)
    fun _ => List.mem_cons_of_mem worker

/-- The operands are looked up first, so nothing is told between the answer and the call of its
operation. -/
theorem runOperation_proceeds (proceeds : perform.Proceeds)
    {compiled : Option (Option (Callback (DeferredFunction σ ν)))} {first second : Exec σ ν UInt32}
    (engaged : Engaged world worker waiting configuration)
    (own : ∀ callback, compiled.bind id = some callback →
      AnsweredLast world configuration callback)
    (looksFirst : Looks worker waiting configuration first)
    (looksSecond : Looks worker waiting configuration second) :
    (runOperation perform compiled first second).Proceeds waiting world fun _ _ => True := by
  rcases compiled with _ | _ | callback
  · exact .pure trivial
  · exact .pure trivial
  · apply (looksFirst world engaged).bind
    intro firstWord middle _ same
    subst same
    apply (looksSecond middle engaged).bind
    intro secondWord last _ same
    subst same
    exact (callback_proceeds proceeds engaged (own callback rfl) firstWord secondWord).bind
      fun _ _ _ _ => .pure trivial

variable {location : Option (Transfer (DeferredFunction σ ν) Location)}
  {locations : Option (Transfer (DeferredFunction σ ν) (Location × Location))}

/-- Sending one word: the register is looked up, then the operation is called or the word is
stored. -/
theorem sendOneWord_proceeds (proceeds : perform.Proceeds) (source : RegisterNumber)
    (engaged : Engaged world worker waiting configuration)
    (own : ∀ callback, location.bind Transfer.callback? = some callback →
      AnsweredLast world configuration callback) :
    (sendOneWord perform worker source location).Proceeds waiting world fun _ _ => True := by
  rcases location with _ | _ | callback | location
  · exact .pure trivial
  · exact .pure trivial
  · apply (readRegister_looks source world engaged).bind
    intro word middle _ same
    subst same
    exact (callback_proceeds proceeds engaged (own callback rfl) word 0).bind
      fun _ _ _ _ => .pure trivial
  · exact (readRegister_looks source).advances.bind (fun word =>
      (storeWord_advances location word).bind fun _ => .pure true) world engaged

/-- Getting one word: the operation is called or the word is loaded, then the register is
written. -/
theorem getOneWord_proceeds (proceeds : perform.Proceeds) (target : RegisterNumber)
    (engaged : Engaged world worker waiting configuration)
    (own : ∀ callback, location.bind Transfer.callback? = some callback →
      AnsweredLast world configuration callback) :
    (getOneWord perform worker target location).Proceeds waiting world fun _ _ => True := by
  rcases location with _ | _ | callback | location
  · exact .pure trivial
  · exact .pure trivial
  · apply (callback_proceeds proceeds engaged (own callback rfl) 0 0).bind
    intro value middle reaches _
    exact (writeRegister_advances target _).bind (fun _ => .pure true) middle
      (engaged.later reaches)
  · exact (loadWord_looks location).advances.bind (fun word =>
      (writeRegister_advances target word).bind fun _ => .pure true) world engaged

/-- Sending two words by direct access stores the first one before the second register is looked up.
No operation is called then, so nothing is lost by it. -/
theorem sendTwoWords_proceeds (proceeds : perform.Proceeds) (lowSource highSource : RegisterNumber)
    (engaged : Engaged world worker waiting configuration)
    (own : ∀ callback, locations.bind Transfer.callback? = some callback →
      AnsweredLast world configuration callback) :
    (sendTwoWords perform worker lowSource highSource locations).Proceeds waiting world
      fun _ _ => True := by
  rcases locations with _ | _ | callback | ⟨low, high⟩
  · exact .pure trivial
  · exact .pure trivial
  · apply (readRegister_looks lowSource world engaged).bind
    intro lowWord middle _ same
    subst same
    apply (readRegister_looks highSource middle engaged).bind
    intro highWord last _ same
    subst same
    exact (callback_proceeds proceeds engaged (own callback rfl) lowWord highWord).bind
      fun _ _ _ _ => .pure trivial
  · have storing (source : RegisterNumber) (location : Location) :
        Advances worker waiting configuration
          (readRegister worker source >>= Exec.storeWord (σ := σ) (ν := ν) location) :=
      (readRegister_looks source).advances.bind fun word => storeWord_advances location word
    have both := (storing lowSource low).bind fun _ =>
      (storing highSource high).bind fun _ => .pure true
    simp only [bind_assoc] at both
    exact both world engaged

/-- Getting two words writes the registers after the operation was called, or in between by direct
access. -/
theorem getTwoWords_proceeds (proceeds : perform.Proceeds) (lowTarget highTarget : RegisterNumber)
    (engaged : Engaged world worker waiting configuration)
    (own : ∀ callback, locations.bind Transfer.callback? = some callback →
      AnsweredLast world configuration callback) :
    (getTwoWords perform worker lowTarget highTarget locations).Proceeds waiting world
      fun _ _ => True := by
  rcases locations with _ | _ | callback | ⟨low, high⟩
  · exact .pure trivial
  · exact .pure trivial
  · apply (callback_proceeds proceeds engaged (own callback rfl) 0 0).bind
    intro value middle reaches _
    exact (writeRegister_advances lowTarget _).bind (fun _ =>
      (writeRegister_advances highTarget _).bind fun _ => .pure true) middle
      (engaged.later reaches)
  · have loading (location : Location) (target : RegisterNumber) :
        Advances worker waiting configuration
          (Exec.loadWord (σ := σ) (ν := ν) location >>= writeRegister worker target) :=
      (loadWord_looks location).advances.bind fun word => writeRegister_advances target word
    have both := (loading low lowTarget).bind fun _ =>
      (loading high highTarget).bind fun _ => .pure true
    simp only [bind_assoc] at both
    exact both world engaged

/-- So each instruction for a coprocessor compiles and then uses what it was answered, with nothing
told in between. -/
theorem coprocessor_advances (proceeds : perform.Proceeds) (slot : Fin 16)
    (instruction : CoprocessorInstruction) :
    Advances worker waiting configuration (coprocessor perform worker slot instruction) := by
  intro world engaged
  cases instruction with
  | internalOperation two opc1 crd crn crm opc2 =>
    apply (withCoprocessor_proceeds engaged fun bridge middle engaged employed =>
      bridge.consult_operation proceeds engaged.toBusy employed _ _).bind
    intro compiled after reaches own
    exact runOperation_proceeds proceeds (engaged.later reaches) own (fun _ _ => .pure rfl)
      fun _ _ => .pure rfl
  | loadWords two long crd option base | storeWords two long crd option base =>
    apply (withCoprocessor_proceeds engaged fun bridge middle engaged employed =>
      bridge.consult_operation proceeds engaged.toBusy employed _ _).bind
    intro compiled after reaches own
    exact runOperation_proceeds proceeds (engaged.later reaches) own (readRegister_looks base)
      fun _ _ => .pure rfl
  | sendOneWord two opc1 crn crm opc2 source =>
    apply (withCoprocessor_proceeds engaged fun bridge middle engaged employed =>
      bridge.consult_transfer proceeds engaged.toBusy employed _ _ _).bind
    intro compiled after reaches own
    exact sendOneWord_proceeds proceeds source (engaged.later reaches) own
  | getOneWord two opc1 crn crm opc2 target =>
    apply (withCoprocessor_proceeds engaged fun bridge middle engaged employed =>
      bridge.consult_transfer proceeds engaged.toBusy employed _ _ _).bind
    intro compiled after reaches own
    exact getOneWord_proceeds proceeds target (engaged.later reaches) own
  | sendTwoWords two opc crm lowSource highSource =>
    apply (withCoprocessor_proceeds engaged fun bridge middle engaged employed =>
      bridge.consult_transfer proceeds engaged.toBusy employed _ _ _).bind
    intro compiled after reaches own
    exact sendTwoWords_proceeds proceeds lowSource highSource (engaged.later reaches) own
  | getTwoWords two opc crm lowTarget highTarget =>
    apply (withCoprocessor_proceeds engaged fun bridge middle engaged employed =>
      bridge.consult_transfer proceeds engaged.toBusy employed _ _ _).bind
    intro compiled after reaches own
    exact getTwoWords_proceeds proceeds lowTarget highTarget (engaged.later reaches) own

/-! ### Steps and turns -/

theorem raise_advances (proceeds : perform.Proceeds) (address : UInt32) :
    Advances worker waiting configuration (raise perform worker address) :=
  (ask_advances proceeds _).bind fun _ => .pure false

/-- Each instruction is a few computations of the engine in sequence. -/
theorem execute_advances (proceeds : perform.Proceeds) (address : UInt32)
    (instruction : Instruction) :
    Advances worker waiting configuration (execute perform worker address instruction) := by
  cases instruction with
  | idle | branch => exact (writeRegister_advances pc _).bind fun _ => .pure true
  | supervisorCall number =>
    exact (writeRegister_advances pc _).bind fun _ =>
      (ask_advances proceeds _).bind fun _ => .pure true
  | coprocessor slot instruction =>
    apply (coprocessor_advances proceeds slot instruction).bind
    intro implemented
    cases implemented with
    | true => exact (writeRegister_advances pc _).bind fun _ => .pure true
    | false => exact raise_advances proceeds address
  | undefined => exact raise_advances proceeds address

/-- A step reads the program counter, fetches, tells of the word and executes it. -/
theorem step_advances (proceeds : perform.Proceeds) :
    Advances worker waiting configuration (step perform worker) := by
  apply (readRegister_looks pc).advances.bind
  intro address
  apply (fetch_advances proceeds address).bind
  intro word
  refine .bind (fun world engaged => ?_) fun _ => execute_advances proceeds address _
  have admissible : Admissible world (.fetched worker address word) :=
    engaged.toBusy.atWork.innermost
  exact .reaches rfl (.record admissible) trivial

/-- Taking a request to halt is a change that an engine may make of itself. -/
theorem takeHalt_advances :
    Advances (σ := σ) (ν := ν) worker waiting configuration (takeHalt worker) := by
  intro world engaged
  apply (Exec.engine_proceeds engaged.toBusy).bind
  intro engine after _ same
  obtain ⟨rfl, -⟩ := same
  have taken := Exec.modifyEngine_proceeds (fun engine => { engine with haltRequested := false })
    engaged.toBusy fun _ => ⟨rfl, .inl rfl⟩
  exact taken.bind fun _ _ _ _ => .pure trivial

/-- A turn asks for ticks, takes a step and accounts for it. -/
theorem turn_advances (proceeds : perform.Proceeds) :
    Advances worker waiting configuration (turn perform worker) := by
  apply takeHalt_advances.bind
  intro halted
  split
  · exact .pure false
  · apply (ask_advances proceeds .ticksRemaining).bind
    intro ticks
    split
    · exact .pure false
    · exact (step_advances proceeds).bind fun _ =>
        (ask_advances proceeds _).bind fun _ => .pure true

/-- By induction on the turns. -/
theorem run_advances (proceeds : perform.Proceeds) (turns : Nat) :
    Advances worker waiting configuration (run perform worker turns) := by
  induction turns with
  | zero => exact fun _ _ => .throw nofun
  | succ turns ih =>
    apply (turn_advances proceeds).bind
    intro continues
    cases continues with
    | true => exact ih
    | false => exact .pure ()

end Stepping

end RecompilerAdapter
