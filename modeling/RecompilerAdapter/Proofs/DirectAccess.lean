/-
Module: RecompilerAdapter.Proofs.DirectAccess
Purpose: Direct access agrees with deferred operations. In two worlds that differ only in how coprocessors
  let engines reach their words, everything ends alike: engines take the same steps, hosts get the same
  requests and replies, and registers and words are the same throughout.
Trusted boundary: none
Main exports: Performer.Agrees, ReplacedCompiled, AgreesThroughout, Stepping.useCompiled_agree,
  Wrapper.Replaces.observation
-/
import RecompilerAdapter.Proofs.EncodedSteps
import RecompilerAdapter.Proofs.MirroredEngines
import RecompilerAdapter.Proofs.Performance
import RecompilerAdapter.Proofs.ReplacedAnswers

namespace RecompilerAdapter

variable {σ ν α β : Type} {perform : Performer σ ν}

/-! ### Callers -/

/-- Whatever is done in one world agrees with what is done in the other. -/
def Performer.Agrees (perform : Performer σ ν) : Prop :=
  ∀ surface handle action, Exec.Agree (· = ·) (perform surface handle action)
    (perform surface handle action)

/-- Two bodies that do the same, and whose answers agree, end alike. The induction follows the way
in which the bodies are alike; actions are left to the performer. -/
theorem Activity.exec_agree (agrees : perform.Agrees) {agree : α → β → Prop}
    {body : Activity σ ν α} {other : Activity σ ν β} (alike : body.Alike agree other) :
    Exec.Agree agree (body.exec perform) (other.exec perform) := by
  induction alike with
  | finish answers => exact .pure answers
  | access rest ih => exact (Exec.Agree.accessShared _).bind_same ih
  | record rest ih => exact (Exec.Agree.emit _).bind_same fun _ => ih
  | perform rest ih => exact (agrees _ _ _).bind_same ih

/-- In particular one and the same body, which is what host entries and deferred operations are on
both sides. -/
theorem Activity.exec_agree_self (agrees : perform.Agrees) (body : Activity σ ν α) :
    Exec.Agree (· = ·) (body.exec perform) (body.exec perform) :=
  body.exec_agree agrees (.refl (fun _ => rfl) body)

/-- Hosts are the same on both sides, so a request and its answer are. -/
theorem CallbackBridge.forward_agree (agrees : perform.Agrees) (bridge : CallbackBridge σ ν)
    (request : HostRequest) :
    Exec.Agree (· = ·) (bridge.forward perform request) (bridge.forward perform request) := by
  apply (Exec.Agree.emit _).bind_same
  intro _
  cases bridge.table.entry? request with
  | none => cases request <;> exact .pure rfl
  | some entry =>
    apply (Exec.Agree.boundHandle _).bind_same
    intro bound
    apply (Exec.Agree.emit _).bind_same
    intro _
    apply (Activity.exec_agree_self agrees (entry bound)).bind_same
    intro answer
    exact (Exec.Agree.emit _).bind_same fun _ => .pure rfl

/-- A deferred operation that both engines call does the same for both. -/
theorem Callback.run_agree (agrees : perform.Agrees) (callback : Callback (DeferredFunction σ ν))
    (first second : UInt32) :
    Exec.Agree (· = ·) (callback.run perform first second) (callback.run perform first second) := by
  apply (Exec.Agree.emit _).bind_same
  intro _
  exact Activity.exec_agree_self agrees _

/-! ### Compile answers -/

/-- A compile answer as an engine receives it, and the one that replaces it. Both are bound to the
same handle, since they are received through the same slot. -/
inductive ReplacedCompiled (request : CompileRequest) :
    Compiled (DeferredFunction σ ν) → Compiled (DeferredFunction σ ν) → Prop where
  | decode {answer other : WireCompiled (DeferredFunction σ ν)} (handle : Handle)
      (replaced : ReplacedAnswer request answer other) :
      ReplacedCompiled request (answer.decode handle) (other.decode handle)

/-- Only here the two sides differ: one answer grants direct access where the other one holds an
operation that does the same. What is told of the answers differs accordingly, and is not looked
at. -/
theorem CoprocessorBridge.compile_agree (agrees : perform.Agrees)
    {first second : CoprocessorBridge σ ν} (replaces : first.Replaces second)
    (request : CompileRequest) :
    Exec.Agree (ReplacedCompiled request) (first.compile perform request)
      (second.compile perform request) := by
  rw [compile_eq, compile_eq, consult, consult, replaces.slot, replaces.index, replaces.context]
  apply (Exec.Agree.emit _).bind_same
  intro _
  apply (Activity.exec_agree agrees (replaces.answers request)).bind
  intro answer other replaced
  have reported : Exec.Agree (σ := σ) (· = ·)
      (Exec.emit (ν := ν)
        (.compiled second.slot second.index second.table.context request answer.report))
      (Exec.emit (.compiled second.slot second.index second.table.context request other.report)) :=
    Exec.Corresponds.emit fun _ _ related => related.record_of_visible rfl
  apply reported.bind_same
  intro _
  apply (Exec.Agree.boundHandle _).bind_same
  intro bound
  exact .pure (.decode bound replaced)

namespace Stepping

/-! ### Registers -/

/-- Replaced engines have the same registers. -/
theorem readRegister_agree (handle : Handle) (number : RegisterNumber) :
    Exec.Agree (· = ·) (readRegister handle number : Exec σ ν UInt32) (readRegister handle number) := by
  apply (Exec.Agree.engine handle).bind
  intro engine other alike
  rw [← alike.equipped]
  exact .pure rfl

/-- Writing a register does not depend on what engines are equipped with. -/
theorem uniform_withRegister (number : RegisterNumber) (value : UInt32) :
    Engine.Uniform (σ := σ) (ν := ν) (·.withRegister number value) :=
  ⟨fun _ _ => rfl, fun _ => rfl, fun _ => rfl⟩

/-- So engines that differ in their coprocessors keep the same registers. -/
theorem writeRegister_agree (handle : Handle) (number : RegisterNumber) (value : UInt32) :
    Exec.Agree (· = ·) (writeRegister handle number value : Exec σ ν Unit)
      (writeRegister handle number value) :=
  Exec.Agree.modifyEngine handle (uniform_withRegister number value)

/-! ### The same answer -/

/-- Where both answers are the same, they are used in the same way, by the general rules for two
engines. -/
theorem usesAlike (agrees : perform.Agrees) (handle : Handle) :
    UsesAlike World.Replaces World.Replaces World.Replaces perform perform handle handle (· = ·)
      fun _ => True where
  weaken _ _ := id
  run callback other alike first second := by
    subst alike
    exact callback.run_agree agrees first second
  read := readRegister_agree handle
  write := writeRegister_agree handle
  load location _ := Exec.Agree.loadWord location
  store location _ := Exec.Agree.storeWord location

/-! ### An answer that replaces another one -/

/-- A word survives being widened to what an operation returns. -/
theorem toUInt32_toUInt64 (word : UInt32) : word.toUInt64.toUInt32 = word := by
  simp

/-- The low word of what an operation returns for two words. -/
theorem toUInt32_words (low high : UInt32) :
    (low.toUInt64 + 4294967296 * high.toUInt64).toUInt32 = low := by
  have bound := low.toNat_lt
  rw [← UInt32.toNat_inj]
  simp only [UInt64.toNat_toUInt32, UInt64.toNat_add, UInt64.toNat_mul, UInt32.toNat_toUInt64,
    UInt64.reduceToNat]
  omega

/-- The high word is in the upper half. -/
theorem toUInt32_words_shiftRight (low high : UInt32) :
    ((low.toUInt64 + 4294967296 * high.toUInt64) >>> 32).toUInt32 = high := by
  have bound := low.toNat_lt
  have boundHigh := high.toNat_lt
  rw [← UInt32.toNat_inj]
  simp only [UInt64.toNat_toUInt32, UInt64.toNat_shiftRight, UInt64.toNat_add, UInt64.toNat_mul,
    UInt32.toNat_toUInt64, UInt64.reduceToNat, Nat.shiftRight_eq_div_pow, Nat.reduceMod, Nat.reducePow]
  omega

/-- Both words may be read before the first one is stored. The order does not matter, since storing
changes no register. -/
theorem sendTwoWords_access (handle : Handle) (lowSource highSource : RegisterNumber)
    (low high : Location) :
    sendTwoWords perform handle lowSource highSource (some (.access (low, high))) = (do
      let lowWord ← readRegister handle lowSource
      let highWord ← readRegister handle highSource
      Exec.storeWord low lowWord
      Exec.storeWord high highWord
      return true) := by
  funext world
  cases present : world.wrappers.get? handle with
  | none =>
    have stops : readRegister handle lowSource world = .error (.danglingHandle handle) world := by
      rw [readRegister, Exec.bind_of_error (Exec.engine_of_absent present)]
    rw [sendTwoWords, Exec.bind_of_error stops, Exec.bind_of_error stops]
  | some wrapper =>
    have reads := readRegister_of_present present lowSource
    have readsHigh := readRegister_of_present present highSource
    obtain ⟨after, stored, kept⟩ : ∃ after, Exec.storeWord low wrapper.engine.registers[lowSource]
        world = .ok () after ∧ after.wrappers.get? handle = some wrapper :=
      ⟨{ world with shared := { world.shared with
        words := world.shared.words.store low wrapper.engine.registers[lowSource] } }, rfl, present⟩
    rw [sendTwoWords, Exec.bind_of_ok reads, Exec.bind_of_ok reads, Exec.bind_of_ok readsHigh,
      Exec.bind_of_ok stored, Exec.bind_of_ok stored]
    exact Exec.bind_of_ok (readRegister_of_present kept highSource)

/-- Both words may be loaded before the first one is written. -/
theorem getTwoWords_access (handle : Handle) (lowTarget highTarget : RegisterNumber)
    (low high : Location) :
    getTwoWords perform handle lowTarget highTarget (some (.access (low, high))) = (do
      let lowWord ← Exec.loadWord low
      let highWord ← Exec.loadWord high
      writeRegister handle lowTarget lowWord
      writeRegister handle highTarget highWord
      return true) := by
  funext world
  have loaded : Exec.loadWord low world = .ok (world.shared.words.load low) world := rfl
  have loadedHigh : Exec.loadWord high world = .ok (world.shared.words.load high) world := rfl
  rw [getTwoWords, Exec.bind_of_ok loaded, Exec.bind_of_ok loaded, Exec.bind_of_ok loadedHigh,
    writeRegister, writeRegister]
  cases present : world.wrappers.get? handle with
  | none =>
    have stops := Exec.modifyEngine_of_absent present
      (·.withRegister lowTarget (world.shared.words.load low))
    rw [Exec.bind_of_error stops, Exec.bind_of_error stops]
  | some wrapper =>
    have writes := Exec.modifyEngine_of_present present
      (·.withRegister lowTarget (world.shared.words.load low))
    rw [Exec.bind_of_ok writes, Exec.bind_of_ok writes]
    rfl

section

variable {raw : RawCallback (DeferredFunction σ ν)} {bound : Handle} {location low high : Location}

/-- An operation that loads the granted word returns just that word. -/
theorem load_agree (loads : (raw.function bound raw.userArgument 0 0).LoadsWord location) :
    Exec.Agree (fun word value => word = value.toUInt32) (Exec.loadWord location)
      ((raw.bind bound).run perform 0 0) := by
  intro first second replaces
  have completes : (raw.bind bound).run perform 0 0 second =
      .ok (second.shared.words.load location).toUInt64
        (second.record (.invoked bound raw.userArgument 0 0)) := loads perform _
  rw [completes]
  refine ⟨?_, replaces.record_invoked _ _ _ _⟩
  rw [replaces.shared]
  exact (toUInt32_toUInt64 _).symm

/-- An operation that loads two words returns them in one value, the low one first. -/
theorem loads_agree (loads : (raw.function bound raw.userArgument 0 0).LoadsWords low high) :
    Exec.Agree (fun (words : UInt32 × UInt32) (value : UInt64) =>
        words = (value.toUInt32, (value >>> 32).toUInt32))
      (do return (← Exec.loadWord low, ← Exec.loadWord high))
      ((raw.bind bound).run perform 0 0) := by
  intro first second replaces
  have completes : (raw.bind bound).run perform 0 0 second =
      .ok ((second.shared.words.load low).toUInt64 +
          4294967296 * (second.shared.words.load high).toUInt64)
        (second.record (.invoked bound raw.userArgument 0 0)) := loads perform _
  rw [completes]
  refine ⟨?_, replaces.record_invoked _ _ _ _⟩
  show (first.shared.words.load low, first.shared.words.load high) = _
  rw [toUInt32_words, toUInt32_words_shiftRight, replaces.shared]

/-- An operation that stores its operand in the granted word leaves the same words behind as direct
access does. -/
theorem store_agree {word : UInt32}
    (stores : (raw.function bound raw.userArgument word 0).StoresWord location word) :
    Exec.Agree (fun _ _ => True) (Exec.storeWord location word)
      ((raw.bind bound).run perform word 0) := by
  intro first second replaces
  obtain ⟨value, completes⟩ := stores perform (second.record (.invoked bound raw.userArgument word 0))
  have ran : (raw.bind bound).run perform word 0 second = _ := completes
  rw [ran]
  exact ⟨trivial, (replaces.record_invoked bound raw.userArgument word 0).change fun shared =>
    { shared with words := shared.words.store location word }⟩

/-- An operation that stores two operands does so in the order in which direct access does. This
matters where both locations are the same. -/
theorem stores_agree {lowWord highWord : UInt32}
    (stores : (raw.function bound raw.userArgument lowWord highWord).StoresWords low high lowWord
      highWord) :
    Exec.Agree (fun _ _ => True)
      (do
        Exec.storeWord low lowWord
        Exec.storeWord high highWord)
      ((raw.bind bound).run perform lowWord highWord) := by
  intro first second replaces
  obtain ⟨value, completes⟩ := stores perform
    (second.record (.invoked bound raw.userArgument lowWord highWord))
  have ran : (raw.bind bound).run perform lowWord highWord second = _ := completes
  rw [ran]
  exact ⟨trivial, (replaces.record_invoked bound raw.userArgument lowWord highWord).change
    fun shared => { shared with words := (shared.words.store low lowWord).store high highWord }⟩

variable (handle : Handle)

/-- A word that an operation returns gets into the register that a granted word would get into. -/
theorem getOneWord_replaced (target : RegisterNumber)
    (loads : (raw.function bound raw.userArgument 0 0).LoadsWord location) :
    Exec.Agree (· = ·) (getOneWord perform handle target (some (.access location)))
      (getOneWord perform handle target (some (.callback (raw.bind bound)))) := by
  apply (load_agree loads).bind
  rintro _ value rfl
  exact (writeRegister_agree handle target _).bind_same fun _ => .pure rfl

/-- A word that is handed to an operation gets where it would be stored. -/
theorem sendOneWord_replaced (source : RegisterNumber)
    (stores : ∀ word, (raw.function bound raw.userArgument word 0).StoresWord location word) :
    Exec.Agree (· = ·) (sendOneWord perform handle source (some (.access location)))
      (sendOneWord perform handle source (some (.callback (raw.bind bound)))) := by
  apply (readRegister_agree handle source).bind_same
  intro word
  exact (store_agree (stores word)).bind fun _ _ _ => .pure rfl

/-- Both words are loaded before either register is written. Direct access writes the first register
in between, which is the same since registers and the caller's words are apart. -/
theorem getTwoWords_replaced (lowTarget highTarget : RegisterNumber)
    (loads : (raw.function bound raw.userArgument 0 0).LoadsWords low high) :
    Exec.Agree (· = ·) (getTwoWords perform handle lowTarget highTarget (some (.access (low, high))))
      (getTwoWords perform handle lowTarget highTarget (some (.callback (raw.bind bound)))) := by
  have paired : getTwoWords perform handle lowTarget highTarget (some (.access (low, high))) = (do
      let words ← (do return (← Exec.loadWord low, ← Exec.loadWord high))
      writeRegister handle lowTarget words.1
      writeRegister handle highTarget words.2
      return true) := by
    simp only [getTwoWords_access, bind_assoc, pure_bind]
  rw [paired]
  apply (loads_agree loads).bind
  rintro _ value rfl
  apply (writeRegister_agree handle lowTarget _).bind_same
  intro _
  exact (writeRegister_agree handle highTarget _).bind_same fun _ => .pure rfl

/-- Both registers are read before either word is stored. Direct access stores the first word in
between, for the same reason. -/
theorem sendTwoWords_replaced (lowSource highSource : RegisterNumber)
    (stores : ∀ lowWord highWord, (raw.function bound raw.userArgument lowWord highWord).StoresWords
      low high lowWord highWord) :
    Exec.Agree (· = ·)
      (sendTwoWords perform handle lowSource highSource (some (.access (low, high))))
      (sendTwoWords perform handle lowSource highSource (some (.callback (raw.bind bound)))) := by
  have paired : sendTwoWords perform handle lowSource highSource (some (.access (low, high))) = (do
      let lowWord ← readRegister handle lowSource
      let highWord ← readRegister handle highSource
      (do
        Exec.storeWord low lowWord
        Exec.storeWord high highWord)
      return true) := by
    simp only [sendTwoWords_access, bind_assoc]
  rw [paired]
  apply (readRegister_agree handle lowSource).bind_same
  intro lowWord
  apply (readRegister_agree handle highSource).bind_same
  intro highWord
  exact (stores_agree (stores lowWord highWord)).bind fun _ _ _ => .pure rfl

end

/-- What an engine does with an answer agrees with what it does with the one that replaces it. -/
theorem useCompiled_agree (agrees : perform.Agrees) (handle : Handle)
    (instruction : CoprocessorInstruction) {compiled other : Compiled (DeferredFunction σ ν)}
    (replaced : ReplacedCompiled instruction.request compiled other) :
    Exec.Agree (· = ·) (useCompiled perform handle instruction (some compiled))
      (useCompiled perform handle instruction (some other)) := by
  obtain ⟨bound, replaced⟩ := replaced
  generalize asked : instruction.request = request at replaced
  cases replaced with
  | same answer => exact (usesAlike agrees handle).useCompiled instruction (.same _) (.any _)
  | getOneWord loads =>
    cases instruction <;> cases asked
    exact getOneWord_replaced handle _ (loads bound)
  | sendOneWord stores =>
    cases instruction <;> cases asked
    exact sendOneWord_replaced handle _ (stores bound)
  | getTwoWords loads =>
    cases instruction <;> cases asked
    exact getTwoWords_replaced handle _ _ (loads bound)
  | sendTwoWords stores =>
    cases instruction <;> cases asked
    exact sendTwoWords_replaced handle _ _ (stores bound)

/-! ### Engines -/

/-- So the two engines execute every instruction alike. They find the same words in the same pages,
as only their coprocessors differ. -/
theorem mirrors (agrees : perform.Agrees) (handle : Handle) :
    Mirrors World.Replaces (fun _ => World.Replaces) perform perform handle handle Engine.Replaces
      ReplacedCompiled where
  stops _ _ _ replaces := replaces
  engine _ := Exec.Agree.engine handle
  registers engine other alike := by
    rw [← alike.equipped]
    rfl
  lent engine other alike := by
    rw [← alike.equipped]
    rfl
  paged _ world other replaces engine copy alike address := by
    rw [pagedWord, pagedWord, ← alike.equipped, replaces.shared]
    rfl
  lend _ change := Exec.Agree.modifyEngine handle (Engine.uniform_setLentParts change)
  advance _ next _ := writeRegister_agree handle pc next
  forward _ engine other alike request _ := by
    rw [← alike.equipped]
    exact CallbackBridge.forward_agree agrees engine.configuration.callbacks request
  compile _ engine other alike slot request := by
    -- Here the replaced answers come in. Everywhere else the two engines have the same parts.
    have bridges := alike.coprocessors slot
    generalize engine.configuration.coprocessors[slot] = populated at bridges ⊢
    generalize other.configuration.coprocessors[slot] = copied at bridges ⊢
    cases bridges with
    | none => exact .none
    | some replaces => exact .some (CoprocessorBridge.compile_agree agrees replaces request)
  complete _ instruction compiled other replaced next _ :=
    completing_alike (useCompiled_agree agrees handle instruction replaced)
      (writeRegister_agree handle pc next)

/-- A step of the one is a step of the other. -/
theorem step_agree (agrees : perform.Agrees) (handle : Handle) :
    Exec.Agree (· = ·) (step perform handle) (step perform handle) :=
  (mirrors agrees handle).step [] (mirrors agrees handle) fun _ _ => Exec.Agree.emit _

/-- The host is asked the same, and answers the same. -/
theorem ask_agree (agrees : perform.Agrees) (handle : Handle) (request : HostRequest) :
    Exec.Agree (· = ·) (ask perform handle request) (ask perform handle request) := by
  apply (mirrors agrees handle).lending []
  apply (Exec.Agree.engine handle).bind
  intro engine other alike
  rw [← alike.equipped]
  exact CallbackBridge.forward_agree agrees engine.configuration.callbacks request

/-- A request to halt is pending on both sides or on none. -/
theorem takeHalt_agree (handle : Handle) :
    Exec.Agree (· = ·) (takeHalt handle : Exec σ ν Bool) (takeHalt handle) := by
  apply (Exec.Agree.engine handle).bind
  intro engine other alike
  have taken : Engine.Uniform (σ := σ) (ν := ν)
      fun engine => { engine with haltRequested := false } :=
    ⟨fun _ _ => rfl, fun _ => rfl, fun _ => rfl⟩
  apply (Exec.Agree.modifyEngine handle taken).bind_same
  intro _
  rw [← alike.equipped]
  exact .pure rfl

/-- A turn of the run loop goes the same way on both sides. -/
theorem turn_agree (agrees : perform.Agrees) (handle : Handle) :
    Exec.Agree (· = ·) (turn perform handle) (turn perform handle) := by
  apply (takeHalt_agree handle).bind_same
  intro halted
  split
  · exact .pure rfl
  · apply (ask_agree agrees handle .ticksRemaining).bind_same
    intro remaining
    split
    · exact .pure rfl
    · apply (step_agree agrees handle).bind_same
      intro _
      exact (ask_agree agrees handle (.addTicks 1)).bind_same fun _ => .pure rfl

/-- By induction on the turns, a whole run does. -/
theorem run_agree (agrees : perform.Agrees) (handle : Handle) (bound : Nat) :
    Exec.Agree (· = ·) (run perform handle bound) (run perform handle bound) := by
  induction bound with
  | zero => exact Exec.Agree.stop
  | succ bound ih =>
    apply (turn_agree agrees handle).bind_same
    intro goesOn
    cases goesOn
    · exact .pure rfl
    · exact ih

/-- A number of steps, whatever their outcomes. A run loop takes no step after one that was
reported, but nothing forbids to go on. -/
def steps (perform : Performer σ ν) (handle : Handle) : (count : Nat) → Exec σ ν Unit
  | 0 => return ()
  | count + 1 => do
    let _ ← step perform handle
    steps perform handle count

/-- Any number of steps, taken without a run loop, end alike, so agreement does not wait for the end
of a run. -/
theorem steps_agree (agrees : perform.Agrees) (handle : Handle) (count : Nat) :
    Exec.Agree (· = ·) (steps perform handle count) (steps perform handle count) := by
  induction count with
  | zero => exact .pure rfl
  | succ count ih => exact (step_agree agrees handle).bind_same fun _ => ih

/-- A number of turns of the run loop, or less if the run is over before. -/
def turns (perform : Performer σ ν) (handle : Handle) : (count : Nat) → Exec σ ν Unit
  | 0 => return ()
  | count + 1 => do
    if ← turn perform handle then
      turns perform handle count

/-- The same for any number of turns. -/
theorem turns_agree (agrees : perform.Agrees) (handle : Handle) (count : Nat) :
    Exec.Agree (· = ·) (turns perform handle count) (turns perform handle count) := by
  induction count with
  | zero => exact .pure rfl
  | succ count ih =>
    apply (turn_agree agrees handle).bind_same
    intro goesOn
    cases goesOn
    · exact .pure rfl
    · exact ih

end Stepping

/-! ### Runs and other actions -/

namespace Wrapper

/-- Of two engines that are replaced by each other, both are stepping ones or neither is. -/
theorem runEngine_agree (agrees : perform.Agrees) (handle : Handle) (turns : Nat) :
    Exec.Agree (· = ·) (runEngine perform turns handle) (runEngine perform turns handle) := by
  apply (Exec.Agree.engine handle).bind
  intro engine other alike
  rw [← alike.equipped]
  have stepping := alike.stepping
  cases isMode : engine.mode with
  | stepping lent =>
    have same : (engine.equip other.configuration.coprocessors).mode = .stepping lent := isMode
    rw [same]
    exact Stepping.run_agree agrees handle turns
  | scripted last =>
    rw [isMode] at stepping
    cases stepping

/-- The state of both wrappers is changed in the same way. -/
theorem setState_agree (handle : Handle) (state : RunState) :
    Exec.Agree (· = ·) (Exec.setState handle state : Exec σ ν Unit) (Exec.setState handle state) := by
  apply Exec.Agree.modifyWrapper handle
  intro wrapper other alike
  exact { alike with state := rfl }

/-- A run is accepted or rejected on both sides, since the states are the same. -/
theorem run_agree (agrees : perform.Agrees) (handle : Handle) (turns : Nat) :
    Exec.Agree (· = ·) (run perform turns handle) (run perform turns handle) := by
  apply (Exec.Agree.wrapper handle).bind
  intro wrapper other alike
  rw [alike.state, alike.userData]
  split
  · exact .pure rfl
  · apply (setState_agree handle .running).bind_same
    intro _
    apply (Exec.Agree.emit _).bind_same
    intro _
    apply (Exec.Agree.emit _).bind_same
    intro _
    apply (runEngine_agree agrees handle turns).bind_same
    intro _
    apply (setState_agree handle .halted).bind_same
    intro _
    apply (Exec.Agree.emit _).bind_same
    intro _
    exact (Exec.Agree.emit _).bind_same fun _ => .pure rfl

/-- A script is handed over on both sides. -/
theorem schedule_agree (script : Option (List EngineOperation)) :
    Exec.Agree (· = ·) (schedule script : Exec σ ν Unit) (schedule script) := by
  cases script with
  | none => exact .pure rfl
  | some operations => exact fun _ _ replaces => ⟨rfl, replaces.withScript operations⟩

/-- A look at a wrapper does not tell its coprocessors. -/
theorem Replaces.observation {first second : Wrapper σ ν} (replaces : first.Replaces second)
    {action : Action} {view : Wrapper σ ν → Reply} (observes : action.observation? = some view) :
    view first = view second := by
  rcases first with ⟨data, state, engine⟩
  rcases second with ⟨_, _, other⟩
  obtain ⟨rfl, rfl, engines⟩ := replaces
  have equipped : engine.equip other.configuration.coprocessors = other := engines.equipped
  rw [← equipped]
  cases action <;> simp only [Action.observation?, reduceCtorEq, Option.some.injEq] at observes <;>
    subst observes <;> rfl

/-- What can be seen of a wrapper does not tell its coprocessors apart. -/
theorem observe_agree {surface : Surface} {action : Action} {view : Wrapper σ ν → Reply}
    {turns : Nat} (observes : action.observation? = some view) (handle : Handle) :
    Exec.Agree (· = ·) (performWith perform turns surface handle action)
      (performWith perform turns surface handle action) := by
  rw [performWith_observation observes]
  apply (Exec.Agree.wrapper handle).bind
  intro wrapper other alike
  exact .pure (alike.observation observes)

/-- What an action changes of an engine does not depend on its coprocessors. -/
theorem adjust_agree {surface : Surface} {action : Action} {update : Engine σ ν → Engine σ ν}
    {turns : Nat} (adjusts : action.adjustment? = some update) (handle : Handle) :
    Exec.Agree (· = ·) (performWith perform turns surface handle action)
      (performWith perform turns surface handle action) := by
  rw [performWith_adjustment adjusts]
  exact (Exec.Agree.modifyEngine handle (Action.uniform_adjustment adjusts)).bind_same
    fun _ => .pure rfl

/-- Every action ends alike, if the actions inside it do. -/
theorem performWith_agree (agrees : perform.Agrees) (turns : Nat) :
    (performWith perform turns).Agrees := by
  intro surface handle action
  cases action using Action.byKind σ ν with
  | run script =>
    apply (schedule_agree script).bind_same
    intro _
    apply (run_agree agrees handle turns).bind_same
    intro finished
    cases finished with
    | true => exact .pure rfl
    | false =>
      cases surface with
      | direct => exact .pure rfl
      | foreign => exact Exec.Agree.stop
  | adjust action update adjusts => exact adjust_agree adjusts handle
  | observe action view observes => exact observe_agree observes handle
  | arrange number => exact Exec.Agree.stop

end Wrapper

/-- What is told of an action is the same, because its reply is. -/
theorem Performer.recording_agree (agrees : perform.Agrees) : perform.recording.Agrees := by
  intro surface handle action
  apply (Exec.Agree.emit _).bind_same
  intro _
  apply (agrees surface handle action).bind_same
  intro reply
  exact (Exec.Agree.emit _).bind_same fun _ => .pure rfl

/-- By induction on the nesting of runs. -/
theorem perform_agree (bound : Nat) : (RecompilerAdapter.perform bound : Performer σ ν).Agrees := by
  induction bound with
  | zero => exact fun _ _ _ => Exec.Agree.stop
  | succ bound ih => exact Performer.recording_agree (Wrapper.performWith_agree ih bound)

/-- From two worlds that differ in their coprocessors alone, everything ends alike and leaves such
worlds behind: any number of steps of an engine, any number of turns of its run loop with their
ticks, and any action on a wrapper, runs among them. -/
structure AgreesThroughout (first second : World σ ν) : Prop where
  steps (bound : Nat) (handle : Handle) (count : Nat) :
    Exec.EndsAlike (· = ·) World.Replaces World.Replaces
      (Stepping.steps (RecompilerAdapter.perform bound) handle count first)
      (Stepping.steps (RecompilerAdapter.perform bound) handle count second)
  turns (bound : Nat) (handle : Handle) (count : Nat) :
    Exec.EndsAlike (· = ·) World.Replaces World.Replaces
      (Stepping.turns (RecompilerAdapter.perform bound) handle count first)
      (Stepping.turns (RecompilerAdapter.perform bound) handle count second)
  actions (bound : Nat) (surface : Surface) (handle : Handle) (action : Action) :
    Exec.EndsAlike (· = ·) World.Replaces World.Replaces
      (RecompilerAdapter.perform bound surface handle action first)
      (RecompilerAdapter.perform bound surface handle action second)

/-- Direct access agrees with deferred operations on the same words. It is enough to compare bodies
and answers of compile entries; all the rest follows from the mirroring of engines, by induction on
steps, turns and the nesting of runs. -/
theorem directAccess {first second : World σ ν} (replaces : first.Replaces second) :
    AgreesThroughout first second where
  steps bound handle count :=
    Stepping.steps_agree (perform_agree bound) handle count first second replaces
  turns bound handle count :=
    Stepping.turns_agree (perform_agree bound) handle count first second replaces
  actions bound surface handle action :=
    perform_agree bound surface handle action first second replaces

/-! ### A coprocessor with one word -/

namespace Stepping.Lone

/-- The word of the coprocessor. -/
def cell : Location :=
  ⟨0⟩

/-- A coprocessor that grants access to its word. -/
def granting : HostCoprocessor Unit Unit where
  getOneWord _ _ _ _ _ _ := pure (.access cell)

/-- A coprocessor that defers loads of its word. -/
def loading : HostCoprocessor Unit Unit where
  getOneWord _ _ _ _ _ _ := pure (.callback
    ⟨fun _ _ _ _ => do return ((← Activity.get).words.load cell).toUInt64, 5⟩)

/-- A coprocessor that defers the loading of a word may stand in for one that grants the word. -/
theorem bridge_replaces : (bridge granting).Replaces (bridge loading) := by
  refine ⟨rfl, rfl, rfl, fun request => ?_⟩
  cases request with
  | getOneWord two opc1 crn crm opc2 =>
    exact .finish (.getOneWord fun _ => Activity.loadsWord_get cell)
  | _ => exact .refl .same _

/-- So may a wrapper with it. -/
theorem wrapper_replaces (memory : UInt32 → UInt32) :
    (wrapper memory granting).Replaces (wrapper memory loading) := by
  refine ⟨rfl, rfl, rfl, rfl, fun slot => ?_⟩
  show Option.Rel _ (Vector.ofFn fun slot : Fin 16 => if slot.val = 3 then _ else none)[slot.val]
    (Vector.ofFn fun slot : Fin 16 => if slot.val = 3 then _ else none)[slot.val]
  rw [Vector.getElem_ofFn, Vector.getElem_ofFn]
  by_cases third : slot.val = 3
  · rw [if_pos third, if_pos third]
    exact .some bridge_replaces
  · rw [if_neg third, if_neg third]
    exact .none

/-- A program of transfers from the coprocessor, in two worlds. -/
theorem world_replaces (memory : UInt32 → UInt32) :
    (world memory granting).Replaces (world memory loading) := by
  have silent (device : HostCoprocessor Unit Unit) : (world memory device).history = [] := rfl
  refine ⟨rfl, rfl, rfl, rfl, fun handle => ?_, by rw [silent, silent]⟩
  show Option.Rel _ ((Registry.mk [(worker, wrapper memory granting)]).get? handle)
    ((Registry.mk [(worker, wrapper memory loading)]).get? handle)
  by_cases same : worker = handle
  · subst same
    exact .some (wrapper_replaces memory)
  · simp [Registry.get?, same]

end Stepping.Lone

/-- An engine loads a word from a coprocessor that grants it, and another engine from one that
defers the load. -/
theorem directAccess_load :
    let memory := fun _ => (Assembly.mrc 3 5 2 1 7 6).encode false
    (Stepping.Lone.world memory Stepping.Lone.granting).Replaces
        (Stepping.Lone.world memory Stepping.Lone.loading) ∧
      AgreesThroughout (Stepping.Lone.world memory Stepping.Lone.granting)
        (Stepping.Lone.world memory Stepping.Lone.loading) :=
  ⟨Stepping.Lone.world_replaces _, directAccess (Stepping.Lone.world_replaces _)⟩

end RecompilerAdapter
