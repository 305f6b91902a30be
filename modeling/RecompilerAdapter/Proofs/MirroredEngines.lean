/-
Module: RecompilerAdapter.Proofs.MirroredEngines
Purpose: Stepping engines side by side. Behind its handle, an engine in one world mirrors an engine in
  another world, be it behind the same handle or another one, if what it is made of does: its registers
  and pages are the same, its parts are lent out at the same times, and what its host and its coprocessors
  answer agrees. Then the two engines execute every instruction alike.
Trusted boundary: none
Main exports: Mirrors, CompiledAlike, Implements, Grants, UsesAlike, Mirrors.step
-/
import RecompilerAdapter.Proofs.CompileEntries
import RecompilerAdapter.Proofs.Correspondence

namespace RecompilerAdapter.Stepping

variable {σ ν α β : Type}

/-- The page table's word at an address, in a world. -/
def pagedWord (engine : Engine σ ν) (world : World σ ν) (address : UInt32) : Option UInt32 :=
  engine.configuration.pageTable.bind fun table => table.fetch? world.shared.own address

/-- The requests that executing an instruction makes. The other ones are about time, and the run
loop makes them between instructions. -/
inductive Guest : HostRequest → Prop where
  | fetch (address : UInt32) : Guest (.read .word address)
  | supervisorCall (number : UInt32) : Guest (.supervisorCall number)
  | exceptionRaised (address : UInt32) (condition : ExceptionKind) :
      Guest (.exceptionRaised address condition)

/-- The program counter after an instruction at an address, if it completes. -/
def destination (address : UInt32) : Instruction → UInt32
  | .branch offset => address + 8 + offset
  | _ => address + 4

/-- Moves the program counter on if an instruction was implemented. An instruction that was not is
reported where it stands. -/
def completing (handle : Handle) (next : UInt32) (compute : Exec σ ν Bool) : Exec σ ν Bool := do
  if ← compute then
    writeRegister handle pc next
    return true
  else
    return false

/-- What two engines behind their handles must have in common to execute an instruction alike, from
worlds in a relation that may depend on the parts that are lent out. Their compile answers are
related for each request, and `counters` holds of the values that the program counter may take. -/
structure ExecutesAlike (stopped : WorldRelation σ ν) (related : List EnginePart → WorldRelation σ ν)
    (perform counterpart : Performer σ ν) (handle another : Handle)
    (engines : Engine σ ν → Engine σ ν → Prop)
    (answers : CompileRequest → Compiled (DeferredFunction σ ν) →
      Compiled (DeferredFunction σ ν) → Prop) (counters : UInt32 → Prop) : Prop where
  stops : ∀ lent world other, related lent world other → stopped world other
  engine : ∀ lent, Exec.Corresponds stopped (related lent) (related lent) engines
    (Exec.engine handle) (Exec.engine another)
  registers : ∀ engine other, engines engine other → engine.registers = other.registers
  lent : ∀ engine other, engines engine other → lentParts engine = lentParts other
  lend : ∀ lent, ∀ change : List EnginePart → List EnginePart,
    Exec.Corresponds stopped (related lent) (related (change lent)) (· = ·)
      (Exec.modifyEngine handle fun engine => setLentParts (change (lentParts engine)) engine)
      (Exec.modifyEngine another fun engine => setLentParts (change (lentParts engine)) engine)
  advance : ∀ lent next, counters next →
    Exec.Corresponds stopped (related lent) (related lent) (· = ·) (writeRegister handle pc next)
      (writeRegister another pc next)
  forward : ∀ lent engine other, engines engine other → ∀ request, Guest request →
    Exec.Corresponds stopped (related lent) (related lent) (· = ·)
      (engine.configuration.callbacks.forward perform request)
      (other.configuration.callbacks.forward counterpart request)
  compile : ∀ lent engine other, engines engine other → ∀ (slot : Fin 16) request,
    Option.Rel (fun bridge copy => Exec.Corresponds stopped (related lent) (related lent)
        (answers request) (bridge.compile perform request) (copy.compile counterpart request))
      engine.configuration.coprocessors[slot] other.configuration.coprocessors[slot]
  complete : ∀ lent instruction compiled other, answers instruction.request compiled other →
    ∀ next, counters next → Exec.Corresponds stopped (related lent) (related lent) (· = ·)
      (completing handle next (useCompiled perform handle instruction (some compiled)))
      (completing another next (useCompiled counterpart another instruction (some other)))

/-- What two engines must have in common to take a step alike. Besides what executing instructions
needs, this is that they find the same words in their pages. -/
structure Mirrors (stopped : WorldRelation σ ν) (related : List EnginePart → WorldRelation σ ν)
    (perform counterpart : Performer σ ν) (handle another : Handle)
    (engines : Engine σ ν → Engine σ ν → Prop)
    (answers : CompileRequest → Compiled (DeferredFunction σ ν) →
      Compiled (DeferredFunction σ ν) → Prop) : Prop
    extends ExecutesAlike stopped related perform counterpart handle another engines answers
      fun _ => True
    where
  paged : ∀ lent world other, related lent world other → ∀ engine copy, engines engine copy →
    ∀ address, pagedWord engine world address = pagedWord copy other address

section

variable {stopped : WorldRelation σ ν} {related : List EnginePart → WorldRelation σ ν}
  {perform counterpart : Performer σ ν} {handle another : Handle}
  {engines : Engine σ ν → Engine σ ν → Prop}
  {answers : CompileRequest → Compiled (DeferredFunction σ ν) →
    Compiled (DeferredFunction σ ν) → Prop} {counters : UInt32 → Prop}

namespace ExecutesAlike

variable (mirrors : ExecutesAlike stopped related perform counterpart handle another engines answers
  counters)

include mirrors

theorem readRegister (lent : List EnginePart) (number : RegisterNumber) :
    Exec.Corresponds stopped (related lent) (related lent) (· = ·)
      (Stepping.readRegister handle number) (Stepping.readRegister another number) := by
  apply (mirrors.engine lent).bind
  intro engine other alike
  rw [mirrors.registers engine other alike]
  exact .pure rfl

/-- A part that is lent out is given back. While it is lent out, the engines are related with one
part more on both sides. -/
theorem lending {agree : α → β → Prop} {body : Exec σ ν α} {copy : Exec σ ν β}
    (lent : List EnginePart) (part : EnginePart)
    (bodies : Exec.Corresponds stopped (related (part :: lent)) (related (part :: lent)) agree body
      copy) :
    Exec.Corresponds stopped (related lent) (related lent) agree
      (Stepping.lending handle part body) (Stepping.lending another part copy) := by
  apply (mirrors.engine lent).bind
  intro engine other alike
  rw [mirrors.lent engine other alike]
  dsimp only
  have inside : Exec.Corresponds stopped (related lent) (related lent) agree
      (do
        Exec.modifyEngine handle fun engine => setLentParts (part :: lentParts engine) engine
        let result ← body
        Exec.modifyEngine handle fun engine => setLentParts ((lentParts engine).erase part) engine
        return result)
      (do
        Exec.modifyEngine another fun engine => setLentParts (part :: lentParts engine) engine
        let result ← copy
        Exec.modifyEngine another fun engine => setLentParts ((lentParts engine).erase part) engine
        return result) := by
    apply (mirrors.lend lent (part :: ·)).bind_same
    intro _
    apply bodies.bind
    intro answer reply agrees
    have returned := mirrors.lend (part :: lent) (·.erase part)
    rw [List.erase_cons_head] at returned
    apply returned.bind_same
    intro _
    exact .pure agrees
  -- Both engines have lent out the same parts, so both stop here, or neither does.
  split
  · exact .bind_same (.throw (mirrors.stops lent)) fun _ => inside
  · exact inside

/-- A request of the guest is made on both sides with the callbacks lent out. It goes through two
engines of whatever kind, as long as forwarding ends alike. -/
theorem ask (lent : List EnginePart) {request : HostRequest} (guest : Guest request) :
    Exec.Corresponds stopped (related lent) (related lent) (· = ·)
      (Stepping.ask perform handle request) (Stepping.ask counterpart another request) := by
  apply mirrors.lending
  apply (mirrors.engine _).bind
  intro engine other alike
  exact mirrors.forward _ engine other alike request guest

theorem raise (lent : List EnginePart) (address : UInt32) :
    Exec.Corresponds stopped (related lent) (related lent) (· = ·)
      (Stepping.raise perform handle address) (Stepping.raise counterpart another address) := by
  apply (mirrors.ask lent (.exceptionRaised address .undefinedInstruction)).bind_same
  intro _
  exact .pure rfl

omit mirrors in
/-- Without a coprocessor no coprocessor instruction is implemented. -/
theorem useCompiled_none (instruction : CoprocessorInstruction) :
    useCompiled perform handle instruction none = pure false := by
  cases instruction <;> rfl

/-- An instruction for a coprocessor, together with the move of the program counter that completes
it. The two belong together because what is left behind by an answer may only be related again once
the counter has moved. -/
theorem coprocessor (lent : List EnginePart) (slot : Fin 16)
    (instruction : CoprocessorInstruction) {next : UInt32} (counts : counters next) :
    Exec.Corresponds stopped (related lent) (related lent) (· = ·)
      (completing handle next (Stepping.coprocessor perform handle slot instruction))
      (completing another next (Stepping.coprocessor counterpart another slot instruction)) := by
  unfold completing
  rw [coprocessor_eq, coprocessor_eq, bind_assoc, bind_assoc]
  have compiled : Exec.Corresponds stopped (related lent) (related lent)
      (Option.Rel (answers instruction.request))
      (withCoprocessor handle slot fun bridge => bridge.compile perform instruction.request)
      (withCoprocessor another slot fun bridge => bridge.compile counterpart instruction.request) := by
    apply mirrors.lending
    apply (mirrors.engine _).bind
    intro engine other alike
    have bridges := mirrors.compile (.coprocessors :: lent) engine other alike slot
      instruction.request
    generalize engine.configuration.coprocessors[slot] = populated at bridges ⊢
    generalize other.configuration.coprocessors[slot] = copied at bridges ⊢
    cases bridges with
    | none => exact .pure .none
    | some compiles =>
      apply compiles.bind
      intro answer reply agrees
      exact .pure (.some agrees)
  apply compiled.bind
  -- Both slots are populated or none is. Without a coprocessor the instruction is refused on both
  -- sides.
  rintro _ _ (agrees | _)
  · exact mirrors.complete lent instruction _ _ agrees next counts
  · rw [useCompiled_none, useCompiled_none]
    exact .pure rfl

omit mirrors in
/-- A coprocessor instruction either completes or is undefined. -/
theorem execute_completing (address : UInt32) (slot : Fin 16)
    (instruction : CoprocessorInstruction) :
    Stepping.execute perform handle address (.coprocessor slot instruction) = (do
      if ← completing handle (address + 4) (Stepping.coprocessor perform handle slot instruction) then
        return true
      else
        Stepping.raise perform handle address) := by
  simp only [Stepping.execute, completing, bind_assoc]
  refine bind_congr fun done => ?_
  cases done <;> simp

/-- Mirrored engines execute an instruction alike. -/
theorem execute (lent : List EnginePart) (address : UInt32) (instruction : Instruction)
    (counts : counters (destination address instruction)) :
    Exec.Corresponds stopped (related lent) (related lent) (· = ·)
      (Stepping.execute perform handle address instruction)
      (Stepping.execute counterpart another address instruction) := by
  cases instruction with
  | idle => exact (mirrors.advance lent _ counts).bind_same fun _ => .pure rfl
  | branch offset => exact (mirrors.advance lent _ counts).bind_same fun _ => .pure rfl
  | supervisorCall number =>
    apply (mirrors.advance lent _ counts).bind_same
    intro _
    exact (mirrors.ask lent (.supervisorCall number)).bind_same fun _ => .pure rfl
  | coprocessor slot instruction =>
    rw [execute_completing, execute_completing]
    apply (mirrors.coprocessor lent slot instruction counts).bind_same
    intro done
    cases done with
    | true => exact .pure rfl
    | false => exact mirrors.raise lent address
  | undefined => exact mirrors.raise lent address

end ExecutesAlike

namespace Mirrors

variable (mirrors : Mirrors stopped related perform counterpart handle another engines answers)

include mirrors

/-- Both sides find the word in a page or both ask for it, because both have the same words in their
pages. -/
theorem fetch (lent : List EnginePart) (address : UInt32) :
    Exec.Corresponds stopped (related lent) (related lent) (· = ·)
      (Stepping.fetch perform handle address) (Stepping.fetch counterpart another address) := by
  apply (mirrors.engine lent).bind
  intro engine other alike
  apply Exec.Corresponds.get_bind
  intro world copy worlds
  have same := mirrors.paged lent world copy worlds engine other alike address
  unfold pagedWord at same
  rw [same]
  cases other.configuration.pageTable.bind fun table => table.fetch? copy.shared.own address with
  | some word => exact ⟨rfl, worlds⟩
  | none =>
    exact (mirrors.ask lent (.fetch address)).bind_same (fun _ => .pure rfl) world copy worlds

/-- Mirrored engines take a step alike; fetching a word may lead to another relation. -/
theorem step {onward : List EnginePart → WorldRelation σ ν} (lent : List EnginePart)
    (mirrorsAfter : Mirrors stopped onward perform counterpart handle another engines answers)
    (fetched : ∀ address word, Exec.Corresponds stopped (related lent) (onward lent) (· = ·)
      (Exec.emit (.fetched handle address word)) (Exec.emit (.fetched another address word))) :
    Exec.Corresponds stopped (related lent) (onward lent) (· = ·) (Stepping.step perform handle)
      (Stepping.step counterpart another) := by
  apply (mirrors.readRegister lent pc).bind_same
  intro address
  apply (mirrors.fetch lent address).bind_same
  intro word
  apply (fetched address word).bind_same
  intro _
  exact mirrorsAfter.execute lent address (Instruction.decode word) trivial

end Mirrors

/-- Instructions that are used alike complete alike. -/
theorem completing_alike {once : WorldRelation σ ν} {next : UInt32} {compute copy : Exec σ ν Bool}
    (used : Exec.Corresponds stopped once once (· = ·) compute copy)
    (settles : Exec.Corresponds stopped once once (· = ·) (writeRegister handle pc next)
      (writeRegister another pc next)) :
    Exec.Corresponds stopped once once (· = ·) (completing handle next compute)
      (completing another next copy) := by
  apply used.bind_same
  intro done
  cases done with
  | true => exact settles.bind_same fun _ => .pure rfl
  | false => exact .pure rfl

end

/-! ### Answers of one shape -/

/-- Two transfer answers grant the same, or hold deferred operations in a relation. -/
inductive TransfersAlike {F A : Type} (callbacks : Callback F → Callback F → Prop) :
    Transfer F A → Transfer F A → Prop where
  | unsupported : TransfersAlike callbacks .unsupported .unsupported
  | callback {held other : Callback F} (alike : callbacks held other) :
      TransfersAlike callbacks (.callback held) (.callback other)
  | access (location : A) : TransfersAlike callbacks (.access location) (.access location)

/-- Two compile answers are of one kind and grant the same, or hold deferred operations in a
relation. -/
inductive CompiledAlike {F : Type} (callbacks : Callback F → Callback F → Prop) :
    Compiled F → Compiled F → Prop where
  | operation {answer other : Option (Callback F)} (alike : Option.Rel callbacks answer other) :
      CompiledAlike callbacks (.operation answer) (.operation other)
  | oneWord {answer other : Transfer F Location} (alike : TransfersAlike callbacks answer other) :
      CompiledAlike callbacks (.oneWord answer) (.oneWord other)
  | twoWords {answer other : Transfer F (Location × Location)}
      (alike : TransfersAlike callbacks answer other) :
      CompiledAlike callbacks (.twoWords answer) (.twoWords other)

theorem TransfersAlike.same {F A : Type} (transfer : Transfer F A) :
    TransfersAlike (· = ·) transfer transfer := by
  cases transfer with
  | unsupported => exact .unsupported
  | callback held => exact .callback rfl
  | access location => exact .access location

/-- An answer is like itself. -/
theorem CompiledAlike.same {F : Type} (compiled : Compiled F) :
    CompiledAlike (· = ·) compiled compiled := by
  cases compiled with
  | operation answer =>
    cases answer with
    | none => exact .operation .none
    | some callback => exact .operation (.some rfl)
  | oneWord answer => exact .oneWord (.same answer)
  | twoWords answer => exact .twoWords (.same answer)

/-- A computation that yields true whenever it completes. -/
def Implements (compute : Exec σ ν Bool) : Prop :=
  ∀ world, compute.Ensures world (fun done _ => done = true) fun _ _ => True

theorem Implements.done : Implements (pure true : Exec σ ν Bool) :=
  fun _ => rfl

/-- To be implemented, a computation must end in success whatever happens on the way. -/
theorem Implements.bind (computation : Exec σ ν α) {next : α → Exec σ ν Bool}
    (rest : ∀ answer, Implements (next answer)) : Implements (computation >>= next) :=
  fun _ => .bind .any fun answer after _ => rest answer after

/-- A compile answer grants direct access to some locations only. -/
def Grants {F : Type} (granted : Location → Prop) : Compiled F → Prop
  | .oneWord (.access location) => granted location
  | .twoWords (.access (low, high)) => granted low ∧ granted high
  | _ => True

theorem Grants.any {F : Type} (compiled : Compiled F) : Grants (fun _ => True) compiled := by
  unfold Grants
  split
  · trivial
  · exact ⟨trivial, trivial⟩
  · trivial

/-- What using an answer consists of, from worlds in a relation. Writing a register may lead to a
weaker relation. -/
structure UsesAlike (stopped related used : WorldRelation σ ν) (perform counterpart : Performer σ ν)
    (handle another : Handle)
    (callbacks : Callback (DeferredFunction σ ν) → Callback (DeferredFunction σ ν) → Prop)
    (granted : Location → Prop) : Prop where
  weaken : ∀ world other, related world other → used world other
  run : ∀ callback other, callbacks callback other → ∀ first second,
    Exec.Corresponds stopped related related (· = ·) (callback.run perform first second)
      (other.run counterpart first second)
  read : ∀ number, Exec.Corresponds stopped related related (· = ·) (readRegister handle number)
    (readRegister another number)
  write : ∀ number value, Exec.Corresponds stopped used used (· = ·)
    (writeRegister handle number value) (writeRegister another number value)
  load : ∀ location, granted location → Exec.Corresponds stopped used used (· = ·)
    (Exec.loadWord location) (Exec.loadWord location)
  store : ∀ location, granted location → ∀ word, Exec.Corresponds stopped related related (· = ·)
    (Exec.storeWord location word) (Exec.storeWord location word)

namespace UsesAlike

variable {stopped related used : WorldRelation σ ν} {perform counterpart : Performer σ ν}
  {handle another : Handle}
  {callbacks : Callback (DeferredFunction σ ν) → Callback (DeferredFunction σ ν) → Prop}
  {granted : Location → Prop}
  (uses : UsesAlike stopped related used perform counterpart handle another callbacks granted)

include uses

/-- Where nothing more is written, the weaker relation holds too. -/
theorem weakened {agree : α → β → Prop} {computation : Exec σ ν α} {copy : Exec σ ν β}
    (corresponds : Exec.Corresponds stopped related related agree computation copy) :
    Exec.Corresponds stopped related used agree computation copy :=
  corresponds.imp (fun _ _ => id) uses.weaken

/-- The operands are read alike and the operations end alike. -/
theorem runOperation {compiled other : Option (Callback (DeferredFunction σ ν))}
    (alike : Option.Rel callbacks compiled other) {first second firstCopy secondCopy : Exec σ ν UInt32}
    (isFirst : Exec.Corresponds stopped related related (· = ·) first firstCopy)
    (isSecond : Exec.Corresponds stopped related related (· = ·) second secondCopy) :
    Exec.Corresponds stopped related related (· = ·)
      (Stepping.runOperation perform (some compiled) first second)
      (Stepping.runOperation counterpart (some other) firstCopy secondCopy) := by
  cases alike with
  | none => exact .pure rfl
  | some callback =>
    apply isFirst.bind_same
    intro firstWord
    apply isSecond.bind_same
    intro secondWord
    exact (uses.run _ _ callback firstWord secondWord).bind_same fun _ => .pure rfl

theorem sendOneWord (source : RegisterNumber)
    {compiled other : Transfer (DeferredFunction σ ν) Location}
    (alike : TransfersAlike callbacks compiled other)
    (grants : Grants granted (.oneWord compiled)) :
    Exec.Corresponds stopped related related (· = ·)
      (Stepping.sendOneWord perform handle source (some compiled))
      (Stepping.sendOneWord counterpart another source (some other)) := by
  cases alike with
  | unsupported => exact .pure rfl
  | callback held =>
    apply (uses.read source).bind_same
    intro word
    exact (uses.run _ _ held word 0).bind_same fun _ => .pure rfl
  | access location =>
    apply (uses.read source).bind_same
    intro word
    exact (uses.store location grants word).bind_same fun _ => .pure rfl

theorem getOneWord (target : RegisterNumber)
    {compiled other : Transfer (DeferredFunction σ ν) Location}
    (alike : TransfersAlike callbacks compiled other)
    (grants : Grants granted (.oneWord compiled)) :
    Exec.Corresponds stopped related used (· = ·)
      (Stepping.getOneWord perform handle target (some compiled))
      (Stepping.getOneWord counterpart another target (some other)) := by
  cases alike with
  | unsupported => exact uses.weakened (.pure rfl)
  | callback held =>
    apply (uses.weakened (uses.run _ _ held 0 0)).bind_same
    intro value
    exact (uses.write target _).bind_same fun _ => .pure rfl
  | access location =>
    apply ((uses.load location grants).imp uses.weaken fun _ _ => id).bind_same
    intro word
    exact (uses.write target word).bind_same fun _ => .pure rfl

/-- Two words are sent. By direct access the first one is stored before the second register is read,
on both sides. -/
theorem sendTwoWords (lowSource highSource : RegisterNumber)
    {compiled other : Transfer (DeferredFunction σ ν) (Location × Location)}
    (alike : TransfersAlike callbacks compiled other)
    (grants : Grants granted (.twoWords compiled)) :
    Exec.Corresponds stopped related related (· = ·)
      (Stepping.sendTwoWords perform handle lowSource highSource (some compiled))
      (Stepping.sendTwoWords counterpart another lowSource highSource (some other)) := by
  cases alike with
  | unsupported => exact .pure rfl
  | callback held =>
    apply (uses.read lowSource).bind_same
    intro lowWord
    apply (uses.read highSource).bind_same
    intro highWord
    exact (uses.run _ _ held lowWord highWord).bind_same fun _ => .pure rfl
  | access locations =>
    apply (uses.read lowSource).bind_same
    intro lowWord
    apply (uses.store locations.1 grants.1 lowWord).bind_same
    intro _
    apply (uses.read highSource).bind_same
    intro highWord
    exact (uses.store locations.2 grants.2 highWord).bind_same fun _ => .pure rfl

/-- Two words are got. The relation after the registers were written may be another one than before,
as one of them may be the program counter. -/
theorem getTwoWords (lowTarget highTarget : RegisterNumber)
    {compiled other : Transfer (DeferredFunction σ ν) (Location × Location)}
    (alike : TransfersAlike callbacks compiled other)
    (grants : Grants granted (.twoWords compiled)) :
    Exec.Corresponds stopped related used (· = ·)
      (Stepping.getTwoWords perform handle lowTarget highTarget (some compiled))
      (Stepping.getTwoWords counterpart another lowTarget highTarget (some other)) := by
  cases alike with
  | unsupported => exact uses.weakened (.pure rfl)
  | callback held =>
    apply (uses.weakened (uses.run _ _ held 0 0)).bind_same
    intro value
    apply (uses.write lowTarget _).bind_same
    intro _
    exact (uses.write highTarget _).bind_same fun _ => .pure rfl
  | access locations =>
    apply ((uses.load locations.1 grants.1).imp uses.weaken fun _ _ => id).bind_same
    intro lowWord
    apply (uses.write lowTarget lowWord).bind_same
    intro _
    apply (uses.load locations.2 grants.2).bind_same
    intro highWord
    exact (uses.write highTarget highWord).bind_same fun _ => .pure rfl

/-- Answers of one shape are used alike; an answer of another kind than was asked for is not used at
all. -/
theorem useCompiled (instruction : CoprocessorInstruction)
    {compiled other : Compiled (DeferredFunction σ ν)} (alike : CompiledAlike callbacks compiled other)
    (grants : Grants granted compiled) :
    Exec.Corresponds stopped related used (· = ·)
      (Stepping.useCompiled perform handle instruction (some compiled))
      (Stepping.useCompiled counterpart another instruction (some other)) := by
  cases alike with
  | operation alike =>
    cases instruction with
    | internalOperation => exact uses.weakened (uses.runOperation alike (.pure rfl) (.pure rfl))
    | loadWords | storeWords => exact uses.weakened (uses.runOperation alike (uses.read _) (.pure rfl))
    | _ => exact uses.weakened (.pure rfl)
  | oneWord alike =>
    cases instruction with
    | sendOneWord => exact uses.weakened (uses.sendOneWord _ alike grants)
    | getOneWord => exact uses.getOneWord _ alike grants
    | _ => exact uses.weakened (.pure rfl)
  | twoWords alike =>
    cases instruction with
    | sendTwoWords => exact uses.weakened (uses.sendTwoWords _ _ alike grants)
    | getTwoWords => exact uses.getTwoWords _ _ alike grants
    | _ => exact uses.weakened (.pure rfl)

omit uses in
/-- Two answers either are not used at all, or implement the instruction. Which of the two, the
kinds of instruction and answer decide. -/
theorem unused_or_implements (instruction : CoprocessorInstruction)
    {compiled other : Compiled (DeferredFunction σ ν)} (alike : CompiledAlike callbacks compiled other) :
    (Stepping.useCompiled perform handle instruction (some compiled) = pure false ∧
      Stepping.useCompiled counterpart another instruction (some other) = pure false) ∨
    Implements (Stepping.useCompiled perform handle instruction (some compiled)) := by
  cases alike with
  | operation alike =>
    cases alike with
    | none => cases instruction <;> exact .inl ⟨rfl, rfl⟩
    | some held =>
      cases instruction with
      | internalOperation | loadWords | storeWords =>
        exact .inr (.bind _ fun _ => .bind _ fun _ => .bind _ fun _ => .done)
      | _ => exact .inl ⟨rfl, rfl⟩
  | oneWord alike =>
    cases alike with
    | unsupported => cases instruction <;> exact .inl ⟨rfl, rfl⟩
    | callback | access =>
      cases instruction with
      | sendOneWord | getOneWord => exact .inr (.bind _ fun _ => .bind _ fun _ => .done)
      | _ => exact .inl ⟨rfl, rfl⟩
  | twoWords alike =>
    cases alike with
    | unsupported => cases instruction <;> exact .inl ⟨rfl, rfl⟩
    | callback =>
      cases instruction with
      | sendTwoWords | getTwoWords =>
        exact .inr (.bind _ fun _ => .bind _ fun _ => .bind _ fun _ => .done)
      | _ => exact .inl ⟨rfl, rfl⟩
    | access =>
      cases instruction with
      | sendTwoWords | getTwoWords =>
        exact .inr (.bind _ fun _ => .bind _ fun _ => .bind _ fun _ => .bind _ fun _ => .done)
      | _ => exact .inl ⟨rfl, rfl⟩

/-- An instruction that is implemented is completed by a program counter that leads back to the
first relation. -/
theorem complete (instruction : CoprocessorInstruction)
    {compiled other : Compiled (DeferredFunction σ ν)} (alike : CompiledAlike callbacks compiled other)
    (grants : Grants granted compiled) {next : UInt32}
    (settles : Exec.Corresponds stopped used related (· = ·)
      (writeRegister handle pc next) (writeRegister another pc next)) :
    Exec.Corresponds stopped related related (· = ·)
      (completing handle next (Stepping.useCompiled perform handle instruction (some compiled)))
      (completing another next (Stepping.useCompiled counterpart another instruction (some other))) := by
  rcases unused_or_implements instruction alike with ⟨unused, unusedToo⟩ | implemented
  · rw [unused, unusedToo]
    exact .pure rfl
  · apply ((uses.useCompiled instruction alike grants).ensured implemented).bind
    rintro _ _ ⟨rfl, rfl⟩
    exact settles.bind_same fun _ => .pure rfl

end UsesAlike

end RecompilerAdapter.Stepping
