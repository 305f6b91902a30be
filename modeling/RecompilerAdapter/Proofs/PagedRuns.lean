/-
Module: RecompilerAdapter.Proofs.PagedRuns
Purpose: Runs with and without a page table. An engine that finds some words in its pages executes the
  same words as one that requests them all, and does the same with them. So runs end alike, and one
  history differs from the other one in requests for words only.
Trusted boundary: none
Main exports: Stepping.fetched, PagedEngine.Performs, PagedEngine.step_alike, PagedEngine.run_alike
-/
import RecompilerAdapter.Proofs.EncodedSteps
import RecompilerAdapter.Proofs.HandleIdentity
import RecompilerAdapter.Proofs.PagedEngines

namespace RecompilerAdapter

open Stepping (CompiledAlike pc)

variable {σ ν α β : Type}

/-! ### Requests that change nothing -/

namespace Stepping

/-- A wrapper whose engine has lent out its callbacks. -/
def lentCallbacks (wrapper : Wrapper σ ν) : Wrapper σ ν :=
  { wrapper with engine := setLentParts [.callbacks] wrapper.engine }

variable {world : World σ ν} {handle : Handle} {wrapper : Wrapper σ ν}

/-- A request that is served without changing anything is told of, and nothing else happens. The
engine lends out its callbacks and takes them back. -/
theorem ask_of_peeks {request : HostRequest} {entry : Handle → Activity σ ν request.Answer}
    {told : List (Event ν)} {answer : request.Answer}
    (present : world.wrappers.get? handle = some wrapper) (idle : wrapper.engine.mode = .stepping [])
    (bound : world.slots.get? wrapper.engine.configuration.callbacks.slot = some handle)
    (served : wrapper.engine.configuration.callbacks.table.entry? request = some entry)
    (peeks : (entry handle).Peeks handle (lentCallbacks wrapper) world.shared told answer) (depth : Nat) :
    ask (perform (depth + 1)) handle request world = .ok answer
      (((world.place handle (lentCallbacks wrapper)).recordAll
        ([.calling wrapper.engine.configuration.callbacks.slot request true,
          .requested handle request] ++ told ++
          [.answered handle request (request.report answer)])).place handle wrapper) := by
  have configuration : (lentCallbacks wrapper).engine.configuration = wrapper.engine.configuration := by
    rw [lentCallbacks, setLentParts, idle]
  -- The engine takes its callbacks back as they were: nothing else has been lent meanwhile.
  have givenBack : setLentParts ((lentParts (lentCallbacks wrapper).engine).erase .callbacks)
      (lentCallbacks wrapper).engine = wrapper.engine := by
    simp only [lentCallbacks, setLentParts, lentParts, idle, List.erase_cons_head]
    rw [← idle]
  have presentLent (events : List (Event ν)) : ((world.place handle (lentCallbacks wrapper)).recordAll
      events).wrappers.get? handle = some (lentCallbacks wrapper) := by simp
  have forwarded : (lentCallbacks wrapper).engine.configuration.callbacks.forward (perform (depth + 1))
      request (world.place handle (lentCallbacks wrapper)) = .ok answer
        ((world.place handle (lentCallbacks wrapper)).recordAll
          ([.calling wrapper.engine.configuration.callbacks.slot request true,
            .requested handle request] ++ told ++
            [.answered handle request (request.report answer)])) := by
    have isBound : (world.place handle (lentCallbacks wrapper)).slots.get?
        wrapper.engine.configuration.callbacks.slot = some handle := bound
    rw [configuration, CallbackBridge.forward_bound isBound _ served,
      Exec.bind_of_ok (peeks.exec (presentLent _) rfl depth), World.recordAll_append,
      World.recordAll_append]
    rfl
  have lends : Exec.modifyEngine handle (setLentParts [.callbacks]) world =
      .ok () (world.place handle (lentCallbacks wrapper)) := Exec.modifyEngine_of_present present _
  have borrowed : Exec.engine handle (world.place handle (lentCallbacks wrapper)) =
      .ok (lentCallbacks wrapper).engine (world.place handle (lentCallbacks wrapper)) :=
    Exec.engine_of_present (presentLent [])
  rw [ask, lending_eq present idle, Exec.bind_of_ok lends, bind_assoc, Exec.bind_of_ok borrowed,
    Exec.bind_of_ok forwarded, Exec.bind_of_ok (Exec.modifyEngine_of_present (presentLent _) _),
    givenBack]
  rfl

/-- A word that a mapped page holds is fetched without anything else happening; any other word is
requested. -/
theorem fetch_eq (present : world.wrappers.get? handle = some wrapper) (perform : Performer σ ν)
    (address : UInt32) : fetch perform handle address world =
      ((pagedWord wrapper.engine world address).elim
        (do return ⟨← ask perform handle (.read .word address)⟩) pure : Exec σ ν UInt32) world := by
  have got : (get : Exec σ ν (World σ ν)) world = .ok world world := rfl
  rw [fetch, Exec.bind_of_ok (Exec.engine_of_present present), Exec.bind_of_ok got]
  unfold pagedWord
  cases wrapper.engine.configuration.pageTable.bind fun table =>
    table.fetch? world.shared.own address <;> rfl

/-- Fetches the word at an address and tells of it. -/
def fetched (perform : Performer σ ν) (handle : Handle) (address : UInt32) : Exec σ ν UInt32 := do
  let word ← fetch perform handle address
  Exec.emit (.fetched handle address word)
  return word

end Stepping

namespace PagedEngine

variable {paged : PagedEngine σ ν} {perform : Performer σ ν} {lent : List EnginePart}

/-! ### Callers -/

/-- While the engine runs, every action that keeps its program counter aligned ends alike. An action
that runs the engine itself is rejected on both sides. -/
def Performs (paged : PagedEngine σ ν) (perform : Performer σ ν) : Prop :=
  ∀ lent surface target action, paged.Aligns target action →
    paged.EndAlike .running lent Aligned (· = ·) (perform surface target action)
      (perform surface target action)

/-- The caller's state is the same on both sides, and the pages are equal to the guest's memory. -/
theorem accessShared_alike {state : RunState} {counters : UInt32 → Prop} {update : Shared σ → Shared σ}
    (keeps : ∀ shared, paged.Faithful shared.own → paged.Faithful (update shared).own) :
    paged.EndAlike state lent counters
      (fun before copy => before = copy ∧ paged.Faithful before.own) (Exec.accessShared update)
      (Exec.accessShared update) :=
  fun _ _ alike => ⟨⟨alike.shared, alike.faithful⟩, alike.share update keeps⟩

theorem Considerate.exec (performs : paged.Performs perform) {agree : α → β → Prop}
    {body : Activity σ ν α} {other : Activity σ ν β} (considerate : paged.Considerate agree body other) :
    paged.EndAlike .running lent Aligned agree (body.exec perform) (other.exec perform) := by
  induction considerate with
  | finish agrees => exact .pure agrees
  | access keeps rest ih =>
    apply (accessShared_alike keeps).bind
    rintro before _ ⟨rfl, faithful⟩
    exact ih before faithful
  | record rest ih => exact .bind_same (.emit fun _ _ alike => alike.record trivial) fun _ => ih
  | perform aligns rest ih => exact (performs lent _ _ _ aligns).bind_same ih

/-- Other engines do alike. -/
theorem likeness (performs : paged.Performs perform) (lent : List EnginePart) :
    Likeness paged.Stopped (paged.Alike .running lent Aligned) perform perform paged.considerate
      (· ≠ paged.handle) where
  stops _ _ alike := alike.stopped
  record _ told _ _ alike := alike.record told
  slots _ _ alike := alike.slots
  shared _ _ alike := alike.shared
  storeWord location word _ _ alike := alike.share
    (fun shared => { shared with words := shared.words.store location word }) fun _ faithful => faithful
  script _ _ alike := alike.script
  setScript _ _ _ alike := { alike with script := rfl }
  wrappers handle isOther _ _ alike := alike.others handle isOther
  place _ isOther _ _ alike _ _ wrappers := alike.place_other isOther wrappers
  exec _ _ _ _ _ considerate := Considerate.exec performs considerate

section

variable (performs : paged.Performs perform)

include performs

/-- A run of the engine inside its run is rejected on both sides. -/
theorem rejectedRun_alike (turns : Nat) (surface : Surface) (script : Option (List EngineOperation)) :
    paged.EndAlike .running lent Aligned (· = ·)
      (Wrapper.performWith perform turns surface paged.handle (.run script))
      (Wrapper.performWith perform turns surface paged.handle (.run script)) := by
  have rejected : paged.EndAlike .running lent Aligned
      (fun finished other => finished = false ∧ other = false)
      (Wrapper.run perform turns paged.handle) (Wrapper.run perform turns paged.handle) := by
    apply wrapper_alike.bind
    rintro wrapper _ ⟨employs, rfl⟩
    have running : wrapper.unpaged.state = .running := employs.state
    rw [if_pos employs.state, if_pos running]
    exact .pure ⟨rfl, rfl⟩
  apply ((likeness performs lent).schedule script).bind_same
  intro _
  apply rejected.bind
  rintro _ _ ⟨rfl, rfl⟩
  cases surface with
  | direct => exact .pure rfl
  | foreign => exact .throw fun _ _ alike => alike.stopped

omit performs in
theorem observe_alike {action : Action} {view : Wrapper σ ν → Reply}
    (observes : action.observation? = some view) (turns : Nat) (surface : Surface) :
    paged.EndAlike .running lent Aligned (· = ·)
      (Wrapper.performWith perform turns surface paged.handle action)
      (Wrapper.performWith perform turns surface paged.handle action) := by
  rw [Wrapper.performWith_observation observes]
  apply wrapper_alike.bind
  rintro wrapper _ ⟨-, rfl⟩
  exact .pure (Wrapper.observation_unpaged observes wrapper).symm

omit performs in
/-- An action that keeps the program counter aligned does so. -/
theorem counter_adjustment {action : Action} {update : Engine σ ν → Engine σ ν} {engine : Engine σ ν}
    (adjusts : action.adjustment? = some update) (aligns : paged.Aligns paged.handle action)
    (isAligned : Aligned (engine.registers.get pc)) : Aligned ((update engine).registers.get pc) := by
  cases action <;> cases adjusts
  case setRegister number value =>
    unfold Engine.withRegister
    rw [get_set_counter]
    split
    · rename_i isCounter
      exact aligns value rfl (by rw [isCounter])
    · exact isAligned
  all_goals exact isAligned

omit performs in
theorem adjust_alike {action : Action} {update : Engine σ ν → Engine σ ν}
    (adjusts : action.adjustment? = some update) (aligns : paged.Aligns paged.handle action)
    (turns : Nat) (surface : Surface) :
    paged.EndAlike .running lent Aligned (· = ·)
      (Wrapper.performWith perform turns surface paged.handle action)
      (Wrapper.performWith perform turns surface paged.handle action) := by
  rw [Wrapper.performWith_adjustment adjusts]
  have keeps (wrapper : Wrapper σ ν) (employs : paged.Employs .running lent Aligned wrapper) :
      paged.Employs .running lent Aligned { wrapper with engine := update wrapper.engine } :=
    { employs with
      configuration := (Action.configuration_adjustment adjusts _).trans employs.configuration
      mode := (Action.mode_adjustment adjusts _).trans employs.mode
      counter := counter_adjustment adjusts aligns employs.counter }
  exact (modifyEngine_alike (Engine.adjustment_unpaged adjusts) keeps).bind_same fun _ => .pure rfl

theorem performWith_alike (turns : Nat) (surface : Surface) (target : Handle) (action : Action)
    (aligns : paged.Aligns target action) :
    paged.EndAlike .running lent Aligned (· = ·)
      (Wrapper.performWith perform turns surface target action)
      (Wrapper.performWith perform turns surface target action) := by
  by_cases own : target = paged.handle
  · subst own
    cases action using Action.byKind σ ν with
    | run script => exact rejectedRun_alike performs turns surface script
    | adjust action update adjusts => exact adjust_alike adjusts aligns turns surface
    | observe action view observes => exact observe_alike observes turns surface
    | arrange number => exact .throw fun _ _ alike => alike.stopped
  · exact (likeness performs lent).performWith own turns surface action

end

theorem performs_perform (bound : Nat) : paged.Performs (RecompilerAdapter.perform bound) := by
  induction bound with
  | zero => exact fun _ _ _ _ _ => .throw fun _ _ alike => alike.stopped
  | succ bound ih =>
    intro lent surface target action aligns
    rw [perform_succ]
    refine .bind_same (.emit fun _ _ alike => alike.record trivial) fun _ => ?_
    apply (performWith_alike ih bound surface target action aligns).bind_same
    intro reply
    exact .bind_same (.emit fun _ _ alike => alike.record trivial) fun _ => .pure rfl

/-! ### Instructions -/

section

variable (sound : paged.Sound) (performs : paged.Performs perform)

theorem readRegister_alike {state : RunState} {counters : UInt32 → Prop} (number : RegisterNumber) :
    paged.EndAlike state lent counters (· = ·) (Stepping.readRegister paged.handle number)
      (Stepping.readRegister paged.handle number) := by
  apply engine_alike.bind
  rintro engine _ ⟨-, rfl⟩
  exact .pure rfl

/-- The program counter is one of the values that it may have. -/
theorem readCounter_alike {state : RunState} {counters : UInt32 → Prop} :
    paged.EndAlike state lent counters (fun counter copy => counter = copy ∧ counters counter)
      (Stepping.readRegister paged.handle pc) (Stepping.readRegister paged.handle pc) := by
  intro world other alike
  obtain ⟨wrapper, employs, present, presentToo⟩ := alike.employed
  rw [Stepping.readRegister_of_present present, Stepping.readRegister_of_present presentToo]
  exact ⟨⟨rfl, employs.counter⟩, alike⟩

include performs in
/-- An answer is used alike. Until the instruction completes, the program counter may hold any
value. -/
theorem usesAlike : Stepping.UsesAlike paged.Stopped (paged.Alike .running lent Aligned)
    (paged.Alike .running lent fun _ => True) perform perform paged.handle paged.handle
    paged.considerate.Callbacks (fun _ => True) where
  weaken _ _ alike := alike.weaken fun _ _ => trivial
  run _ _ callbacks first second := (likeness performs lent).run callbacks first second
  read := readRegister_alike
  write _ _ := writeRegister_alike fun _ _ => trivial
  load location _ := fun _ _ alike => ⟨congrArg (·.words.load location) alike.shared, alike⟩
  store location _ := (likeness performs lent).storesWord location

include sound performs

theorem forward_alike {engine other : Engine σ ν} (engines : paged.Engines engine other)
    (request : HostRequest) :
    paged.EndAlike .running lent Aligned (· = ·)
      (engine.configuration.callbacks.forward perform request)
      (other.configuration.callbacks.forward perform request) := by
  obtain ⟨configuration, rfl⟩ := engines
  have unpaged : engine.unpaged.configuration.callbacks = engine.configuration.callbacks := rfl
  rw [unpaged, configuration]
  exact (likeness performs lent).forward rfl sound.considerate.table request

theorem executesAlike : Stepping.ExecutesAlike paged.Stopped
    (fun lent => paged.Alike .running lent Aligned) perform perform paged.handle paged.handle paged.Engines
    (fun _ => CompiledAlike paged.considerate.Callbacks) Aligned where
  stops _ _ _ alike := alike.stopped
  engine _ := engine_alike
  registers := by
    rintro engine _ ⟨-, rfl⟩
    rfl
  lent := by
    rintro engine _ ⟨-, rfl⟩
    rfl
  lend lent change := by
    apply modifyEngine_alike
    · intro engine
      cases kind : engine.mode <;>
        simp only [Stepping.setLentParts, Stepping.lentParts, Engine.unpaged, kind]
    · intro wrapper employs
      have kind := employs.mode
      exact { employs with
        configuration := by simpa only [Stepping.setLentParts, kind] using employs.configuration
        mode := by simp only [Stepping.setLentParts, Stepping.lentParts, kind]
        counter := by simpa only [Stepping.setLentParts, kind] using employs.counter }
  advance _ next isAligned := writeRegister_alike fun _ _ => by rwa [if_pos rfl]
  forward _ _ _ engines request _ := forward_alike sound performs engines request
  compile lent engine other engines slot request := by
    obtain ⟨configuration, rfl⟩ := engines
    have unpaged : engine.unpaged.configuration.coprocessors = engine.configuration.coprocessors := rfl
    have bridges := sound.considerate.coprocessors slot
    rw [unpaged, configuration]
    generalize paged.configuration.coprocessors[slot] = populated at bridges ⊢
    cases bridges with
    | none => exact .none
    | some alike => exact .some ((likeness performs lent).compile alike request)
  complete _ instruction _ _ answers next isAligned :=
    (usesAlike performs).complete instruction answers (.any _)
      (writeRegister_alike fun _ _ => by rwa [if_pos rfl])

omit performs in
/-- Without the page table, the guest's word at an aligned address of a mapped page is requested.
The host answers with the word that the page table would have shown. -/
theorem requested_of_mapped {world other : World σ ν} {address : UInt32} {wrapper : Wrapper σ ν}
    (alike : paged.Alike .running [] Aligned world other) (isAligned : Aligned address)
    (mapped : paged.table.Mapped address) (employs : paged.Employs .running [] Aligned wrapper)
    (present : other.wrappers.get? paged.handle = some wrapper.unpaged) (depth : Nat) :
    ∃ told, (paged.configuration.callbacks.table.read32 paged.handle address).Peeks paged.handle
        (Stepping.lentCallbacks wrapper.unpaged) world.shared told
        (paged.memory.word world.shared.own address).toBitVec ∧
      Stepping.ask (RecompilerAdapter.perform (depth + 1)) paged.handle (.read .word address) other =
        .ok (paged.memory.word world.shared.own address).toBitVec
          (((other.place paged.handle (Stepping.lentCallbacks wrapper.unpaged)).recordAll
            (paged.request address (paged.memory.word world.shared.own address) told)).place
              paged.handle wrapper.unpaged) := by
  obtain ⟨told, peeks⟩ := sound.reads (Stepping.lentCallbacks wrapper.unpaged) world.shared address
    employs.data alike.faithful isAligned mapped
  have unpaged : wrapper.unpaged.engine.configuration.callbacks =
      wrapper.engine.configuration.callbacks := rfl
  have callbacks : wrapper.unpaged.engine.configuration.callbacks = paged.configuration.callbacks := by
    rw [unpaged, employs.configuration]
  have isBound : other.slots.get? wrapper.unpaged.engine.configuration.callbacks.slot =
      some paged.handle := by
    rw [callbacks, ← alike.slots]
    exact alike.bound
  have served : wrapper.unpaged.engine.configuration.callbacks.table.entry? (.read .word address) =
      some fun handle => paged.configuration.callbacks.table.read32 handle address := by
    rw [callbacks]
    rfl
  have asked := Stepping.ask_of_peeks present employs.mode isBound served (alike.shared ▸ peeks) depth
  rw [callbacks, ← alike.shared] at asked
  exact ⟨told, peeks, asked⟩

omit performs in
/-- Fetching the word at an aligned address of a mapped page tells of a request for it only if there
is no page table. -/
theorem fetched_of_mapped {address : UInt32} (isAligned : Aligned address)
    (mapped : paged.table.Mapped address) (depth : Nat) :
    paged.EndAlike .running [] Aligned (· = ·)
      (Stepping.fetched (RecompilerAdapter.perform (depth + 1)) paged.handle address)
      (Stepping.fetched (RecompilerAdapter.perform (depth + 1)) paged.handle address) := by
  intro world other alike
  obtain ⟨wrapper, employs, present, presentToo⟩ := alike.employed
  obtain ⟨told, peeks, requested⟩ :=
    requested_of_mapped sound alike isAligned mapped employs presentToo depth
  have onPage : Stepping.pagedWord wrapper.engine world address =
      some (paged.memory.word world.shared.own address) := by
    rw [Stepping.pagedWord, employs.configuration, sound.pageTable]
    exact PageTable.fetch?_of_mapped alike.faithful isAligned mapped
  have onNone : Stepping.pagedWord wrapper.unpaged.engine other address = none := rfl
  have first := Stepping.fetch_eq present (RecompilerAdapter.perform (depth + 1)) address
  have second := Stepping.fetch_eq presentToo (RecompilerAdapter.perform (depth + 1)) address
  rw [onPage] at first
  rw [onNone, Option.elim_none, Exec.bind_of_ok requested] at second
  unfold Stepping.fetched
  rw [Exec.bind_of_ok first, Exec.bind_of_ok second]
  exact ⟨rfl, alike.detour employs present (.fetched mapped peeks alike.history)⟩

/-- The words of all other pages are requested on both sides. -/
theorem fetched_of_not_mapped {address : UInt32} (unmapped : ¬ paged.table.Mapped address) :
    paged.EndAlike .running [] Aligned (· = ·) (Stepping.fetched perform paged.handle address)
      (Stepping.fetched perform paged.handle address) := by
  have fetches : paged.EndAlike .running [] Aligned (· = ·)
      (Stepping.fetch perform paged.handle address) (Stepping.fetch perform paged.handle address) := by
    intro world other alike
    obtain ⟨wrapper, employs, present, presentToo⟩ := alike.employed
    -- The page table is asked first on one side; it has nothing, and then both sides ask the host.
    have noPage : Stepping.pagedWord wrapper.engine world address = none := by
      rw [Stepping.pagedWord, employs.configuration, sound.pageTable]
      exact PageTable.fetch?_of_not_mapped unmapped
    have onNone : Stepping.pagedWord wrapper.unpaged.engine other address = none := rfl
    rw [Stepping.fetch_eq present, Stepping.fetch_eq presentToo, noPage, onNone]
    have asked := (executesAlike sound performs).ask [] (.fetch address)
    exact asked.bind_same (fun _ => .pure rfl) world other alike
  apply fetches.bind_same
  intro word
  refine .bind_same (.emit fun world other alike => ?_) fun _ => .pure rfl
  apply alike.record_of_history
  apply OmitsRequests.same _ alike.history
  rintro _ _ ⟨⟩
  exact unmapped

end

/-! ### Steps and runs -/

section

variable (sound : paged.Sound)

include sound

theorem fetched_alike {address : UInt32} (isAligned : Aligned address) (depth : Nat) :
    paged.EndAlike .running [] Aligned (· = ·)
      (Stepping.fetched (RecompilerAdapter.perform (depth + 1)) paged.handle address)
      (Stepping.fetched (RecompilerAdapter.perform (depth + 1)) paged.handle address) := by
  by_cases mapped : paged.table.Mapped address
  · exact fetched_of_mapped sound isAligned mapped depth
  · exact fetched_of_not_mapped sound (performs_perform (depth + 1)) mapped

/-- A step executes the same word, and leaves the program counter aligned. -/
theorem step_alike (depth : Nat) : paged.EndAlike .running [] Aligned (· = ·)
    (Stepping.step (RecompilerAdapter.perform (depth + 1)) paged.handle)
    (Stepping.step (RecompilerAdapter.perform (depth + 1)) paged.handle) := by
  have stepped : Stepping.step (RecompilerAdapter.perform (depth + 1)) paged.handle = (do
      let address ← Stepping.readRegister paged.handle pc
      let word ← Stepping.fetched (RecompilerAdapter.perform (depth + 1)) paged.handle address
      Stepping.execute (RecompilerAdapter.perform (depth + 1)) paged.handle address
        (Instruction.decode word) : Exec σ ν Bool) := by
    simp only [Stepping.step, Stepping.fetched, bind_assoc, pure_bind]
  rw [stepped]
  apply readCounter_alike.bind
  rintro address _ ⟨rfl, isAligned⟩
  apply (fetched_alike sound isAligned depth).bind_same
  intro word
  exact (executesAlike sound (performs_perform (depth + 1))).execute [] address _
    (isAligned.destination word)

theorem turn_alike (depth : Nat) : paged.EndAlike .running [] Aligned (· = ·)
    (Stepping.turn (RecompilerAdapter.perform (depth + 1)) paged.handle)
    (Stepping.turn (RecompilerAdapter.perform (depth + 1)) paged.handle) := by
  have performs : paged.Performs (RecompilerAdapter.perform (depth + 1)) := performs_perform (depth + 1)
  apply Stepping.turn_alike
  · apply engine_alike.bind
    rintro engine _ ⟨-, rfl⟩
    exact clearHalt_alike.bind_same fun _ => .pure rfl
  · intro request
    apply (executesAlike sound performs).lending []
    apply engine_alike.bind
    intro engine other engines
    exact forward_alike sound performs engines request
  · exact step_alike sound depth

theorem runEngine_alike (bound : Nat) : paged.EndAlike .running [] Aligned (· = ·)
    (Wrapper.runEngine (RecompilerAdapter.perform bound) bound paged.handle)
    (Wrapper.runEngine (RecompilerAdapter.perform bound) bound paged.handle) := by
  have stepping : paged.EndAlike .running [] Aligned (· = ·)
      (Stepping.run (RecompilerAdapter.perform bound) paged.handle bound)
      (Stepping.run (RecompilerAdapter.perform bound) paged.handle bound) := by
    cases bound with
    | zero => exact .throw fun _ _ alike => alike.stopped
    | succ depth =>
      exact Stepping.run_alike (fun _ _ alike => alike.stopped) (turn_alike sound depth) (depth + 1)
  intro world other alike
  obtain ⟨wrapper, employs, present, presentToo⟩ := alike.employed
  have mode : wrapper.unpaged.engine.mode = .stepping [] := employs.mode
  rw [Wrapper.runEngine, Exec.bind_of_ok (Exec.engine_of_present present),
    Exec.bind_of_ok (Exec.engine_of_present presentToo), employs.mode, mode]
  exact stepping world other alike

/-- Runs that are accepted end alike. -/
theorem run_alike {state : RunState} (resting : state ≠ .running) (bound : Nat) :
    Exec.Corresponds paged.Stopped (paged.Alike state [] Aligned) (paged.Alike .halted [] Aligned)
      (· = ·) (Wrapper.run (RecompilerAdapter.perform bound) bound paged.handle)
      (Wrapper.run (RecompilerAdapter.perform bound) bound paged.handle) := by
  apply wrapper_alike.bind
  rintro wrapper _ ⟨employs, rfl⟩
  have accepted : wrapper.state ≠ .running := employs.state ▸ resting
  have acceptedToo : wrapper.unpaged.state ≠ .running := accepted
  have data : wrapper.unpaged.userData = wrapper.userData := rfl
  rw [if_neg accepted, if_neg acceptedToo, data]
  apply setState_alike.bind_same
  intro _
  refine .bind_same (.emit fun _ _ alike => alike.record trivial) fun _ => ?_
  refine .bind_same (.emit fun _ _ alike => alike.record trivial) fun _ => ?_
  apply (runEngine_alike sound bound).bind_same
  intro _
  apply setState_alike.bind_same
  intro _
  refine .bind_same (.emit fun _ _ alike => alike.record trivial) fun _ => ?_
  refine .bind_same (.emit fun _ _ alike => alike.record trivial) fun _ => .pure rfl

omit sound in
theorem schedule_alike {state : RunState} {counters : UInt32 → Prop}
    (script : Option (List EngineOperation)) :
    paged.EndAlike state lent counters (· = ·) (Wrapper.schedule script) (Wrapper.schedule script) := by
  cases script with
  | none => exact .pure rfl
  | some operations => exact fun _ _ alike => ⟨rfl, { alike with script := rfl }⟩

theorem perform_run_alike {state : RunState} (resting : state ≠ .running) (bound : Nat)
    (surface : Surface) (script : Option (List EngineOperation)) :
    Exec.Corresponds paged.Stopped (paged.Alike state [] Aligned) (paged.Alike .halted [] Aligned)
      (· = ·) (RecompilerAdapter.perform bound surface paged.handle (.run script))
      (RecompilerAdapter.perform bound surface paged.handle (.run script)) := by
  cases bound with
  | zero => exact .throw fun _ _ alike => alike.stopped
  | succ bound =>
    rw [perform_succ]
    refine .bind_same (.emit fun _ _ alike => alike.record trivial) fun _ => ?_
    have performed : Exec.Corresponds paged.Stopped (paged.Alike state [] Aligned)
        (paged.Alike .halted [] Aligned) (· = ·)
        (Wrapper.performWith (RecompilerAdapter.perform bound) bound surface paged.handle (.run script))
        (Wrapper.performWith (RecompilerAdapter.perform bound) bound surface paged.handle
          (.run script)) := by
      apply (schedule_alike script).bind_same
      intro _
      apply (run_alike sound resting bound).bind_same
      intro finished
      cases finished with
      | true => exact .pure rfl
      | false =>
        cases surface with
        | direct => exact .pure rfl
        | foreign => exact .throw fun _ _ alike => alike.stopped
    apply performed.bind_same
    intro reply
    exact .bind_same (.emit fun _ _ alike => alike.record trivial) fun _ => .pure rfl

end

end PagedEngine

end RecompilerAdapter
