/-
Module: RecompilerAdapter.Proofs.ResumedRuns
Purpose: Stopping and resuming. An engine is run over and over, until its quota is used up or a halt is
  requested; in between quotas are refilled and halts are requested. Its counterpart runs once, with a
  quota for all steps that the interrupted engine takes. Each turn of the interrupted run loop is a turn
  of the counterpart's, or nothing to it; so both guests go through the same.
Trusted boundary: none
Main exports: Cut, Cut.execAll, Counterparts.Passes, Counterparts.turn_passes,
  Counterparts.perform_run_passes
-/
import RecompilerAdapter.Proofs.EncodedSteps
import RecompilerAdapter.Proofs.InterruptedEngines

namespace RecompilerAdapter

variable {σ ν ω α β : Type}

/-! ### Accepted runs -/

/-- The world in which the engine of an accepted run begins to work. The counterpart does not see
that it was entered. -/
def World.entered (world : World σ ν) (surface : Surface) (handle : Handle)
    (script : Option (List EngineOperation)) (wrapper : Wrapper σ ν) : World σ ν :=
  (((world.record (.acting surface handle (.run script))).scheduled script).place handle
    { wrapper with state := .running }).recordAll
      [.runEntered handle, .log (.engineRun wrapper.userData)]

/-- What is done when the engine of an accepted run has stopped. -/
def Wrapper.leave (surface : Surface) (handle : Handle) (script : Option (List EngineOperation))
    (data : UserData) : Exec σ ν Reply := do
  Exec.setState handle .halted
  Exec.emit (.runLeft handle)
  Exec.emit (.log (.engineReturned data))
  Exec.emit (.acted surface handle (.run script) .finished)
  return .finished

/-- A stepping engine's run that is accepted. -/
theorem perform_run_of_resting {world : World σ ν} {handle : Handle} {wrapper : Wrapper σ ν}
    {lent : List EnginePart} (present : world.wrappers.get? handle = some wrapper)
    (resting : wrapper.state ≠ .running) (mode : wrapper.engine.mode = .stepping lent) (bound : Nat)
    (surface : Surface) (script : Option (List EngineOperation)) :
    perform (bound + 1) surface handle (.run script) world = (do
      Stepping.run (perform bound) handle bound
      Wrapper.leave surface handle script wrapper.userData)
        (world.entered surface handle script wrapper) := by
  have begins : ((world.record (.acting surface handle (.run script))).scheduled
      script).wrappers.get? handle = some wrapper := by
    rw [World.scheduled_wrappers, World.wrappers_record, present]
  have entered : (world.entered surface handle script wrapper).wrappers.get? handle =
      some { wrapper with state := .running } := by
    rw [World.entered, World.wrappers_recordAll, World.get?_place, if_pos rfl]
  rw [perform_succ, Performer.recording, Exec.bind_of_ok (Exec.emit_apply _ _)]
  simp only [Wrapper.performWith, Wrapper.run, Wrapper.runEngine, Exec.setState, bind_assoc]
  rw [Exec.bind_of_ok (Wrapper.schedule_apply script _),
    Exec.bind_of_ok (Exec.wrapper_of_present begins), if_neg resting]
  simp only [bind_assoc]
  rw [Exec.bind_of_ok (Exec.modifyWrapper_of_present begins _),
    Exec.bind_of_ok (Exec.emit_apply _ _), Exec.bind_of_ok (Exec.emit_apply _ _)]
  refine (Exec.bind_of_ok (Exec.engine_of_present entered)).trans ?_
  simp only [mode]
  rfl

/-- A run inside a run of the same wrapper is rejected, which is told and is all that happens. -/
theorem perform_run_of_running {world after : World σ ν} {handle : Handle} {wrapper : Wrapper σ ν}
    {bound : Nat} {surface : Surface} {script : Option (List EngineOperation)} {reply : Reply}
    (present : world.wrappers.get? handle = some wrapper) (running : wrapper.state = .running)
    (completes : perform (bound + 1) surface handle (.run script) world = .ok reply after) :
    after = ((world.record (.acting surface handle (.run script))).scheduled script).record
      (.acted surface handle (.run script) .alreadyRunning) := by
  have begins : ((world.record (.acting surface handle (.run script))).scheduled
      script).wrappers.get? handle = some wrapper := by
    rw [World.scheduled_wrappers, World.wrappers_record, present]
  rw [perform_succ, Performer.recording, Exec.bind_of_ok (Exec.emit_apply _ _)] at completes
  simp only [Wrapper.performWith, Wrapper.run, bind_assoc] at completes
  rw [Exec.bind_of_ok (Wrapper.schedule_apply script _),
    Exec.bind_of_ok (Exec.wrapper_of_present begins), if_pos running] at completes
  cases surface with
  | direct =>
    cases completes
    rfl
  | foreign => cases completes

namespace Counterparts

/-! ### Requests that a guest does not notice -/

/-- What holds while an engine makes a request that is nothing to the guest, depending on the parts
that are lent out. -/
structure Attends (handle : Handle) (configuration : EngineConfiguration σ ν)
    (holds : List EnginePart → World σ ν → Prop) : Prop where
  bound : ∀ lent world, holds lent world →
    world.slots.get? configuration.callbacks.slot = some handle
  present : ∀ lent world, holds lent world → ∃ wrapper, world.wrappers.get? handle = some wrapper ∧
    wrapper.engine.configuration = configuration ∧ wrapper.engine.mode = .stepping lent
  record : ∀ lent world event, holds lent world → event.ofGuest = false →
    holds lent (world.record event)
  lend : ∀ lent lends world wrapper, holds lent world → world.wrappers.get? handle = some wrapper →
    holds lends (world.place handle
      { wrapper with engine := { wrapper.engine with mode := .stepping lends } })

namespace Attends

variable {handle : Handle} {configuration : EngineConfiguration σ ν} {perform : Performer σ ν}
  {before after : List EnginePart → World σ ν → Prop} {request : HostRequest}
  {entry : Handle → Activity σ ν request.Answer} {answers : request.Answer → Prop}
  {fails : Stop → World σ ν → Prop} {lent : List EnginePart} {world : World σ ν}
  (attends : Attends handle configuration before) (attendsAfter : Attends handle configuration after)
  (timing : request.isTiming = true)
  (isEntry : configuration.callbacks.table.entry? request = some entry)
  (body : ∀ lent world, before lent world → ((entry handle).exec perform).Ensures world
    (fun answer later => answers answer ∧ after lent later) fails)

include attends attendsAfter timing isEntry body

/-- A request about ticks goes to its entry, and what the entry establishes still holds when it has
been answered: the events that are told around the call are none of the guest's. -/
theorem forward (holds : before lent world) :
    (configuration.callbacks.forward perform request).Ensures world
      (fun answer later => answers answer ∧ after lent later) fails := by
  have hidden {event : Event ν} (kind : event.ofGuest = !request.isTiming) : event.ofGuest = false := by
    rw [kind, timing]
    rfl
  unfold CallbackBridge.forward
  rw [isEntry]
  apply Exec.Ensures.emit_bind
  have called := attends.record _ _ (.calling configuration.callbacks.slot request (some entry).isSome)
    holds (hidden rfl)
  apply Exec.Ensures.after (Exec.boundHandle_of_bound (attends.bound _ _ called))
  apply Exec.Ensures.emit_bind
  have requested := attends.record _ _ (.requested handle request) called (hidden rfl)
  apply (body _ _ requested).bind
  rintro answer later ⟨agrees, ended⟩
  apply Exec.Ensures.emit_bind
  exact ⟨agrees, attendsAfter.record _ _ _ ended (hidden rfl)⟩

/-- The engine waits for it with its callbacks lent out, and gets them back. -/
theorem ask (holds : before [] world) :
    (Stepping.ask perform handle request).Ensures world
      (fun answer later => answers answer ∧ after [] later) fails := by
  obtain ⟨wrapper, present, -, mode⟩ := attends.present _ _ holds
  unfold Stepping.ask Stepping.lending
  apply Exec.Ensures.after (Exec.engine_of_present present)
  simp only [Stepping.lentParts, mode, List.contains_nil, Bool.false_eq_true, if_false]
  apply Exec.Ensures.after (Exec.modifyEngine_of_present present _)
  simp only [Stepping.setLentParts, mode]
  have lent := attends.lend _ [.callbacks] _ _ holds present
  obtain ⟨lender, presentToo, configured, -⟩ := attends.present _ _ lent
  apply Exec.Ensures.bind
  · apply Exec.Ensures.after (Exec.engine_of_present presentToo)
    rw [configured]
    exact attends.forward attendsAfter timing isEntry body lent
  · rintro answer later ⟨agrees, ended⟩
    obtain ⟨borrower, presentThen, -, modeThen⟩ := attendsAfter.present _ _ ended
    apply Exec.Ensures.after (Exec.modifyEngine_of_present presentThen _)
    simp only [modeThen, List.erase_cons_head]
    exact ⟨agrees, attendsAfter.lend _ [] _ _ ended presentThen⟩

end Attends

variable {pair : Counterparts σ ν ω} {start begin : World σ ν} {left done : Nat}
  {lent lentToo : List EnginePart} {world after other : World σ ν}

/-- The interrupted engine may ask, and its counterpart does not notice. -/
theorem attends_world (indifferent : pair.Indifferent) (left done : Nat) (other : World σ ν) :
    Attends pair.handle pair.interrupted
      fun lent world => pair.Level start begin left done lent lentToo world other where
  bound lent world level := by
    rw [indifferent.slot]
    exact level.bound
  present lent world level := by
    obtain ⟨wrapper, copy, present, -, same, mode, -⟩ := level.wrapper
    exact ⟨wrapper, present, same.configuration, mode⟩
  record lent world event level hidden := level.record_world hidden
  lend lent lends world wrapper level present := by
    obtain ⟨found, copy, isFound, presentToo, same, -, -⟩ := level.wrapper
    obtain rfl : found = wrapper := Option.some.inj (isFound.symm.trans present)
    exact level.place_world presentToo { same with } rfl

/-- The counterpart may ask, and the interrupted engine does not notice. -/
theorem attends_other (indifferent : pair.Indifferent) (left done : Nat) (world : World σ ν) :
    Attends pair.handle pair.uninterrupted
      fun lentToo other => pair.Level start begin left done lent lentToo world other where
  bound lentToo other level := by
    rw [indifferent.slotToo]
    exact level.boundToo
  present lentToo other level := by
    obtain ⟨wrapper, copy, -, presentToo, same, -, modeToo⟩ := level.wrapper
    exact ⟨copy, presentToo, same.counterpart, modeToo⟩
  record lentToo other event level hidden := level.record_other hidden
  lend lentToo lends other copy level presentToo := by
    obtain ⟨wrapper, found, present, isFound, same, -, -⟩ := level.wrapper
    obtain rfl : found = copy := Option.some.inj (isFound.symm.trans presentToo)
    exact level.place_other present { same with } rfl

/-- A silent entry is asked and the guest does not notice. -/
theorem ask_silent (indifferent : pair.Indifferent) (bound : Nat) (request : HostRequest)
    {entry : Handle → Activity σ ν request.Answer} (timing : request.isTiming = true)
    (isEntry : pair.interrupted.callbacks.table.entry? request = some entry)
    (silent : pair.Silent (entry pair.handle))
    (level : pair.Level start begin left done [] lentToo world other) :
    (Stepping.ask (perform (bound + 1)) pair.handle request).Ensures world
      (fun _ after => pair.Level start begin left done [] lentToo after other) fun _ _ => True := by
  have attends : Attends pair.handle pair.interrupted fun lent world =>
      pair.Level start begin left done lent lentToo world other :=
    attends_world indifferent left done other
  have asked : (Stepping.ask (perform (bound + 1)) pair.handle request).Ensures world
      (fun _ after => True ∧ pair.Level start begin left done [] lentToo after other)
      fun _ _ => True := by
    refine attends.ask attends timing isEntry ?_ level
    intro lent world level
    rw [silent.runless.exec_perform]
    apply ((silent.unnoticed _ _ _ level.toSameGuest).and (silent.runless.undisturbing world)).mono
    · exact fun _ later ended => ⟨trivial, level.advance ended.1 ended.2 (.refl other)⟩
    · exact fun _ _ _ => trivial
  exact asked.mono (fun _ _ ended => ended.2) fun _ _ _ => trivial

/-- The counterpart's host is asked and answers, and the guest does not notice. -/
theorem ask_accounts (indifferent : pair.Indifferent) (bound : Nat) (request : HostRequest)
    {entry : Handle → Activity σ ν request.Answer} {answers : request.Answer → Prop}
    {remaining : Nat} (timing : request.isTiming = true)
    (isEntry : pair.uninterrupted.callbacks.table.entry? request = some entry)
    (accounts : pair.Accounts left remaining answers (entry pair.handle))
    (level : pair.Level start begin left done lent [] world other) :
    ∃ answer later, Stepping.ask (perform (bound + 1)) pair.handle request other = .ok answer later ∧
      answers answer ∧ pair.Level start begin remaining done lent [] world later := by
  have attends left : Attends pair.handle pair.uninterrupted fun lentToo other =>
      pair.Level start begin left done lent lentToo world other :=
    attends_other indifferent left done world
  apply Exec.Ensures.completes
  refine (attends left).ask (attends remaining) timing isEntry ?_ level
  intro lent other level
  rw [accounts.runless.exec_perform]
  apply ((accounts.completes _ _ level.toSameGuest).and (accounts.runless.undisturbing other)).mono
  · exact fun _ later ended => ⟨ended.1.1, level.advance ended.1.2 (.refl world) ended.2⟩
  · exact fun _ _ ended => ended.1

/-- A halt request to the interrupted engine is taken, and the guest does not notice. -/
theorem takeHalt_world {halted : Bool}
    (level : pair.Level start begin left done lent lentToo world other)
    (takes : Stepping.takeHalt pair.handle world = .ok halted after) :
    pair.Level start begin left done lent lentToo after other := by
  obtain ⟨wrapper, copy, present, presentToo, same, mode, -⟩ := level.wrapper
  rw [Stepping.takeHalt, Exec.bind_of_ok (Exec.engine_of_present present),
    Exec.bind_of_ok (Exec.modifyEngine_of_present present _)] at takes
  cases takes
  exact level.place_world presentToo { same with } mode

/-- No halt is requested of the counterpart. -/
theorem takeHalt_other (level : pair.Level start begin left done lent lentToo world other) :
    ∃ later, Stepping.takeHalt pair.handle other = .ok false later ∧
      pair.Level start begin left done lent lentToo world later := by
  obtain ⟨wrapper, copy, present, presentToo, same, -, modeToo⟩ := level.wrapper
  rw [Stepping.takeHalt, Exec.bind_of_ok (Exec.engine_of_present presentToo),
    Exec.bind_of_ok (Exec.modifyEngine_of_present presentToo _), same.unhalted]
  exact ⟨_, rfl, level.place_other present { same with unhalted := rfl } modeToo⟩

/-! ### Turns and runs -/

/-- What happened to the interrupted engine between two worlds is `count` steps to the guest: the
counterpart can take them, and with ticks for them they are `count` turns of its run loop. -/
structure Passes (pair : Counterparts σ ν ω) (start begin : World σ ν) (bound count : Nat)
    (world after : World σ ν) : Prop where
  steps : ∀ left done other, pair.Level start begin left done [] [] world other →
    ∃ later, pair.Level start begin left (done + count) [] [] after later
  turns : ∀ left done other, pair.Level start begin (left + count) done [] [] world other →
    ∃ later, pair.Level start begin left (done + count) [] [] after later ∧
      ∀ rest, Stepping.run (perform (bound + 1)) pair.handle (count + rest) other =
        Stepping.run (perform (bound + 1)) pair.handle rest later

namespace Passes

variable {bound otherBound count further : Nat} {middle : World σ ν}

/-- What the guest does not notice at all. -/
theorem unnoticed (unnoticed : ∀ left done other,
    pair.Level start begin left done [] [] world other →
      pair.Level start begin left done [] [] after other) :
    pair.Passes start begin bound 0 world after where
  steps left done other level := ⟨other, unnoticed left done other level⟩
  turns left done other level :=
    ⟨other, unnoticed left done other level, fun rest => by rw [Nat.zero_add]⟩

/-- Passages follow one another, and their steps add up. -/
theorem trans (first : pair.Passes start begin bound count world middle)
    (second : pair.Passes start begin bound further middle after) :
    pair.Passes start begin bound (count + further) world after where
  steps left done other level := by
    obtain ⟨between, middleLevel⟩ := first.steps left done other level
    rw [← Nat.add_assoc]
    exact second.steps left (done + count) between middleLevel
  turns left done other level := by
    rw [Nat.add_comm count further, ← Nat.add_assoc] at level
    obtain ⟨between, middleLevel, turns⟩ := first.turns (left + further) done other level
    obtain ⟨later, lastLevel, further⟩ := second.turns left (done + count) between middleLevel
    rw [← Nat.add_assoc]
    refine ⟨later, lastLevel, fun rest => ?_⟩
    rw [Nat.add_assoc, turns, further]

end Passes

section

variable (indifferent : pair.Indifferent) {bound : Nat} (otherBound : Nat)

include indifferent

/-- The counterpart takes a turn for a step of the interrupted engine, if a tick is left for it. -/
theorem turn_other {implemented : Bool} {asked stepped told : World σ ν}
    (steps : Stepping.step (perform (bound + 1)) pair.handle asked = .ok implemented stepped)
    (tells : Stepping.ask (perform (bound + 1)) pair.handle (.addTicks 1) stepped = .ok () told)
    (level : pair.Level start begin (left + 1) done [] [] asked other) :
    ∃ later, Stepping.turn (perform (otherBound + 1)) pair.handle other = .ok true later ∧
      pair.Level start begin left (done + 1) [] [] told later := by
  obtain ⟨taken, takes, level⟩ := takeHalt_other level
  obtain ⟨remaining, askedToo, asks, isLeft, level⟩ :=
    ask_accounts indifferent otherBound .ticksRemaining rfl rfl (indifferent.tells (left + 1)) level
  obtain ⟨_, steppedToo, stepsToo, rfl, level⟩ :=
    (indifferent.step bound otherBound).completes level steps
  have level := (ask_silent indifferent bound (.addTicks 1) rfl rfl (indifferent.addTicks 1)
    level).of_completed tells
  obtain ⟨_, later, tellsToo, -, level⟩ :=
    ask_accounts indifferent otherBound (.addTicks 1) rfl rfl (indifferent.counts left 1) level
  have someLeft : remaining ≠ 0 := by
    rintro rfl
    cases isLeft
  refine ⟨later, ?_, level⟩
  rw [Stepping.turn, Exec.bind_of_ok takes, if_neg Bool.false_ne_true, Exec.bind_of_ok asks,
    if_neg someLeft, Exec.bind_of_ok stepsToo, Exec.bind_of_ok tellsToo]
  rfl

/-- A turn of the interrupted engine's run loop is a turn of the counterpart's, or nothing to it. It
is nothing if the run is over, because of a halt or of the quota. -/
theorem turn_passes {goesOn : Bool}
    (completes : Stepping.turn (perform (bound + 1)) pair.handle world = .ok goesOn after) :
    ∃ count, pair.Passes start begin otherBound count world after := by
  obtain ⟨halted, taken, takes, completes⟩ := Exec.of_bind_ok completes
  -- A halt that is taken ends the run early. The counterpart has not heard of it and goes on later.
  cases halted with
  | true =>
    cases completes
    exact ⟨0, .unnoticed fun _ _ _ level => takeHalt_world level takes⟩
  | false =>
    obtain ⟨remaining, asked, asks, completes⟩ := Exec.of_bind_ok completes
    have unnoticed left done other (level : pair.Level start begin left done [] [] world other) :
        pair.Level start begin left done [] [] asked other :=
      (ask_silent indifferent bound .ticksRemaining rfl rfl indifferent.ticksRemaining
        (takeHalt_world level takes)).of_completed asks
    by_cases noneLeft : remaining = 0
    · rw [if_pos noneLeft] at completes
      cases completes
      exact ⟨0, .unnoticed unnoticed⟩
    · rw [if_neg noneLeft] at completes
      obtain ⟨implemented, stepped, steps, completes⟩ := Exec.of_bind_ok completes
      obtain ⟨_, told, tells, completes⟩ := Exec.of_bind_ok completes
      cases completes
      refine ⟨1, fun left done other level => ?_, fun left done other level => ?_⟩
      · obtain ⟨_, later, -, -, level⟩ := (indifferent.step bound otherBound).completes
          (unnoticed left done other level) steps
        exact ⟨later, (ask_silent indifferent bound (.addTicks 1) rfl rfl (indifferent.addTicks 1)
          level).of_completed tells⟩
      · obtain ⟨later, turns, level⟩ := turn_other indifferent otherBound steps tells
          (unnoticed (left + 1) done other level)
        refine ⟨later, level, fun rest => ?_⟩
        rw [Nat.add_comm 1 rest, Stepping.run, Exec.bind_of_ok turns, if_pos rfl]

/-- The run loop of the interrupted engine, however many turns it takes: the counterpart passes
through the same steps. By induction on the turns. -/
theorem run_passes (turns : Nat)
    (completes : Stepping.run (perform (bound + 1)) pair.handle turns world = .ok () after) :
    ∃ count, pair.Passes start begin otherBound count world after := by
  induction turns generalizing world with
  | zero => cases completes
  | succ turns ih =>
    obtain ⟨goesOn, turned, takesTurn, completes⟩ := Exec.of_bind_ok completes
    obtain ⟨count, passes⟩ : ∃ count, pair.Passes start begin otherBound count world turned :=
      turn_passes indifferent otherBound takesTurn
    cases goesOn with
    | false =>
      cases completes
      exact ⟨count, passes⟩
    | true =>
      obtain ⟨further, rest⟩ := ih completes
      exact ⟨count + further, passes.trans rest⟩

/-- The counterpart's run is over once no ticks are left. -/
theorem run_other (level : pair.Level start begin 0 done [] [] world other) (turns : Nat) :
    ∃ later, Stepping.run (perform (otherBound + 1)) pair.handle (turns + 1) other = .ok () later ∧
      pair.Level start begin 0 done [] [] world later := by
  obtain ⟨taken, takes, level⟩ := takeHalt_other level
  obtain ⟨remaining, later, asks, isLeft, level⟩ :=
    ask_accounts indifferent otherBound .ticksRemaining rfl rfl (indifferent.tells 0) level
  have noneLeft : remaining = 0 := UInt64.toNat_inj.mp isLeft
  have turn : Stepping.turn (perform (otherBound + 1)) pair.handle other = .ok false later := by
    rw [Stepping.turn, Exec.bind_of_ok takes, if_neg Bool.false_ne_true, Exec.bind_of_ok asks,
      if_pos noneLeft]
    rfl
  refine ⟨later, ?_, level⟩
  rw [Stepping.run, Exec.bind_of_ok turn, if_neg Bool.false_ne_true]
  rfl

end

end Counterparts

/-! ### Cut runs -/

/-- A part of how an engine is driven: it runs once more, it is requested to halt, or its host
changes its own state, such as its quota. -/
inductive Cut (σ : Type) where
  | run (surface : Surface) (script : Option (List EngineOperation))
  | halt (surface : Surface)
  | refill (update : σ → σ)

namespace Cut

/-- Carries out one part. -/
def exec (perform : Performer σ ν) (handle : Handle) : Cut σ → Exec σ ν Unit
  | run surface script => do
    let _ ← perform surface handle (.run script)
    return ()
  | halt surface => do
    let _ ← perform surface handle .halt
    return ()
  | refill update => (Activity.modifyOwn update).exec perform

/-- Carries out all parts one after the other. -/
def execAll (perform : Performer σ ν) (handle : Handle) : List (Cut σ) → Exec σ ν Unit
  | [] => return ()
  | cut :: cuts => do
    cut.exec perform handle
    execAll perform handle cuts

end Cut

namespace Counterparts

variable {pair : Counterparts σ ν ω} {start begin : World σ ν} {left done : Nat}
  {lent lentToo : List EnginePart} {world after other : World σ ν}

section

variable (level : pair.Level start begin left done lent lentToo world other)
  {surface : Surface} {script : Option (List EngineOperation)} {wrapper copy : Wrapper σ ν}

include level

/-- A script that is handed over has no influence on a stepping engine. -/
theorem Level.scheduled_world (script : Option (List EngineOperation)) :
    pair.Level start begin left done lent lentToo (world.scheduled script) other := by
  cases script with
  | none => exact level
  | some operations =>
    exact ⟨⟨⟨level.bound, level.boundToo, level.shared, level.bystanders⟩, level.wrappers⟩,
      level.mode, level.modeToo, level.events, level.fetched⟩

/-- So it is on the other side. -/
theorem Level.scheduled_other (script : Option (List EngineOperation)) :
    pair.Level start begin left done lent lentToo world (other.scheduled script) := by
  cases script with
  | none => exact level
  | some operations =>
    exact ⟨⟨⟨level.bound, level.boundToo, level.shared, level.bystanders⟩, level.wrappers⟩,
      level.mode, level.modeToo, level.events, level.fetched⟩

/-- Entering a run is nothing to the guest, so one side may do it alone. -/
theorem Level.entered_world (present : world.wrappers.get? pair.handle = some wrapper) :
    pair.Level start begin left done lent lentToo
      (world.entered surface pair.handle script wrapper) other := by
  obtain ⟨found, copy, isFound, presentToo, same, mode, -⟩ := level.wrapper
  obtain rfl : found = wrapper := Option.some.inj (isFound.symm.trans present)
  have running : pair.SameWrapper { found with state := .running } copy := { same with }
  have acting : (Event.acting surface pair.handle (.run script) : Event ν).ofGuest = false := rfl
  have placed := ((level.record_world acting).scheduled_world script).place_world presentToo running
    mode
  exact (placed.record_world rfl).record_world rfl

/-- And the other side may do it alone. -/
theorem Level.entered_other (presentToo : other.wrappers.get? pair.handle = some copy) :
    pair.Level start begin left done lent lentToo world
      (other.entered surface pair.handle script copy) := by
  obtain ⟨wrapper, found, present, isFound, same, -, modeToo⟩ := level.wrapper
  obtain rfl : found = copy := Option.some.inj (isFound.symm.trans presentToo)
  have running : pair.SameWrapper wrapper { found with state := .running } := { same with }
  have acting : (Event.acting surface pair.handle (.run script) : Event ν).ofGuest = false := rfl
  have placed := ((level.record_other acting).scheduled_other script).place_other present running
    modeToo
  exact (placed.record_other rfl).record_other rfl

/-- So is leaving it on the one side. -/
theorem Level.leave_world {data : UserData} {reply : Reply}
    (leaves : Wrapper.leave surface pair.handle script data world = .ok reply after) :
    pair.Level start begin left done lent lentToo after other := by
  obtain ⟨wrapper, copy, present, presentToo, same, mode, -⟩ := level.wrapper
  rw [Wrapper.leave, Exec.setState, Exec.bind_of_ok (Exec.modifyWrapper_of_present present _)] at leaves
  cases leaves
  have halted : pair.SameWrapper { wrapper with state := .halted } copy := { same with }
  have placed := level.place_world presentToo halted mode
  exact ((placed.record_world rfl).record_world rfl).record_world rfl

/-- And on the other side, where it always completes. -/
theorem Level.leave_other (data : UserData) :
    ∃ last, Wrapper.leave surface pair.handle script data other = .ok .finished last ∧
      pair.Level start begin left done lent lentToo world last := by
  obtain ⟨wrapper, copy, present, presentToo, same, -, modeToo⟩ := level.wrapper
  have halted : pair.SameWrapper wrapper { copy with state := .halted } := { same with }
  have placed := level.place_other present halted modeToo
  rw [Wrapper.leave, Exec.setState, Exec.bind_of_ok (Exec.modifyWrapper_of_present presentToo _)]
  exact ⟨_, rfl, ((placed.record_other rfl).record_other rfl).record_other rfl⟩

end

section

variable (indifferent : pair.Indifferent) {bound : Nat} (otherBound : Nat)

include indifferent

/-- A run of the interrupted engine is some turns of the counterpart's run loop. Entering and
leaving it go unnoticed, and so does a rejected run. -/
theorem perform_run_passes {surface : Surface} {script : Option (List EngineOperation)}
    {reply : Reply} (level : pair.Level start begin left done [] [] world other)
    (completes : perform bound surface pair.handle (.run script) world = .ok reply after) :
    ∃ count, pair.Passes start begin otherBound count world after := by
  obtain ⟨wrapper, copy, present, -, -, mode, -⟩ := level.wrapper
  cases bound with
  | zero => cases completes
  | succ bound =>
    -- Inside its own run the call is rejected, which the guest cannot notice.
    by_cases running : wrapper.state = .running
    · have rejected := perform_run_of_running present running completes
      refine ⟨0, .unnoticed fun _ _ _ level => ?_⟩
      rw [rejected]
      exact ((level.record_world rfl).scheduled_world script).record_world rfl
    · rw [perform_run_of_resting present running mode] at completes
      obtain ⟨_, worked, works, leaves⟩ := Exec.of_bind_ok completes
      cases bound with
      | zero => cases works
      | succ bound =>
        obtain ⟨count, passes⟩ : ∃ count, pair.Passes start begin otherBound count _ worked :=
          run_passes indifferent otherBound (bound + 1) works
        have entering : pair.Passes start begin otherBound 0 world
            (world.entered surface pair.handle script wrapper) :=
          .unnoticed fun _ _ _ level => level.entered_world present
        have leaving : pair.Passes start begin otherBound 0 worked after :=
          .unnoticed fun _ _ _ level => level.leave_world leaves
        exact ⟨_, (entering.trans passes).trans leaving⟩

/-- A part of how the interrupted engine is driven is some turns of the counterpart's run loop. Only
runs advance the guest; halts and refilled quotas do not. -/
theorem cut_passes {cut : Cut σ} (level : pair.Level start begin left done [] [] world other)
    (keeps : ∀ update, cut = .refill update → ∀ own, pair.view (update own) = pair.view own)
    (completes : cut.exec (perform bound) pair.handle world = .ok () after) :
    ∃ count, pair.Passes start begin otherBound count world after := by
  cases cut with
  | run surface script =>
    obtain ⟨reply, ran, runs, completes⟩ := Exec.of_bind_ok completes
    cases completes
    exact perform_run_passes indifferent otherBound level runs
  | halt surface =>
    obtain ⟨reply, halted, halts, completes⟩ := Exec.of_bind_ok completes
    cases completes
    cases bound with
    | zero => cases halts
    | succ bound =>
      refine ⟨0, .unnoticed fun left done other level => ?_⟩
      obtain ⟨later, requests, same⟩ := level.toSameGuest.halt bound surface
      rw [requests] at halts
      cases halts
      have noRun (script) : Action.halt ≠ .run script := nofun
      have undisturbed := (perform_undisturbing noRun bound surface pair.handle world).of_completed
        requests
      exact level.advance same undisturbed (.refl other)
  | refill update =>
    cases completes
    refine ⟨0, .unnoticed fun left done other level => ?_⟩
    have view := (keeps update rfl world.shared.own).trans level.shared.view
    exact level.share { level.shared with view := view }

/-- By induction on the cuts: each of them refills, requests or runs, and the counterpart has gone
through the same steps in the end. -/
theorem cuts_passes {cuts : List (Cut σ)}
    (level : pair.Level start begin left done [] [] world other)
    (keeps : ∀ update, .refill update ∈ cuts → ∀ own, pair.view (update own) = pair.view own)
    (completes : Cut.execAll (perform bound) pair.handle cuts world = .ok () after) :
    ∃ count, pair.Passes start begin otherBound count world after := by
  induction cuts generalizing world left done other with
  | nil =>
    cases completes
    exact ⟨0, .unnoticed fun _ _ _ level => level⟩
  | cons cut cuts ih =>
    obtain ⟨_, middle, first, completes⟩ := Exec.of_bind_ok completes
    obtain ⟨count, passes⟩ : ∃ count, pair.Passes start begin otherBound count world middle := by
      apply cut_passes indifferent otherBound level _ first
      rintro update rfl
      exact keeps update (.head cuts)
    obtain ⟨between, later⟩ := passes.steps left done other level
    obtain ⟨further, rest⟩ := ih later (fun update member => keeps update (.tail cut member)) completes
    exact ⟨count + further, passes.trans rest⟩

end

/-! ### The comparison -/

/-- An engine about to be driven, and its counterpart about to run with this quota. No part of
either is lent out, and the counterpart's run will be accepted. -/
structure Ready (pair : Counterparts σ ν ω) (quota : Nat) (world other : World σ ν) : Prop
    extends pair.SameGuest quota world other where
  idle : world.mode? pair.handle = some (.stepping [])
  idleToo : other.mode? pair.handle = some (.stepping [])
  resting : ∀ copy, other.wrappers.get? pair.handle = some copy → copy.state ≠ .running

end Counterparts

/-- Stopping and resuming is transparent to the guest. However an engine is driven by runs, refilled
quotas and halt requests, of the caller or of callbacks, if it takes `count` steps, then its
counterpart takes them in one run with that quota and without halts: the guests go through the same
events, and in the end all registers, words and the memory are the same. -/
theorem transparentInterruptions {pair : Counterparts σ ν ω} (indifferent : pair.Indifferent)
    {world other final : World σ ν} {count bound : Nat} {cuts : List (Cut σ)}
    (ready : pair.Ready count world other)
    (keeps : ∀ update, .refill update ∈ cuts → ∀ own, pair.view (update own) = pair.view own)
    (driven : Cut.execAll (perform bound) pair.handle cuts world = .ok () final)
    (steps : fetches final.history = fetches world.history + count) {depth : Nat}
    (deep : count + 2 ≤ depth) (surface : Surface) (script : Option (List EngineOperation)) :
    ∃ last, perform depth surface pair.handle (.run script) other = .ok .finished last ∧
      (∃ events, guestEvents final.history = guestEvents world.history ++ events ∧
        guestEvents last.history = guestEvents other.history ++ events) ∧
      pair.SameGuest 0 final last := by
  obtain ⟨extra, rfl⟩ := Nat.exists_eq_add_of_le deep
  have level : pair.Level world other (0 + count) 0 [] [] world other := by
    rw [Nat.zero_add]
    exact ⟨ready.toSameGuest, ready.idle, ready.idleToo, ⟨[], by simp, by simp⟩, rfl⟩
  obtain ⟨wrapper, copy, -, presentToo, -, -, modeToo⟩ := level.wrapper
  obtain ⟨taken, passes⟩ : ∃ taken, pair.Passes world other (count + extra) taken world final :=
    Counterparts.cuts_passes indifferent _ level keeps driven
  -- The number of fetches tells how many steps were taken, and so that the quota was exactly for them.
  obtain ⟨_, stepped⟩ := passes.steps _ _ other level
  obtain rfl : taken = count := by
    have fetched := stepped.fetched
    omega
  have entered : pair.Level world other (0 + taken) 0 [] [] world
      (other.entered surface pair.handle script copy) := level.entered_other presentToo
  obtain ⟨later, level, turns⟩ := passes.turns 0 0 _ entered
  obtain ⟨ended, ends, level⟩ := Counterparts.run_other indifferent (taken + extra) level extra
  obtain ⟨last, leaves, level⟩ := level.leave_other copy.userData
  refine ⟨last, ?_, level.events, level.toSameGuest⟩
  have runs : Stepping.run (perform (taken + extra + 1)) pair.handle (taken + extra + 1)
      (other.entered surface pair.handle script copy) = .ok () ended :=
    (turns (extra + 1)).trans ends
  rw [show taken + 2 + extra = taken + extra + 1 + 1 by omega,
    perform_run_of_resting presentToo (ready.resting copy presentToo) modeToo, Exec.bind_of_ok runs]
  exact leaves

/-! ### A host that halts its engine -/

/-- The state of a host that counts supervisor calls and ticks. An impatient host requests a halt at
every supervisor call. -/
structure Tally where
  calls : Nat
  ticks : UInt64
  impatient : Bool

namespace Tally

/-- The entry for supervisor calls. -/
def supervisorCall (handle : Handle) : Activity Tally Unit Unit :=
  .access (fun shared => { shared with own := { shared.own with calls := shared.own.calls + 1 } })
    fun before =>
      if before.own.impatient then .perform .direct handle .halt fun _ => .finish ()
      else .finish ()

/-- The entries of the host, with supervisor calls in its whole memory. -/
def table : CallbackTable Tally Unit :=
  { CallbackTable.ofMemory (fun _ => Encoding.supervisorCall 7) 0 with
    supervisorCall := fun handle _ => supervisorCall handle
    addTicks := fun _ ticks => .modifyOwn fun tally => { tally with ticks := tally.ticks - ticks }
    ticksRemaining := fun _ => .access id fun before => .finish before.own.ticks }

/-- The host's engine, when the host is impatient and when it is not. The two are configured alike,
so only the state of the host tells them apart. -/
def pair : Counterparts Tally Unit Nat where
  handle := Stepping.Lone.worker
  slot := ⟨0⟩
  interrupted := ⟨⟨table, ⟨0⟩⟩, none, Vector.replicate 16 none, .default⟩
  uninterrupted := ⟨⟨table, ⟨0⟩⟩, none, Vector.replicate 16 none, .default⟩
  view := calls
  quota left tally := tally.ticks.toNat = left ∧ tally.impatient = false

/-- The host of the example starts no runs. -/
theorem supervisorCall_runless (handle : Handle) : (supervisorCall handle).Runless := by
  apply Activity.Runless.access
  intro before
  split
  · exact .perform nofun fun _ => .finish ()
  · exact .finish ()

/-- It does the same for both engines, as far as a guest can tell: the request to halt that it may
make on one side is not among this. -/
theorem supervisorCall_matches :
    pair.Matches (· = ·) (supervisorCall pair.handle) (supervisorCall pair.handle) := by
  apply Counterparts.Matches.access
  · intro left shared other same
    exact ⟨same.words, congrArg (· + 1) same.view, same.quota⟩
  · intro left shared other same
    have patient : other.own.impatient = false := same.quota.2
    simp only [patient, Bool.false_eq_true, if_false]
    split
    · exact .halt (.finish trivial)
    · exact .finish trivial

/-- So its guest cannot tell whether it was interrupted. -/
theorem indifferent : pair.Indifferent where
  slot := rfl
  slotToo := rfl
  pages _ _ _ _ := rfl
  read _ := (Counterparts.Matches.finish rfl).alike (.finish _) (.finish _)
  supervisorCall _ :=
    supervisorCall_matches.alike (supervisorCall_runless _) (supervisorCall_runless _)
  exceptionRaised _ _ := (Counterparts.Matches.finish rfl).alike (.finish _) (.finish _)
  coprocessors slot := by
    show Option.Rel _ ((Vector.replicate 16 none)[slot.val]) ((Vector.replicate 16 none)[slot.val])
    rw [Vector.getElem_replicate]
    exact .none
  ticksRemaining := ⟨.access fun _ => .finish _, fun _ _ _ same => same.share same.shared⟩
  addTicks _ :=
    ⟨.access fun _ => .finish _, fun _ _ _ same =>
      same.share { same.shared with view := same.shared.view }⟩
  tells _ :=
    ⟨.access fun _ => .finish _, fun _ _ same => ⟨same.shared.quota.1, same.share same.shared⟩⟩
  counts left ticks := by
    refine ⟨.access fun _ => .finish _, fun world other same => ⟨trivial, same.share ?_⟩⟩
    have enough := same.shared.quota.1
    refine { same.shared with quota := ⟨?_, same.shared.quota.2⟩ }
    show (other.shared.own.ticks - ticks).toNat = left
    rw [UInt64.toNat_sub_of_le _ _ (by rw [UInt64.le_iff_toNat_le]; omega)]
    omega

/-- A world with the host's engine, which has not run yet. -/
def world (tally : Tally) : World Tally Unit :=
  { World.initial tally with
    slots := ⟨#[pair.handle]⟩
    wrappers := ⟨[(pair.handle, ⟨.word 0, .constructed, .stepping pair.interrupted⟩)]⟩
    built := 1 }

/-- The engine runs until an impatient host halts it, its next run is over at once since a halt was
requested before, and it runs once more after the host has got one more tick and some patience. -/
def cuts : List (Cut Tally) :=
  [.run .direct none, .halt .foreign, .run .direct none,
    .refill fun tally => { tally with ticks := 1, impatient := false }, .run .foreign none]

/-- What an impatient host with many ticks is left with. -/
def final : World Tally Unit :=
  Exec.finalWorld (Cut.execAll (perform 5) pair.handle cuts) (world ⟨0, 9, true⟩)

/-- At first both engines are at rest, with a quota each. -/
theorem ready : pair.Ready 2 (world ⟨0, 9, true⟩) (world ⟨0, 2, false⟩) where
  bound := rfl
  boundToo := rfl
  shared := ⟨rfl, rfl, rfl, rfl⟩
  bystanders _ _ := rfl
  wrappers := ⟨_, _, rfl, rfl, rfl, rfl, rfl, rfl, rfl, rfl, rfl, rfl⟩
  idle := rfl
  idleToo := rfl
  resting := by
    rintro copy present
    cases present
    exact nofun

/-- Refilling the quota is not seen by the guest. -/
theorem keeps (update : Tally → Tally) (refills : .refill update ∈ cuts) (tally : Tally) :
    pair.view (update tally) = pair.view tally := by
  simp only [cuts, List.mem_cons, reduceCtorEq, Cut.refill.injEq, List.not_mem_nil, or_false,
    false_or] at refills
  rw [refills]
  rfl

/-- The interrupted engine goes through all its cuts. -/
theorem driven : Cut.execAll (perform 5) pair.handle cuts (world ⟨0, 9, true⟩) = .ok () final :=
  Exec.eq_of_completes (by decide +kernel)

end Tally

/-- An engine that is halted in its own supervisor call, and resumed, has gone through the same as
one that runs through. -/
theorem transparentInterruptions_tally :
    ∃ last, perform 4 .direct Tally.pair.handle (.run none) (Tally.world ⟨0, 2, false⟩) =
        .ok .finished last ∧
      (∃ events, guestEvents Tally.final.history =
          guestEvents (Tally.world ⟨0, 9, true⟩).history ++ events ∧
        guestEvents last.history = guestEvents (Tally.world ⟨0, 2, false⟩).history ++ events) ∧
      Tally.pair.SameGuest 0 Tally.final last :=
  transparentInterruptions Tally.indifferent Tally.ready Tally.keeps Tally.driven (by decide +kernel)
    (by decide) .direct none

end RecompilerAdapter
