/-
Module: RecompilerAdapter.Proofs.HaltedSessions
Purpose: Halts in sessions. Building and deleting wrappers keep the account of halt requests right, so in
  every session over stepping engines each request ends the run that it is made in, or the next one, and
  no other; and repeating a request makes no difference.
Trusted boundary: none
Main exports: Command.Steps, haltedRun, HaltAccounting, perform_halted
-/
import RecompilerAdapter.Proofs.EncodedSteps
import RecompilerAdapter.Proofs.HaltAccounting
import RecompilerAdapter.Proofs.RepeatedHalts
import RecompilerAdapter.Proofs.RunStates
import RecompilerAdapter.Proofs.SessionCoherence

namespace RecompilerAdapter

variable {σ ν ρ α : Type} {perform : Performer σ ν} {world : World σ ν} {handle : Handle}
  {start : List (Event ν)}

/-! ### Building and deleting -/

/-- Before anything has happened, no request waits. -/
theorem Calm.initial (own : σ) : Calm ([] : List (Event ν)) (.initial own) where
  accounted :=
    { lawful := .nil
      flags := by simp [World.initial]
      bound := by simp [World.initial]
      stepping := by simp [World.initial]
      numbered := by simp [World.initial]
      fresh := by simp }
  within handle boundary := boundary.ne_nil rfl
  grown := List.prefix_rfl

/-- A slot that is created is bound to nobody. -/
theorem Calm.prepared (calm : Calm start world) (builder : Builder σ ν) :
    Calm start (world.prepared builder) := by
  have allocated : Calm start { world with slots := world.slots.allocate.2 } :=
    { calm with
      accounted := { calm.accounted with
        bound := fun handle wrapper present => by
          rw [HandleSlots.get?_allocate]
          exact calm.accounted.bound handle wrapper present } }
  exact allocated.record trivial

/-- After something was put in place, what is found is that or was there before. -/
theorem get?_insert_eq_some {registry : Registry Handle α} {other : Handle} {value found : α}
    (isFound : (registry.insert handle value).get? other = some found) :
    other = handle ∧ found = value ∨ registry.get? other = some found := by
  rw [Registry.get?_insert] at isFound
  split at isFound
  · exact .inl ⟨‹_›, (Option.some.inj isFound).symm⟩
  · exact .inr isFound

/-- A new wrapper has a flag that is not set, and nobody has requested a halt of it. Its handle is
new, too, so the accounts of the others are left alone. -/
theorem Calm.attached (calm : Calm start world) {slot : HandleSlot} {engine : Engine σ ν}
    (data : UserData) (slotOf : engine.configuration.callbacks.slot = slot)
    (unbound : world.slots.get? slot = none) (created : slot.index < world.slots.bindings.size)
    (stepping : engine.mode.isStepping = true) (flag : engine.haltRequested = false) :
    Calm start (world.attached slot data engine) := by
  have accounted := calm.accounted
  -- The new wrapper has the next handle, of which no event tells yet; for all others the account is
  -- the old one.
  have placed : Calm start ({ world with
      wrappers := world.wrappers.insert ⟨world.built + 1⟩ ⟨data, .constructed, engine⟩
      built := world.built + 1
      slots := world.slots.fill slot ⟨world.built + 1⟩ } : World σ ν) :=
    { calm with
      accounted :=
        { lawful := accounted.lawful
          flags := fun other found isFound => by
            rcases get?_insert_eq_some isFound with ⟨rfl, rfl⟩ | isFound
            · rw [flag]
              exact iff_of_false (by simp) (accounted.fresh _ (Nat.lt_succ_self _))
            · exact accounted.flags other found isFound
          bound := fun other found isFound => by
            rcases get?_insert_eq_some isFound with ⟨rfl, rfl⟩ | isFound
            · rw [slotOf]
              exact HandleSlots.get?_fill_self created rfl
            · have isBound := accounted.bound other found isFound
              rw [HandleSlots.get?_fill_other]
              · exact isBound
              · rintro rfl
                rw [unbound] at isBound
                cases isBound
          stepping := fun other found isFound => by
            rcases get?_insert_eq_some isFound with ⟨rfl, rfl⟩ | isFound
            · exact stepping
            · exact accounted.stepping other found isFound
          numbered := fun other found isFound => by
            rcases get?_insert_eq_some isFound with ⟨rfl, rfl⟩ | isFound
            · exact Nat.le_refl _
            · exact Nat.le_succ_of_le (accounted.numbered other found isFound)
          fresh := fun other isFresh => accounted.fresh other (Nat.lt_of_succ_lt isFresh) } }
  exact placed.record trivial

/-- Dropping a builder has nothing to do with flags. -/
theorem Builder.release_calm (builder : Builder σ ν) : (builder.release : Exec σ ν Unit).StaysCalm :=
  .records builder.release_records fun event released => (builder.releases_plain event released).neutral

/-- Changing a builder has nothing to do with them either. -/
theorem Builder.withCoprocessor_calm (builder : Builder σ ν) (slot : Nat)
    (table : CoprocessorTable σ ν) : (builder.withCoprocessor slot table).StaysCalm := by
  intro start world calm
  apply Command.withCoprocessor_ensures.mono
  · rintro _ _ (⟨inRange, -, rfl⟩ | ⟨-, -, rfl⟩)
    · exact calm.recordAll fun event isEvent =>
        (CoprocessorTable.replaces_plain _ _ event isEvent).neutral
    · exact calm.recordAll fun event isEvent => (Command.rejecting_plain table builder event isEvent).neutral
  · exact fun _ _ holds => holds

/-- A stepping engine is constructed at once, or refused. -/
theorem EngineChoice.construct_stepping (configuration : EngineConfiguration σ ν)
    {stopped : Stop → World σ ν → Prop} :
    (construct perform configuration .stepping).Ensures world
      (fun result after => after = world ∧
        ∀ engine, result = .ok engine → engine = .stepping configuration) stopped := by
  simp only [construct]
  split
  · refine Exec.Ensures.pure ⟨rfl, ?_⟩
    rintro _ ⟨rfl⟩
    rfl
  · exact Exec.Ensures.pure ⟨rfl, by simp⟩

/-- Building a wrapper with a stepping engine constructs it without a flag and attaches it behind a
handle that no request has named. -/
theorem Builder.build_calm (builder : Builder σ ν) :
    (builder.build perform .stepping).StaysCalm := by
  intro start world calm
  have prepared : Calm start (world.prepared builder) := calm.prepared builder
  have unbound := (builder.prepared_unbound world).callbacks
  unfold build Exec.allocateSlot
  refine Exec.Ensures.modifyGet_bind (Exec.Ensures.emit_bind
    (Exec.Ensures.bind (EngineChoice.construct_stepping _) ?_))
  rintro (error | engine) _ ⟨rfl, constructed⟩
  · have dropped := (builder.configuration world.slots.allocate.1).drop_records
    apply Exec.Ensures.bind dropped.ensures
    rintro _ _ rfl
    exact prepared.recordAll fun event released =>
      (EngineConfiguration.releases_plain _ event released).neutral
  · cases constructed engine rfl
    apply Exec.Ensures.bind (attach_ensures unbound)
    rintro _ _ ⟨rfl, rfl⟩
    refine prepared.attached builder.userData rfl unbound ?_ rfl rfl
    simp [World.prepared, HandleSlots.allocate, World.record, configuration]

/-- A wrapper that is removed takes its flag with it, and the account is of those that are left. -/
theorem Calm.remove (calm : Calm start world) (handle : Handle) : Calm start (world.remove handle) := by
  have remains {other : Handle} {found : Wrapper σ ν}
      (isFound : (world.remove handle).wrappers.get? other = some found) :
      world.wrappers.get? other = some found := by
    rw [World.remove, Registry.get?_erase] at isFound
    split at isFound
    · cases isFound
    · exact isFound
  exact { calm with
    accounted := { calm.accounted with
      flags := fun other found isFound => calm.accounted.flags other found (remains isFound)
      bound := fun other found isFound => calm.accounted.bound other found (remains isFound)
      stepping := fun other found isFound => calm.accounted.stepping other found (remains isFound)
      numbered := fun other found isFound => calm.accounted.numbered other found (remains isFound) } }

/-- So does deleting it. -/
theorem Wrapper.delete_calm (handle : Handle) : (delete handle : Exec σ ν Unit).StaysCalm := by
  intro start world calm
  apply Exec.Ensures.wrapper_bind
  · intro wrapper _
    have dropped := wrapper.engine.configuration.drop_records
    refine Exec.Ensures.emit_bind (Exec.Ensures.bind dropped.ensures ?_)
    rintro _ _ rfl
    have released : Calm start (world.recordAll
        (.log (.destroyingEngine wrapper.userData) :: wrapper.engine.configuration.releases)) :=
      calm.recordAll fun event isEvent => (Command.deleting_plain wrapper event isEvent).neutral
    exact released.remove handle
  · exact fun _ => calm.accounted

namespace Command

/-- The command builds no engine but a stepping one. -/
def Steps : Command σ ν ρ → Prop
  | build _ engine => engine = .stepping
  | construct _ _ _ _ engine => engine = .stepping
  | _ => True

/-- Looking for a builder changes nothing. -/
theorem find_calm (builders : Builders σ ν) (number : Nat) : (find builders number).StaysCalm := by
  unfold find
  split
  · exact .pure _
  · exact .throw _

/-- Each command that builds stepping engines only keeps the account right. The account is one of
stepping engines, so no other kind may be built. -/
theorem exec_calm (calms : perform.StaysCalm) (builders : Builders σ ν) {command : Command σ ν ρ}
    (steps : command.Steps) : (command.exec perform builders).StaysCalm := by
  cases command with
  | openBuilder number userData callbacks =>
    refine .bind ?_ fun _ => .pure _
    cases builders.get? number with
    | none => exact .pure _
    | some builder => exact builder.release_calm
  | usePageTable number pageTable => exact .bind (find_calm _ _) fun _ => .pure _
  | useOptions number options => exact .bind (find_calm _ _) fun _ => .pure _
  | installCoprocessor number slot table =>
    refine .bind (find_calm _ _) fun builder => .bind (builder.withCoprocessor_calm slot table) ?_
    rintro (error | builder) <;> exact .pure _
  | installCoprocessors number tables =>
    exact .bind (find_calm _ _) fun builder =>
      .bind (.bind builder.release_calm fun _ => .pure _) fun _ => .pure _
  | dropBuilder number =>
    exact .bind (find_calm _ _) fun builder => .bind builder.release_calm fun _ => .pure _
  | build number engine =>
    cases steps
    refine .bind (find_calm _ _) fun builder => .bind builder.build_calm ?_
    rintro (error | handle) <;> exact .pure _
  | construct userData callbacks pageTable coprocessors engine =>
    cases steps
    refine .bind ?_ fun handle => .pure _
    rw [construct_eq]
    refine .bind (Builder.build_calm _) ?_
    rintro (error | handle)
    · refine .bind (.emit ?_) fun _ => .throw _
      trivial
    · exact .pure _
  | delete handle => exact .bind (Wrapper.delete_calm handle) fun _ => .pure _
  | call body => exact .bind (.exec calms body) fun _ => .pure _

/-- By induction on the commands. -/
theorem execAll_calm (calms : perform.StaysCalm) {commands : List (Command σ ν ρ)}
    (steps : ∀ command ∈ commands, command.Steps) (builders : Builders σ ν) :
    (execAll perform builders commands).StaysCalm := by
  induction commands generalizing builders with
  | nil => exact .pure _
  | cons command commands ih =>
    rw [List.forall_mem_cons] at steps
    refine .bind (exec_calm calms builders steps.1) fun result => ?_
    exact .bind (ih steps.2 result.2) fun _ => .pure _

/-- So the account is right wherever a session ends. -/
theorem sessionWorld_accounted (bound : Nat) (own : σ) {commands : List (Command σ ν ρ)}
    (steps : ∀ command ∈ commands, command.Steps) :
    Accounted (sessionWorld bound own commands).history (sessionWorld bound own commands) := by
  have ends := execAll_calm (perform_calm bound) steps .empty [] (.initial own) (.initial own)
  have accounted : (execAll (perform bound) .empty commands).Ensures (.initial own)
      (fun _ after => Accounted after.history after) fun _ after => Accounted after.history after :=
    ends.mono (fun _ _ calm => calm.accounted) fun _ _ accounted => accounted
  exact accounted.finalWorld

end Command

/-! ### Runs that are halted at once -/

/-- A wrapper that is replaced twice is the one it was replaced by last. -/
theorem World.place_place (world : World σ ν) (handle : Handle) (first second : Wrapper σ ν) :
    (world.place handle first).place handle second = world.place handle second := by
  have replaced : (world.wrappers.insert handle first).insert handle second =
      world.wrappers.insert handle second := by
    simp [Registry.insert, Registry.erase, List.filter_filter]
  simp [World.place, replaced]

/-- It does not matter whether events are told before or after a wrapper is replaced. -/
theorem World.place_recordAll (world : World σ ν) (handle : Handle) (wrapper : Wrapper σ ν)
    (events : List (Event ν)) :
    (world.recordAll events).place handle wrapper = (world.place handle wrapper).recordAll events := by
  induction events generalizing world with
  | nil => rfl
  | cons event events ih => exact ih (world.record event)

/-- Nor whether a script is handed over before or after. -/
theorem World.place_scheduled (world : World σ ν) (handle : Handle) (wrapper : Wrapper σ ν)
    (script : Option (List EngineOperation)) :
    (world.place handle wrapper).scheduled script = (world.scheduled script).place handle wrapper := by
  cases script <;> rfl

/-- What a run records that a waiting request ends at once. -/
def haltedRun (surface : Surface) (handle : Handle) (script : Option (List EngineOperation))
    (data : UserData) : List (Event ν) :=
  [.acting surface handle (.run script), .runEntered handle, .log (.engineRun data), .runLeft handle,
    .log (.engineReturned data), .acted surface handle (.run script) .finished]

/-- The wrapper after that run: it has been run, and its flag is taken. -/
def Wrapper.haltedAtOnce (wrapper : Wrapper σ ν) : Wrapper σ ν :=
  { wrapper with state := .halted, engine := { wrapper.engine with haltRequested := false } }

/-- An engine with a request that waits leaves its run loop in the first turn and takes the request.
It has neither asked for ticks nor fetched. -/
theorem Wrapper.runEngine_halted {wrapper : Wrapper σ ν} {lent : List EnginePart}
    (present : world.wrappers.get? handle = some wrapper) (stepping : wrapper.engine.mode = .stepping lent)
    (requested : wrapper.engine.haltRequested = true) (turns : Nat) :
    runEngine perform (turns + 1) handle world =
      .ok () (world.place handle
        { wrapper with engine := { wrapper.engine with haltRequested := false } }) := by
  have found := Exec.engine_of_present present
  have taken : Stepping.takeHalt handle world = .ok true (world.place handle
      { wrapper with engine := { wrapper.engine with haltRequested := false } }) := by
    rw [Stepping.takeHalt, Exec.bind_of_ok found,
      Exec.bind_of_ok (Exec.modifyEngine_of_present present _), ← requested]
    rfl
  have turned : Stepping.turn perform handle world = .ok false (world.place handle
      { wrapper with engine := { wrapper.engine with haltRequested := false } }) :=
    Exec.bind_of_ok taken
  have chosen : runEngine perform (turns + 1) handle world =
      Stepping.run perform handle (turns + 1) world := by
    rw [runEngine, Exec.bind_of_ok found]
    simp only [stepping]
  exact chosen.trans (Exec.bind_of_ok turned)

/-- So its run is entered and left at once. It makes no request of its host and executes nothing. -/
theorem Wrapper.accept_halted {wrapper : Wrapper σ ν} {lent : List EnginePart}
    (present : world.wrappers.get? handle = some wrapper) (stepping : wrapper.engine.mode = .stepping lent)
    (requested : wrapper.engine.haltRequested = true) (turns : Nat) :
    accept perform (turns + 1) handle world =
      .ok () ((world.place handle wrapper.haltedAtOnce).recordAll [.runEntered handle,
        .log (.engineRun wrapper.userData), .runLeft handle, .log (.engineReturned wrapper.userData)]) := by
  let running : Wrapper σ ν := { wrapper with state := .running }
  let working : Wrapper σ ν :=
    { running with engine := { running.engine with haltRequested := false } }
  let entered := (world.place handle running).recordAll
    [.runEntered handle, .log (.engineRun wrapper.userData)]
  have enters : Exec.setState handle .running world = .ok () (world.place handle running) :=
    Exec.modifyWrapper_of_present present _
  have isEntered : entered.wrappers.get? handle = some running := by simp [entered]
  have works : runEngine perform (turns + 1) handle entered = .ok () (entered.place handle working) :=
    runEngine_halted isEntered stepping requested turns
  have isWorked : (entered.place handle working).wrappers.get? handle = some working := by simp
  have leaves : Exec.setState handle .halted (entered.place handle working) =
      .ok () (entered.place handle wrapper.haltedAtOnce) :=
    (Exec.modifyWrapper_of_present isWorked _).trans (by rw [World.place_place]; rfl)
  have placed : entered.place handle wrapper.haltedAtOnce =
      (world.place handle wrapper.haltedAtOnce).recordAll
        [.runEntered handle, .log (.engineRun wrapper.userData)] :=
    congrArg (World.recordAll · [.runEntered handle, .log (.engineRun wrapper.userData)])
      (world.place_place handle running wrapper.haltedAtOnce)
  rw [placed] at leaves
  rw [accept, Exec.bind_of_ok (Exec.wrapper_of_present present), Exec.bind_of_ok enters,
    Exec.bind_of_ok (Exec.emit_apply _ _), Exec.bind_of_ok (Exec.emit_apply _ _)]
  exact (Exec.bind_of_ok works).trans (Exec.bind_of_ok leaves)

/-- A waiting request makes the next run that is accepted return at once. -/
theorem perform_halted {wrapper : Wrapper σ ν} {lent : List EnginePart}
    (present : world.wrappers.get? handle = some wrapper) (resting : wrapper.state ≠ .running)
    (stepping : wrapper.engine.mode = .stepping lent) (requested : wrapper.engine.haltRequested = true)
    (depth : Nat) (surface : Surface) (script : Option (List EngineOperation)) :
    RecompilerAdapter.perform (depth + 2) surface handle (.run script) world =
      .ok .finished (((world.scheduled script).place handle wrapper.haltedAtOnce).recordAll
        (haltedRun surface handle script wrapper.userData)) := by
  have accepts : world.rejects handle = false := by simp [rejects_of_running present, resting]
  have begun : ((world.record (.acting surface handle (.run script))).scheduled script).wrappers.get?
      handle = some wrapper := by simpa using present
  rw [perform_succ, Wrapper.recording_of_not_rejects surface accepts,
    Exec.bind_of_ok (Exec.emit_apply _ _), Exec.bind_of_ok (Wrapper.schedule_apply script _),
    Exec.bind_of_ok (Wrapper.accept_halted begun stepping requested depth)]
  cases script <;> rfl

/-- The wrapper with a request that waits. -/
def Wrapper.requested (wrapper : Wrapper σ ν) : Wrapper σ ν :=
  { wrapper with engine := { wrapper.engine with haltRequested := true } }

/-- A halt sets the flag, and tells so. -/
theorem perform_halt {wrapper : Wrapper σ ν} (present : world.wrappers.get? handle = some wrapper)
    (depth : Nat) (surface : Surface) :
    RecompilerAdapter.perform (depth + 1) surface handle .halt world = .ok .done
      ((world.place handle wrapper.requested).recordAll (haltRequest surface handle)) := by
  rw [perform_adjust rfl present depth surface]
  rfl

/-- Some requests, one at least, set the flag and are told of. -/
theorem halts_exec {wrapper : Wrapper σ ν} (present : world.wrappers.get? handle = some wrapper)
    (depth more : Nat) (surface : Surface) (next : Reply → Activity σ ν α) :
    (Activity.halts surface handle more next).exec (RecompilerAdapter.perform (depth + 1)) world =
      (next .done).exec (RecompilerAdapter.perform (depth + 1))
        ((world.place handle wrapper.requested).recordAll
          (List.replicate (more + 1) (haltRequest surface handle)).flatten) := by
  induction more generalizing world wrapper with
  | zero => exact Exec.bind_of_ok (perform_halt present depth surface)
  | succ more ih =>
    have isRequested : ((world.place handle wrapper.requested).recordAll
        (haltRequest surface handle)).wrappers.get? handle = some wrapper.requested := by simp
    have again : ((world.place handle wrapper.requested).recordAll (haltRequest surface handle)).place
        handle wrapper.requested =
        (world.place handle wrapper.requested).recordAll (haltRequest surface handle) :=
      congrArg (World.recordAll · (haltRequest surface handle)) (world.place_place handle _ _)
    have rest := ih isRequested
    have still : wrapper.requested.requested = wrapper.requested := rfl
    rw [still, again, ← World.recordAll_append] at rest
    exact (Exec.bind_of_ok (perform_halt present depth surface)).trans rest

/-- How an accepted run ends. -/
theorem accept_ends {turns : Nat} (surface : Surface) (script : Option (List EngineOperation)) :
    (do
      Wrapper.accept perform turns handle
      Wrapper.report surface handle script true : Exec σ ν Reply).Ensures world
      (fun _ after => ∃ before data, after.history = before ++ .runLeft handle ::
        [.log (.engineReturned data), .acted surface handle (.run script) .finished])
      fun _ _ => True := by
  unfold Wrapper.accept
  simp only [bind_assoc]
  refine .bind .any fun wrapper _ _ => .bind .any fun _ _ _ => .bind .any fun _ _ _ =>
    .bind .any fun _ _ _ => .bind .any fun _ _ _ => .bind .any fun _ left _ => ?_
  refine Exec.Ensures.emit_bind (Exec.Ensures.emit_bind (Exec.Ensures.emit_bind ?_))
  exact ⟨left.history, wrapper.userData, by simp⟩

/-- When an accepted run has returned, the flag of its wrapper is not set. The history ends with the
events of leaving, before which any request was taken. -/
theorem not_haltRequested_of_finished {after : World σ ν} (calm : Calm start world) {depth : Nat}
    {surface : Surface} {script : Option (List EngineOperation)}
    (finished : RecompilerAdapter.perform depth surface handle (.run script) world =
      .ok .finished after) (harmless : TicksHaltNothing after.history) {wrapper : Wrapper σ ν}
    (present : after.wrappers.get? handle = some wrapper) :
    wrapper.engine.haltRequested = false := by
  have calmAfter := (perform_calm depth surface handle (.run script) start world calm).of_completed
    finished
  obtain ⟨before, data, split⟩ : ∃ before data, after.history = before ++ .runLeft handle ::
      [.log (.engineReturned data), .acted surface handle (.run script) .finished] := by
    cases depth with
    | zero => cases finished
    | succ depth =>
      rw [perform_succ] at finished
      -- A rejected run does not finish, so an accepted one is left, and it ends with the events of
      -- leaving.
      cases rejects : world.rejects handle with
      | true =>
        have still := (Wrapper.rejects_scheduled world surface handle script).trans rejects
        rw [Wrapper.recording_run, Exec.bind_of_ok (Exec.emit_apply _ _),
          Exec.bind_of_ok (Wrapper.schedule_apply script _),
          Exec.bind_of_ok (Wrapper.run_of_rejects still)] at finished
        cases surface <;> cases finished
      | false =>
        rw [Wrapper.recording_of_not_rejects surface rejects, Exec.bind_of_ok (Exec.emit_apply _ _),
          Exec.bind_of_ok (Wrapper.schedule_apply script _)] at finished
        exact (accept_ends surface script).of_completed finished
  have idle : ¬ HaltWaits handle after.history := by
    have left := not_haltWaits_of_left calmAfter.accounted.lawful harmless split
    rw [split, List.append_cons]
    exact not_haltWaits_append left (by simp)
  rw [← Bool.not_eq_true]
  exact fun requested => idle ((calmAfter.accounted.flags handle wrapper present).1 requested)

/-! ### No halt is lost, duplicated or leaked -/

/-- Halts in a session of these commands. -/
structure HaltAccounting (bound : Nat) (own : σ) (commands : List (Command σ ν ρ)) : Prop where
  /-- Between two instructions, a request that waits ends the run at once, with no query for ticks
  and no step; without one the run goes on. It ends nowhere else, unless no ticks remain. -/
  lawful : EveryEvent Halting (Command.sessionWorld bound own commands).history
  /-- In the end, a flag is set exactly if a request waits. -/
  flags : ∀ handle wrapper,
    (Command.sessionWorld bound own commands).wrappers.get? handle = some wrapper →
    (wrapper.engine.haltRequested = true ↔
      HaltWaits handle (Command.sessionWorld bound own commands).history)
  /-- When a run has been left, no request waits for its wrapper. -/
  returned : TicksHaltNothing (Command.sessionWorld bound own commands).history →
    ∀ handle before after,
      (Command.sessionWorld bound own commands).history = before ++ .runLeft handle :: after →
      ¬ HaltWaits handle (before ++ [.runLeft handle])
  /-- A request that is made during a run ends the run as soon as it comes between two
  instructions. -/
  ends : ∀ handle surface reply before during event after,
    (Command.sessionWorld bound own commands).history =
      before ++ .acted surface handle .halt reply :: during ++ event :: after →
    .runLeft handle ∉ during →
    Boundary handle (before ++ .acted surface handle .halt reply :: during) →
    event = .runLeft handle
  /-- It does not end the run before the current instruction is executed and its ticks are added. -/
  stepped : TicksHaltNothing (Command.sessionWorld bound own commands).history →
    ∀ handle surface reply before during after,
      (Command.sessionWorld bound own commands).history =
        before ++ .acted surface handle .halt reply :: during ++ .runLeft handle :: after →
      handle ∈ openRuns before → .runLeft handle ∉ during →
      ∃ earlier ticks answer, before ++ .acted surface handle .halt reply :: during =
        earlier ++ [.answered handle (.addTicks ticks) answer]
  /-- Sessions in which some requests are made several times over go alike, but for the record of
  those requests. -/
  repeated : ∀ others, List.Forall₂ (Command.Alike repeatingHalts) commands others →
    Exec.EndsAlike (World.Alike.Yield repeatingHalts)
      (World.Alike repeatingHalts RepeatsRequests) (World.Alike repeatingHalts RepeatsRequests)
      (Command.sessionEnd bound own commands) (Command.sessionEnd bound own others)
  /-- All worlds in which the caller acts are calm, inside runs and between them. -/
  calm : Calm [] (World.initial own : World σ ν) ∧
    ∀ depth, (RecompilerAdapter.perform depth : Performer σ ν).StaysCalm
  /-- When an accepted run has returned, the flag of its wrapper is not set, also when the run was
  nested in others. -/
  cleared : ∀ (world after : World σ ν) depth surface handle script, Calm [] world →
    RecompilerAdapter.perform depth surface handle (.run script) world = .ok .finished after →
    TicksHaltNothing after.history → ∀ wrapper, after.wrappers.get? handle = some wrapper →
    wrapper.engine.haltRequested = false
  /-- Any positive number of requests that are made while the wrapper is not running makes the next
  accepted run return at once. After that the flag is not set, and the engine is as it was. -/
  next : ∀ (world : World σ ν) handle wrapper lent, world.wrappers.get? handle = some wrapper →
    wrapper.state ≠ .running → wrapper.engine.mode = .stepping lent →
    ∀ depth more surface runSurface script,
    (Activity.halts surface handle more fun _ =>
      .perform runSurface handle (.run script) .finish).exec (RecompilerAdapter.perform (depth + 2)) world =
      .ok .finished ((((world.recordAll
        (List.replicate (more + 1) (haltRequest surface handle)).flatten).scheduled script).place handle
          wrapper.haltedAtOnce).recordAll (haltedRun runSurface handle script wrapper.userData))

/-- No request to halt is lost, duplicated or taken by a run of another wrapper, and two requests in
a row are one. -/
theorem haltAccounting (bound : Nat) (own : σ) {commands : List (Command σ ν ρ)}
    (steps : ∀ command ∈ commands, command.Steps) : HaltAccounting bound own commands where
  lawful := (Command.sessionWorld_accounted bound own steps).lawful
  flags := (Command.sessionWorld_accounted bound own steps).flags
  returned harmless _ _ _ split :=
    not_haltWaits_of_left (Command.sessionWorld_accounted bound own steps).lawful harmless split
  ends _ _ _ _ _ _ _ split stillOpen boundary :=
    ends_of_requested (Command.sessionWorld_accounted bound own steps).lawful split stillOpen boundary
  stepped harmless _ _ _ _ _ _ split running stillOpen :=
    stepped_of_requested (Command.sessionWorld_accounted bound own steps).lawful
      (Command.sessionWorld_sound bound own commands).orderly harmless split running stillOpen
  repeated _ alike := Command.repeatedHalts bound own alike
  calm := ⟨.initial own, perform_calm⟩
  cleared _ _ _ _ _ _ calm finished harmless _ present :=
    not_haltRequested_of_finished calm finished harmless present
  next world handle wrapper lent present resting stepping depth more surface runSurface script := by
    have isRequested : ((world.place handle wrapper.requested).recordAll
        (List.replicate (more + 1) (haltRequest surface handle)).flatten).wrappers.get? handle =
        some wrapper.requested := by simp
    have halted := perform_halted isRequested resting stepping rfl depth runSurface script
    have same : (((world.place handle wrapper.requested).recordAll
        (List.replicate (more + 1) (haltRequest surface handle)).flatten).scheduled script).place handle
          wrapper.requested.haltedAtOnce =
        ((world.recordAll (List.replicate (more + 1) (haltRequest surface handle)).flatten).scheduled
          script).place handle wrapper.haltedAtOnce := by
      rw [← World.place_recordAll, World.place_scheduled, World.place_place]
      rfl
    rw [halts_exec present (depth + 1) more surface, ← same]
    exact Exec.bind_of_ok halted

/-- A session in which two halts are requested before a run. -/
def haltedSession : List (Command Unit Unit Unit) :=
  [.openBuilder 0 (.word 7) (.ofMemory (fun _ => Encoding.supervisorCall 7) 1), .build 0 .stepping,
    .call (.halts .direct ⟨1⟩ 1 fun _ => .perform .foreign ⟨1⟩ (.run none) fun _ => .finish ())]

/-- A session that builds a wrapper, requests halts of it and then runs it. -/
theorem haltAccounting_halted :
    (∀ command ∈ haltedSession, command.Steps) ∧ HaltAccounting 5 () haltedSession :=
  ⟨by simp [haltedSession, Command.Steps],
    haltAccounting 5 () (by simp [haltedSession, Command.Steps])⟩

end RecompilerAdapter
