/-
Module: RecompilerAdapter.Proofs.HandleIdentity
Purpose: Handles name wrappers. The handle that building a wrapper returns is the one that its bridges
  have, it stays theirs for good, and it is what every entry and every deferred operation receives that is
  called on behalf of the wrapper, whatever else is running. Behind the handle a host object finds itself.
Trusted boundary: none
Main exports: Command.opening, Command.built?, placed, Command.Named, CoprocessorBridge.Binds,
  HandleIdentity
-/
import RecompilerAdapter.Callback.Host
import RecompilerAdapter.Proofs.SessionCoherence

namespace RecompilerAdapter

variable {σ ν ρ α : Type} {world before after : World σ ν}

/-! ### What building returns -/

namespace Command

/-- The context of the builder that has the number, after one more command. -/
def opening (number : Nat) (latest : Option UserData) : Command σ ν ρ → Option UserData
  | openBuilder other userData _ => if other = number then some userData else latest
  | _ => latest

/-- The context with which commands have opened the builder of a number, the last time that they
did. -/
def openedWith (commands : List (Command σ ν ρ)) (number : Nat) : Option UserData :=
  commands.foldl (opening number) none

/-- The wrapper that a command has built after earlier ones: the handle that it returned, and the
context that it was given. -/
def built? (earlier : List (Command σ ν ρ)) :
    Command σ ν ρ → Outcome ρ → Option (Handle × UserData)
  | build number _, .built handle => (openedWith earlier number).map (handle, ·)
  | construct userData .., .built handle => some (handle, userData)
  | _, _ => none

/-- The wrappers that commands have built after earlier ones, the oldest first. The earlier commands
tell which contexts open builders have. -/
def builtBy (earlier : List (Command σ ν ρ)) :
    List (Command σ ν ρ) → List (Outcome ρ) → List (Handle × UserData)
  | command :: commands, outcome :: outcomes =>
    (command.built? earlier outcome).toList ++ builtBy (earlier ++ [command]) commands outcomes
  | _, _ => []

/-- The context that a builder was opened with is given by the last command that opened one under
its number. -/
@[simp] theorem openedWith_snoc (commands : List (Command σ ν ρ)) (command : Command σ ν ρ)
    (number : Nat) :
    openedWith (commands ++ [command]) number =
      command.opening number (openedWith commands number) := by
  simp [openedWith]

/-- One more command may have built one more wrapper. -/
theorem builtBy_snoc (earlier commands : List (Command σ ν ρ)) (outcomes : List (Outcome ρ))
    (command : Command σ ν ρ) (outcome : Outcome ρ) (same : outcomes.length = commands.length) :
    builtBy earlier (commands ++ [command]) (outcomes ++ [outcome]) =
      builtBy earlier commands outcomes ++
        (command.built? (earlier ++ commands) outcome).toList := by
  induction commands generalizing earlier outcomes with
  | nil =>
    rw [List.length_nil, List.length_eq_zero_iff] at same
    simp [same, builtBy]
  | cons first commands ih =>
    obtain ⟨firstOutcome, outcomes, rfl⟩ := List.exists_cons_of_length_eq_add_one same
    have further := ih (earlier ++ [first]) outcomes (Nat.succ.inj same)
    simp only [List.cons_append, builtBy, further, List.append_assoc]
    rfl

end Command

/-- The wrappers that were put in place: their handles and contexts, the oldest first. -/
def placed (history : List (Event ν)) : List (Handle × UserData) :=
  (attachments history).map Prod.snd

/-- What is told while builders are dropped places no wrapper. -/
theorem placed_plain (history : List (Event ν)) {events : List (Event ν)}
    (plain : ∀ event ∈ events, event.Plain) : placed (history ++ events) = placed history := by
  have none : events.filterMap Event.attachment? = [] := by
    apply List.filterMap_eq_nil_iff.2
    intro event isEvent
    have isPlain := plain event isEvent
    cases event <;> first | rfl | exact isPlain.elim
  rw [placed, attachments_append, none, List.append_nil, placed]

/-- So nothing is placed by it. -/
theorem placed_recordAll {events : List (Event ν)} (plain : ∀ event ∈ events, event.Plain) :
    placed (world.recordAll events).history = placed world.history := by
  rw [World.history_recordAll, placed_plain _ plain]

/-- Running and changing wrappers places none. -/
theorem Moves.placed_eq (moves : Moves before after) :
    placed after.history = placed before.history :=
  congrArg (List.map Prod.snd) (Moves.attachments_eq moves)

/-- Opening a slot places none yet. -/
theorem placed_prepared (world : World σ ν) (builder : Builder σ ν) :
    placed (world.prepared builder).history = placed world.history := by
  rw [World.prepared, World.history_record]
  exact placed_plain _ (by simp [Event.Plain])

/-- Building places one wrapper with the context of its builder, or none if its engine is
refused. -/
theorem Builder.Builds.placed {builder : Builder σ ν} {result : Except EngineError Handle}
    (builds : builder.Builds world result after) :
    RecompilerAdapter.placed after.history = RecompilerAdapter.placed world.history ++
      (result.toOption.map (·, builder.userData)).toList := by
  cases builds with
  | @built probed engine reaches =>
    have same := (Moves.placed_eq reaches.moves).trans (placed_prepared world builder)
    have numbered : world.built = probed.built := reaches.steady.built.symm
    rw [← same, numbered, World.history_attached]
    simp [RecompilerAdapter.placed, attachments_append, Event.attachment?, Except.toOption]
  | refused reaches =>
    have same := (Moves.placed_eq reaches.moves).trans (placed_prepared world builder)
    rw [placed_recordAll (EngineConfiguration.releases_plain _), same]
    exact (List.append_nil _).symm

namespace Command

variable {builders remaining : Builders σ ν} {command : Command σ ν ρ} {outcome : Outcome ρ}
  {earlier : List (Command σ ν ρ)}

/-- Builders have the contexts with which they were opened. -/
def Named (earlier : List (Command σ ν ρ)) (builders : Builders σ ν) : Prop :=
  ∀ number builder, builders.get? number = some builder →
    openedWith earlier number = some builder.userData

/-- A builder that is given up was opened with its context, and so were those that are left. -/
theorem Named.erase (named : Named earlier builders) (number : Nat) :
    Named earlier (builders.erase number) := by
  intro other builder present
  rw [Registry.get?_erase] at present
  split at present
  · cases present
  · exact named other builder present

/-- A builder that is opened is kept with its context. -/
theorem Named.insert (named : Named earlier builders) {number : Nat} {builder : Builder σ ν}
    (own : openedWith earlier number = some builder.userData) :
    Named earlier (builders.insert number builder) := by
  intro other found present
  rw [Registry.get?_insert] at present
  split at present
  · rename_i same
    cases present
    rw [same, own]
  · exact named other found present

/-- Each command keeps builders with the contexts that they were opened with. A builder may be
changed in every other respect. -/
theorem Completes.named (completes : Completes builders world command outcome remaining after)
    (named : Named earlier builders) : Named (earlier ++ [command]) remaining := by
  have other {same : Builders σ ν} (still : Named earlier same)
      (opens : ∀ number latest, command.opening number latest = latest) :
      Named (earlier ++ [command]) same := by
    intro number builder present
    rw [openedWith_snoc, opens]
    exact still number builder present
  cases completes with
  | @openBuilder number userData callbacks =>
    intro another builder present
    rw [Registry.get?_insert] at present
    rw [openedWith_snoc]
    split at present
    · rename_i same
      cases present
      simp [opening, same, Builder.new]
    · rename_i different
      simp only [opening, if_neg (Ne.symm different)]
      exact named another builder present
  | usePageTable present | useOptions present | install present | installAll present =>
    have own := named _ _ present
    exact other (named.insert own) fun _ _ => rfl
  | reject | dropBuilder | build | refuse => exact other (named.erase _) fun _ _ => rfl
  | construct | delete | call => exact other named fun _ _ => rfl

/-- A command puts the wrapper in place that it returns, and no other. -/
theorem Completes.placed (completes : Completes builders world command outcome remaining after)
    (named : Named earlier builders) :
    RecompilerAdapter.placed after.history = RecompilerAdapter.placed world.history ++
      (command.built? earlier outcome).toList := by
  cases completes with
  | openBuilder => exact (placed_recordAll (opening_plain _)).trans (List.append_nil _).symm
  | usePageTable | useOptions => exact (List.append_nil _).symm
  | install =>
    exact (placed_recordAll (CoprocessorTable.replaces_plain _ _)).trans (List.append_nil _).symm
  | reject => exact (placed_recordAll (rejecting_plain _ _)).trans (List.append_nil _).symm
  | installAll | dropBuilder =>
    exact (placed_recordAll (Builder.releases_plain _)).trans (List.append_nil _).symm
  | build present builds =>
    rw [builds.placed, built?, named _ _ present]
    rfl
  | refuse present builds | construct builds => exact builds.placed
  | delete => exact (placed_recordAll (deleting_plain _)).trans (List.append_nil _).symm
  | call reaches => exact (Moves.placed_eq reaches.moves).trans (List.append_nil _).symm

end Command

/-- The wrappers that were put in place in a session are those that its commands returned. -/
theorem Session.placed {own : σ} {commands : List (Command σ ν ρ)} {outcomes : List (Outcome ρ)}
    {builders : Builders σ ν} (session : Session own commands outcomes builders world) :
    outcomes.length = commands.length ∧ Command.Named commands builders ∧
      RecompilerAdapter.placed world.history = Command.builtBy [] commands outcomes := by
  induction session with
  | nil => exact ⟨rfl, fun _ _ present => (nomatch present), rfl⟩
  | snoc session completes ih =>
    obtain ⟨same, named, placed⟩ := ih
    refine ⟨by simp [same], completes.named named, ?_⟩
    rw [completes.placed named, placed, Command.builtBy_snoc [] _ _ _ _ same]
    rfl

/-- An event that attaches nothing places nothing. -/
theorem placed_record {event : Event ν} (attaches : event.attachment? = none) :
    placed (world.record event).history = placed world.history := by
  simp [placed, attachments_append, attaches]

/-- The last event of a session that ends for good places nothing. -/
theorem Final.placed_eq {stop : Stop} (final : Final before stop after) :
    placed after.history = placed before.history := by
  cases final with
  | stuck => rfl
  | dangling | reentrant =>
    apply (placed_record rfl).trans
    rw [World.scheduled_history]
  | unarranged | unboundRequest | unboundCompile | fallback => exact placed_record rfl

/-- So a call that stops has placed nothing. -/
theorem Halts.placed_eq {stop : Stop} (halts : Halts before stop after) :
    placed after.history = placed before.history := by
  obtain ⟨last, moves, final⟩ := halts
  exact final.placed_eq.trans (Moves.placed_eq moves)

/-- A command that stops puts no wrapper in place. -/
theorem Command.Stops.placed_eq {builders : Builders σ ν} {command : Command σ ν ρ} {stop : Stop}
    (stops : command.Stops builders world stop after) :
    placed after.history = placed world.history := by
  cases stops with
  | stuck => rfl
  | build _ halts | construct halts =>
    rw [← placed_prepared world]
    rcases halts with halts | ⟨middle, bridge, request, moves, -, halts⟩
    · exact halts.placed_eq
    · exact (halts.placed_eq.trans (placed_record rfl)).trans (Moves.placed_eq moves)
  | fail builds => exact (placed_record rfl).trans (builds.placed.trans (List.append_nil _))
  | call halts => exact halts.placed_eq

/-! ### Who receives the handle -/

namespace HostCallbacks

/-- What the method of a host object does for a request. -/
def answer (host : HostCallbacks σ ν) (self : UserData) (handle : Handle) :
    (request : HostRequest) → Activity σ ν request.Answer
  | .read width vaddr => host.read self width vaddr
  | .write width vaddr value => host.write self width vaddr value
  | .isReadOnly vaddr => host.isReadOnly self vaddr
  | .supervisorCall number => host.supervisorCall self handle number
  | .exceptionRaised pc condition => host.exceptionRaised self handle pc condition
  | .addTicks ticks => host.addTicks self ticks
  | .ticksRemaining => host.ticksRemaining self

/-- Every entry recovers the object and calls the method for its request. -/
theorem table_serves (host : HostCallbacks σ ν) (request : HostRequest) :
    host.table.entry? request =
      some fun handle => withSelf handle fun self => host.answer self handle request := by
  cases request with
  | read width | write width => cases width <;> rfl
  | _ => rfl

/-- The object that is recovered behind the handle of a wrapper is the wrapper's context. -/
theorem withSelf_exec {handle : Handle} {wrapper : Wrapper σ ν}
    (present : world.wrappers.get? handle = some wrapper) (method : UserData → Activity σ ν α)
    (bound : Nat) :
    (withSelf handle method).exec (perform (bound + 1)) world =
      (method wrapper.userData).exec (perform (bound + 1)) (world.recordAll
        [.acting .direct handle .userData,
          .acted .direct handle .userData (.userData wrapper.userData)]) := by
  have asked : perform (bound + 1) .direct handle .userData world = .ok (.userData wrapper.userData)
      (world.recordAll [.acting .direct handle .userData,
        .acted .direct handle .userData (.userData wrapper.userData)]) := by
    have found : Exec.wrapper handle (world.record (.acting .direct handle .userData)) =
        .ok wrapper (world.record (.acting .direct handle .userData)) :=
      Exec.wrapper_of_present present
    have replied : Wrapper.performWith (fun surface handle action => perform bound surface handle
        action) bound .direct handle .userData (world.record (.acting .direct handle .userData)) =
        .ok (.userData wrapper.userData) (world.record (.acting .direct handle .userData)) :=
      Exec.bind_of_ok found
    exact Exec.bind_of_ok replied
  exact Exec.bind_of_ok asked

end HostCallbacks

/-- A request through a bridge that has a handle is a call of its entry with that handle. -/
theorem CallbackBridge.forward_bound {bridge : CallbackBridge σ ν} {handle : Handle}
    (isBound : world.slots.get? bridge.slot = some handle) (perform : Performer σ ν)
    {request : HostRequest} {entry : Handle → Activity σ ν request.Answer}
    (served : bridge.table.entry? request = some entry) :
    bridge.forward perform request world =
      (do
        let answer ← (entry handle).exec perform
        Exec.emit (.answered handle request (request.report answer))
        return answer : Exec σ ν request.Answer)
      (world.recordAll [.calling bridge.slot request true, .requested handle request]) := by
  have fetched : Exec.boundHandle bridge.slot (world.record (.calling bridge.slot request true)) =
      .ok handle (world.record (.calling bridge.slot request true)) :=
    Exec.boundHandle_of_bound isBound
  unfold forward
  rw [served]
  exact Exec.bind_of_ok fetched

namespace CoprocessorBridge

variable {perform : Performer σ ν} {bridge : CoprocessorBridge σ ν} {handle : Handle}
  {request : CompileRequest} {β : Type} {entry : Activity σ ν α} {report : α → CompileAnswer}
  {decode : α → Handle → β} {callback? : β → Option (Callback (DeferredFunction σ ν))}

/-- What has just been compiled through a bridge is bound to a handle, with the argument that the
entry's answer gave it. -/
def Binds (bridge : CoprocessorBridge σ ν) (handle : Handle) (request : CompileRequest)
    (callback : Callback (DeferredFunction σ ν)) (after : World σ ν) : Prop :=
  callback.handle = handle ∧ after.history.getLast? = some (.compiled bridge.slot bridge.index
    bridge.table.context request (.deferred callback.userArgument))

/-- A deferred operation that a coprocessor answers with is bound to the handle of the bridge, and
told to be so. -/
theorem consult_bound (proceeds : perform.Proceeds) (nested : Nested world)
    (isBound : world.slots.get? bridge.slot = some handle)
    (reported : ∀ wire other held, callback? (decode wire other) = some held →
      held.Reported other (report wire)) :
    (bridge.consult perform request entry report decode).Ensures world
      (fun answer after => ∀ callback, callback? answer = some callback →
        bridge.Binds handle request callback after) fun _ _ => True := by
  unfold consult
  apply Exec.Ensures.emit_bind
  have recorded : Nested (world.record
      (.compiling bridge.slot bridge.index bridge.table.context request)) :=
    nested.record fun _ => rfl
  have answering := Activity.exec_proceeds proceeds entry recorded rfl
  refine Exec.Ensures.bind (Exec.Ensures.mono answering (fun _ _ holds => holds)
    fun _ _ _ => trivial) fun wire middle ⟨reaches, _⟩ => ?_
  refine Exec.Ensures.emit_bind (Exec.Ensures.boundHandle_bind (fun other isOther => ?_)
    fun _ => trivial)
  have still : middle.slots.get? bridge.slot = some handle := by
    rw [reaches.steady.slots]
    exact isBound
  rw [World.slots_record, still, Option.some.injEq] at isOther
  subst isOther
  apply Exec.Ensures.pure
  intro callback holds
  obtain ⟨own, answers⟩ := reported wire handle callback holds
  exact ⟨own, by rw [World.history_record, List.getLast?_concat, answers]⟩

/-- So it is for all seven forms of requests. -/
theorem compile_bound (proceeds : perform.Proceeds) (nested : Nested world)
    (isBound : world.slots.get? bridge.slot = some handle) (request : CompileRequest) :
    (bridge.compile perform request).Ensures world
      (fun compiled after => ∀ callback, Scripted.callback? compiled = some callback →
        bridge.Binds handle request callback after) fun _ _ => True := by
  cases request with
  | internalOperation | loadWords | storeWords =>
    exact .map (consult_bound proceeds nested isBound fun _ _ _ => WireCallback.reported)
  | sendOneWord | getOneWord | sendTwoWords | getTwoWords =>
    refine .map ((consult_bound proceeds nested isBound fun _ _ _ =>
      WireTransfer.reported).mono (fun answer after binds => ?_) fun _ _ halts => halts)
    simpa using binds

end CoprocessorBridge

/-! ### Sessions -/

/-- Handles name wrappers, in a session of these commands: each wrapper gets one of its own for its
whole life, and it is what its callbacks, the objects behind them and its deferred operations
receive. -/
structure HandleIdentity (bound : Nat) (own : σ) (commands : List (Command σ ν ρ)) : Prop where
  /-- Whoever is called with a handle is called with that of the wrapper whose bridges were used. -/
  identifies : EveryEvent Identifies (Command.sessionWorld bound own commands).history
  /-- A handle that was bound stays bound. -/
  lasting : ∀ bridge handle data,
    Attached (Command.sessionWorld bound own commands).history bridge handle data →
    (Command.sessionWorld bound own commands).slots.get? bridge = some handle ∧
      handle.isNull = false
  /-- Different wrappers have different handles and different slots. -/
  unique : ∀ bridge other handle another data otherData,
    Attached (Command.sessionWorld bound own commands).history bridge handle data →
    Attached (Command.sessionWorld bound own commands).history other another otherData →
    (bridge = other ↔ handle = another) ∧ (handle = another → data = otherData)
  /-- All bridges of a living wrapper share the slot with which it was put in place. -/
  living : ∀ handle wrapper,
    (Command.sessionWorld bound own commands).wrappers.get? handle = some wrapper →
    Attached (Command.sessionWorld bound own commands).history
        wrapper.engine.configuration.callbacks.slot handle wrapper.userData ∧
      ∀ bridge, some bridge ∈ wrapper.engine.configuration.coprocessors →
        bridge.slot = wrapper.engine.configuration.callbacks.slot
  /-- The wrappers that were put in place are those that were returned. -/
  returned : ∀ outcomes builders world,
    Command.sessionEnd bound own commands = .ok (outcomes, builders) world →
    placed world.history = Command.builtBy [] commands outcomes
  /-- A command that stops puts no wrapper in place. -/
  stopped : ∀ stop after, Command.sessionEnd bound own commands = .error stop after →
    ∃ completed command rest outcomes builders world, commands = completed ++ command :: rest ∧
      Command.sessionEnd bound own completed = .ok (outcomes, builders) world ∧
      placed after.history = Command.builtBy [] completed outcomes
  /-- Whichever engine makes a request through the bridge of a living wrapper, the entry is called
  with the wrapper's handle. -/
  forwarded : ∀ world handle wrapper, Reached bound own commands world →
    world.wrappers.get? handle = some wrapper → ∀ (perform : Performer σ ν) request entry,
    wrapper.engine.configuration.callbacks.table.entry? request = some entry →
    wrapper.engine.configuration.callbacks.forward perform request world =
      (do
        let answer ← (entry handle).exec perform
        Exec.emit (.answered handle request (request.report answer))
        return answer : Exec σ ν request.Answer)
      (world.recordAll [.calling wrapper.engine.configuration.callbacks.slot request true,
        .requested handle request])
  /-- The object that an entry for host objects recovers is the wrapper's context. -/
  recovered : ∀ world handle wrapper, Reached bound own commands world →
    world.wrappers.get? handle = some wrapper → ∀ (host : HostCallbacks σ ν) request depth,
    ∃ entry, host.table.entry? request = some entry ∧
      (entry handle).exec (perform (depth + 1)) world =
        (host.answer wrapper.userData handle request).exec (perform (depth + 1))
          (world.recordAll [.acting .direct handle .userData,
            .acted .direct handle .userData (.userData wrapper.userData)])
  /-- Whichever engine compiles through a bridge of a living wrapper, what it gets is bound to the
  wrapper's handle and has its own argument. -/
  deferred : ∀ world handle wrapper, Reached bound own commands world →
    world.wrappers.get? handle = some wrapper →
    ∀ bridge, some bridge ∈ wrapper.engine.configuration.coprocessors →
    ∀ depth request compiled after callback,
      bridge.compile (perform depth) request world = .ok compiled after →
      Scripted.callback? compiled = some callback → bridge.Binds handle request callback after

/-- The handle that building returns is bound to one slot for good, and is what all entries and
deferred operations of the wrapper receive. -/
theorem handleIdentity (bound : Nat) (own : σ) (commands : List (Command σ ν ρ)) :
    HandleIdentity bound own commands where
  identifies := (Command.sessionWorld_sound bound own commands).identifies
  lasting bridge handle data attached := by
    have isBound := ((Command.sessionWorld_sound bound own commands).slots bridge handle).2
      ⟨data, attached⟩
    exact ⟨isBound, (HandleSlots.get?_eq_some_iff.1 isBound).2⟩
  unique bridge other handle another data otherData attached otherAttached := by
    have sound := Command.sessionWorld_sound bound own commands
    have once : handle = another → bridge = other ∧ data = otherData := by
      rintro rfl
      exact sound.once bridge other handle data otherData attached otherAttached
    refine ⟨⟨?_, fun same => (once same).1⟩, fun same => (once same).2⟩
    rintro rfl
    have isBound := (sound.slots bridge handle).2 ⟨data, attached⟩
    have otherBound := (sound.slots bridge another).2 ⟨otherData, otherAttached⟩
    rw [otherBound, Option.some.injEq] at isBound
    exact isBound.symm
  living handle wrapper present := by
    have sound := Command.sessionWorld_sound bound own commands
    exact ⟨sound.own handle wrapper present, sound.shared handle wrapper present⟩
  returned outcomes builders world ends := (Command.session_of_end ends).placed.2.2
  stopped stop after ends := by
    obtain ⟨completed, command, rest, outcomes, builders, world, rfl, ran, session, -, stops⟩ :=
      Command.stopsAmong_of_end ends
    exact ⟨completed, command, rest, outcomes, builders, world, rfl, ran,
      stops.placed_eq.trans session.placed.2.2⟩
  forwarded world handle wrapper reached present perform request entry served := by
    have coherent := reached.coherent
    have isBound := (coherent.slots _ handle).2 ⟨_, coherent.own handle wrapper present⟩
    exact CallbackBridge.forward_bound isBound perform served
  recovered world handle wrapper reached present host request depth :=
    ⟨_, host.table_serves request, HostCallbacks.withSelf_exec present _ depth⟩
  deferred world handle wrapper reached present bridge employed depth request compiled after callback
      ends holds := by
    have coherent := reached.coherent
    have isBound := (coherent.slots _ handle).2 ⟨_, coherent.own handle wrapper present⟩
    rw [← coherent.shared handle wrapper present bridge employed] at isBound
    exact (CoprocessorBridge.compile_bound (perform_proceeds depth) reached.nested isBound
      request).of_completed ends callback holds

end RecompilerAdapter
