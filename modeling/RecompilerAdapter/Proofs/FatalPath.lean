/-
Module: RecompilerAdapter.Proofs.FatalPath
Purpose: When everything ends. A session ends with a fatal condition exactly if its history ends with an
  event that causes it, and no event but the last one ever does; so the reason is that of the first cause.
  A compile call is such an event when its entry has answered, because only then the handle is fetched.
Trusted boundary: none
Main exports: EndsAs, Refuses, FatalPath, LastStep.permitted, Command.sessionEnd_endsAs
-/
import RecompilerAdapter.Proofs.SessionCoherence

namespace RecompilerAdapter

variable {σ ν ρ : Type} {after world : World σ ν} {candidate : Option HandleSlot}

/-- An event ends everything for one reason at most. -/
theorem Causes.unique {before : List (Event ν)} {event : Event ν} {reason other : Fatal}
    (causes : Causes before event reason) (otherwise : Causes before event other) :
    reason = other := by
  cases causes <;> cases otherwise <;> rfl

/-- No event of the history ends everything. As long as a session goes on, this holds of it. -/
def Harmless (history : List (Event ν)) : Prop :=
  EveryEvent (fun before event => ∀ reason, ¬ Causes before event reason) history

/-- How a session has ended, judged by its history: for the reason that the last event gives, or for
none. -/
def EndsAs (stop : Stop) (history : List (Event ν)) : Prop :=
  (∃ before event reason, stop = .fatal reason ∧ history = before ++ [event] ∧
    Causes before event reason ∧ Harmless before) ∨
  (∀ reason, stop ≠ .fatal reason) ∧ Harmless history

theorem Coherent.harmless (coherent : Coherent candidate world) : Harmless world.history :=
  fun before event rest split => (coherent.lawful before event rest split).harmless

/-- The last step of a session records the cause of the abort, if there is one. Nothing that was
recorded before is such a cause, because the world was coherent. -/
theorem LastStep.endsAs {stop : Stop} (step : LastStep world stop after)
    (coherent : Coherent candidate world) : EndsAs stop after.history := by
  have unattached {slot : HandleSlot} (unbound : world.slots.get? slot = none) :
      ¬ IsAttached world.history slot := by
    rintro ⟨handle, data, attached⟩
    rw [(coherent.slots slot handle).2 ⟨data, attached⟩] at unbound
    cases unbound
  have ends {event : Event ν} {reason : Fatal} (causes : Causes world.history event reason) :
      EndsAs (.fatal reason) (world.record event).history :=
    .inl ⟨world.history, event, reason, rfl, World.history_record world event, causes,
      coherent.harmless⟩
  rcases step with final | _
  · cases final with
    | stuck harmless => exact .inr ⟨harmless, coherent.harmless⟩
    -- Nobody is inside a run of a wrapper that is not there, so this event is not the cause of an
    -- abort.
    | @dangling surface handle action script absent =>
      refine .inr ⟨nofun, ?_⟩
      rw [World.history_record, World.scheduled_history]
      refine coherent.harmless.append ⟨fun reason causes => ?_, trivial⟩
      cases causes with
      | reentrance running =>
        obtain ⟨wrapper, present⟩ := coherent.live handle running
        rw [present] at absent
        cases absent
    | unarranged =>
      refine .inr ⟨nofun, ?_⟩
      rw [World.history_record]
      exact coherent.harmless.append ⟨nofun, trivial⟩
    | @reentrant handle wrapper script present running =>
      rw [coherent.states handle wrapper present, stateAfter_eq_running_iff] at running
      refine .inl ⟨world.history, .acting .foreign handle (.run script), _, rfl, ?_,
        .reentrance running, coherent.harmless⟩
      rw [World.history_record, World.scheduled_history]
    | unboundRequest unbound => exact ends (.call (unattached unbound))
    | unboundCompile unbound => exact ends (.compile (unattached unbound))
    | fallback => exact ends .fallback
  · exact ends .construction

namespace EndsAs

variable {stop : Stop} {history : List (Event ν)}

theorem fatal_iff (ends : EndsAs stop history) (reason : Fatal) :
    stop = .fatal reason ↔
      ∃ before event, history = before ++ [event] ∧ Causes before event reason := by
  constructor
  · rintro rfl
    rcases ends with ⟨before, event, other, isReason, split, causes, -⟩ | ⟨harmless, -⟩
    · cases isReason
      exact ⟨before, event, split, causes⟩
    · exact absurd rfl (harmless reason)
  · rintro ⟨before, event, split, causes⟩
    rcases ends with ⟨earlier, last, other, rfl, same, otherwise, -⟩ | ⟨-, harmless⟩
    · rw [split] at same
      obtain ⟨rfl, isLast⟩ := List.append_inj' same rfl
      cases isLast
      rw [causes.unique otherwise]
    · exact absurd causes (harmless before event [] split reason)

/-- Nothing comes after a cause. -/
theorem last (ends : EndsAs stop history) {before rest : List (Event ν)} {event : Event ν}
    {reason : Fatal} (split : history = before ++ event :: rest)
    (causes : Causes before event reason) : rest = [] := by
  rcases ends with ⟨earlier, final, other, -, same, -, harmless⟩ | ⟨-, harmless⟩
  · rcases rest.eq_nil_or_concat' with isNil | ⟨some, last, rfl⟩
    · exact isNil
    · rw [split, ← List.cons_append, ← List.append_assoc] at same
      obtain ⟨isEarlier, -⟩ := List.append_inj' same rfl
      exact absurd causes (harmless before event some isEarlier.symm reason)
  · exact absurd causes (harmless before event rest split reason)

end EndsAs

/-! ### Compile calls of an engine under construction -/

/-- After the last step, an engine under construction is the only one that has called a compile
entry without a wrapper. -/
theorem LastStep.permitted {stop : Stop} (step : LastStep world stop after)
    (coherent : Coherent candidate world) :
    EveryEvent (Permitted candidate) after.history ∧
      ∀ slot, candidate = some slot → ¬ IsAttached after.history slot := by
  have permitted : EveryEvent (Permitted candidate) world.history :=
    fun before event rest split => (coherent.lawful before event rest split).permitted
  have unattached (slot : HandleSlot) (isCandidate : candidate = some slot) :
      ¬ IsAttached world.history slot := by
    rintro ⟨handle, data, attached⟩
    have isBound := (coherent.slots slot handle).2 ⟨data, attached⟩
    rw [coherent.unattached slot isCandidate] at isBound
    cases isBound
  have other {event : Event ν} (isPermitted : Permitted candidate world.history event)
      (attaches : event.attachment? = none) :
      EveryEvent (Permitted candidate) (world.history ++ [event]) ∧
        ∀ slot, candidate = some slot → ¬ IsAttached (world.history ++ [event]) slot := by
    refine ⟨permitted.append ⟨isPermitted, trivial⟩, fun slot isCandidate => ?_⟩
    rintro ⟨handle, data, attached⟩
    rcases List.mem_append.1 attached with earlier | isLast
    · exact unattached slot isCandidate ⟨handle, data, earlier⟩
    · obtain rfl := List.mem_singleton.1 isLast
      cases attaches
  rcases step with final | _
  -- Only attaching would bind the slot of an engine under construction, and no last step attaches.
  · cases final with
    | stuck => exact ⟨permitted, unattached⟩
    | dangling | reentrant =>
      rw [World.history_record, World.scheduled_history]
      exact other trivial rfl
    | unboundRequest =>
      rw [World.history_record]
      exact other (fun unserved => Bool.noConfusion unserved) rfl
    | unarranged | unboundCompile | fallback =>
      rw [World.history_record]
      exact other trivial rfl
  · rw [World.history_record]
    exact other trivial rfl

/-- If a compile call found no wrapper, it was the only one of its engine, which never got one. -/
theorem unattached_compiling {history before rest : List (Event ν)} {bridge : HandleSlot}
    {slot : Nat} {context : Context} {request : CompileRequest}
    (permitted : EveryEvent (Permitted candidate) history)
    (unattached : ∀ slot, candidate = some slot → ¬ IsAttached history slot)
    (split : history = before ++ .compiling bridge slot context request :: rest)
    (isUnattached : ¬ IsAttached before bridge) :
    candidate = some bridge ∧ ¬ IsAttached history bridge ∧
      (∀ slot context request, .compiling bridge slot context request ∉ before) ∧
      ∀ slot context request, .compiling bridge slot context request ∉ rest := by
  obtain ⟨isCandidate, first⟩ := (permitted before _ rest split).resolve_left isUnattached
  refine ⟨isCandidate, unattached bridge isCandidate, first, fun other another asked isLater => ?_⟩
  obtain ⟨between, final, same⟩ := List.append_of_mem isLater
  have further := permitted (before ++ .compiling bridge slot context request :: between)
    (.compiling bridge other another asked) final (by simp [split, same])
  rcases further with ⟨handle, data, attached⟩ | ⟨-, none⟩
  · refine unattached bridge isCandidate ⟨handle, data, ?_⟩
    rw [split, same, ← List.cons_append, ← List.append_assoc]
    exact attached.append _
  · exact none slot context request (by simp)

/-! ### Refused engines -/

section

variable {perform : Performer σ ν} {userData : UserData} {callbacks : CallbackTable σ ν}
  {pageTable : Option (PageTable σ)}
  {coprocessors : Option (Vector (WireOption (CoprocessorTable σ ν)) coprocessorCount)}
  {engine : EngineChoice} {builders : Builders σ ν}

/-- The constructor of the engine of a foreign wrapper returns an error. -/
def Refuses (perform : Performer σ ν) (world : World σ ν) (builder : Builder σ ν)
    (engine : EngineChoice) : Prop :=
  ∃ error refused, engine.construct perform (builder.configuration world.slots.allocate.1)
    (world.prepared builder) = .ok (.error error) refused

/-- A builder prepares the world, lets the engine be constructed, and then puts it behind a wrapper
or drops its configuration. -/
theorem build_apply (perform : Performer σ ν) (builder : Builder σ ν) (engine : EngineChoice)
    (world : World σ ν) :
    builder.build perform engine world =
      (do
        match ← engine.construct perform (builder.configuration world.slots.allocate.1) with
        | .ok engine => return .ok (← builder.attach world.slots.allocate.1 engine)
        | .error error =>
          (builder.configuration world.slots.allocate.1).drop
          return .error error : Exec σ ν (Except EngineError Handle)) (world.prepared builder) :=
  rfl

theorem construct_of_refuses (builders : Builders σ ν)
    (refuses : Refuses perform world
      (Command.foreignBuilder userData callbacks pageTable coprocessors) engine) :
    ∃ after, (Command.construct (ρ := ρ) userData callbacks pageTable coprocessors engine).exec
      perform builders world = .error (.fatal .constructionFailed) after := by
  obtain ⟨error, refused, constructs⟩ := refuses
  have built := (build_apply perform (Command.foreignBuilder userData callbacks pageTable
    coprocessors) engine world).trans (Exec.bind_of_ok constructs)
  have dropped := built.trans (Exec.bind_of_ok (EngineConfiguration.drop_records _ refused))
  have stops := (congrFun (Command.construct_eq userData callbacks pageTable coprocessors engine)
    world).trans (Exec.bind_of_ok dropped)
  exact ⟨_, Exec.bind_of_error stops⟩

/-- A foreign constructor aborts for its own reason only if its engine is refused. While the engine
is constructed, there are other reasons, and with an engine the wrapper is put in place. -/
theorem refuses_of_construct (proceeds : perform.Proceeds) (idle : openRuns world.history = [])
    (stops : (Command.construct (ρ := ρ) userData callbacks pageTable coprocessors engine).exec
      perform builders world = .error (.fatal .constructionFailed) after) :
    Refuses perform world (Command.foreignBuilder userData callbacks pageTable coprocessors)
      engine := by
  let builder := Command.foreignBuilder userData callbacks pageTable coprocessors
  have idlePrepared := (world.openRuns_prepared builder).trans idle
  have unbound := builder.prepared_unbound world
  have ensured := engine.construct_ensures proceeds (.of_idle idlePrepared) unbound idlePrepared
  have built := build_apply perform builder engine world
  cases constructs : engine.construct perform (builder.configuration world.slots.allocate.1)
      (world.prepared builder) with
  | ok result probed =>
    cases result with
    | error error => exact ⟨error, probed, constructs⟩
    | ok constructed =>
      -- The wrapper is put in place, so the command completes.
      have reaches := (ensured.of_completed constructs).1
      have attached : (builder.attach world.slots.allocate.1 constructed).Ensures probed _
          fun _ _ => False := Builder.attach_ensures (unbound.later reaches).callbacks
      obtain ⟨handle, placed, attaches, -⟩ := attached.completes
      have completed := (built.trans (Exec.bind_of_ok constructs)).trans (Exec.bind_of_ok attaches)
      have constructed := (congrFun (Command.construct_eq userData callbacks pageTable coprocessors
        engine) world).trans (Exec.bind_of_ok completed)
      have finished := (Exec.bind_of_ok constructed).symm.trans stops
      cases finished
  | error stop probed =>
    have constructed := (congrFun (Command.construct_eq userData callbacks pageTable coprocessors
      engine) world).trans (Exec.bind_of_error (built.trans (Exec.bind_of_error constructs)))
    have same := (Exec.bind_of_error constructed).symm.trans stops
    rw [EStateM.Result.error.injEq] at same
    exact absurd same.1 (ensured.of_stopped constructs).ne_constructionFailed

end

/-! ### Sessions -/

/-- When the fatal path is taken in a session: after which events, for which reasons, and what an
engine without a handle can have done before. -/
structure FatalPath (bound : Nat) (own : σ) (commands : List (Command σ ν ρ)) : Prop where
  /-- It is taken exactly if the last event is a cause, and for the reason of that cause. -/
  reason : ∀ reason,
    (∃ after, Command.sessionEnd bound own commands = .error (.fatal reason) after) ↔
      ∃ before event, (Command.sessionWorld bound own commands).history = before ++ [event] ∧
        Causes before event reason
  /-- Nothing happens after a cause, so the last event is the first cause. -/
  last : ∀ before event rest reason,
    (Command.sessionWorld bound own commands).history = before ++ event :: rest →
      Causes before event reason → rest = []
  /-- An entry of the host is called only through a bridge that has got its handle. -/
  requests : ∀ before handle request rest,
    (Command.sessionWorld bound own commands).history =
      before ++ .requested handle request :: rest →
    ∃ bridge data, before.getLast? = some (.calling bridge request true) ∧
      Attached before bridge handle data
  /-- A compile entry that is called through a bridge without a handle is called only once through
  that bridge, which never gets one; the session does not go on; and if the entry answers at all,
  the answer is the last event and the handle is what is missing. -/
  compiles : ∀ before bridge slot context request rest,
    (Command.sessionWorld bound own commands).history =
      before ++ .compiling bridge slot context request :: rest →
    ¬ IsAttached before bridge →
    (∃ stop after, Command.sessionEnd bound own commands = .error stop after) ∧
    ¬ IsAttached (Command.sessionWorld bound own commands).history bridge ∧
    (∀ slot context request, .compiling bridge slot context request ∉ before ∧
      .compiling bridge slot context request ∉ rest) ∧
    ∀ between slot context request answer later,
      rest = between ++ .compiled bridge slot context request answer :: later →
      later = [] ∧
        ∃ after, Command.sessionEnd bound own commands = .error (.fatal .unboundHandle) after
  /-- The construction of an engine is the reason exactly if a foreign constructor got an error from
  its engine. -/
  construction :
    (∃ after, Command.sessionEnd bound own commands =
      .error (.fatal .constructionFailed) after) ↔
    ∃ completed rest userData callbacks pageTable coprocessors engine outcomes builders world,
      commands = completed ++ .construct userData callbacks pageTable coprocessors engine :: rest ∧
      Command.sessionEnd bound own completed = .ok (outcomes, builders) world ∧
      Refuses (perform bound) world
        (Command.foreignBuilder userData callbacks pageTable coprocessors) engine

namespace Command

variable {bound : Nat} {own : σ} {commands : List (Command σ ν ρ)}

/-- A session that completes is harmless, and one that does not ends as its history says. -/
theorem sessionEnd_endsAs (bound : Nat) (own : σ) (commands : List (Command σ ν ρ)) :
    (∃ result after, sessionEnd bound own commands = .ok result after) ∧
        Harmless (sessionWorld bound own commands).history ∨
      ∃ stop after, sessionEnd bound own commands = .error stop after ∧
        EndsAs stop (sessionWorld bound own commands).history := by
  cases ends : sessionEnd bound own commands with
  | ok result after =>
    rw [sessionWorld_of_ok ends]
    exact .inl ⟨⟨result, after, rfl⟩, (session_of_end ends).coherent.harmless⟩
  | error stop after =>
    rw [sessionWorld_of_error ends]
    obtain ⟨candidate, last, coherent, step⟩ := coherent_of_end ends
    exact .inr ⟨stop, after, rfl, step.endsAs coherent⟩

theorem sessionEnd_fatal_iff (reason : Fatal) :
    (∃ after, sessionEnd bound own commands = .error (.fatal reason) after) ↔
      ∃ before event, (sessionWorld bound own commands).history = before ++ [event] ∧
        Causes before event reason := by
  rcases sessionEnd_endsAs bound own commands with ⟨⟨result, after, ends⟩, harmless⟩ |
    ⟨stop, after, ends, endsAs⟩
  · rw [ends]
    constructor
    · rintro ⟨_, impossible⟩
      cases impossible
    · rintro ⟨before, event, split, causes⟩
      exact absurd causes (harmless before event [] split reason)
  · rw [ends, ← endsAs.fatal_iff reason]
    constructor
    · rintro ⟨_, same⟩
      cases same
      rfl
    · rintro rfl
      exact ⟨after, rfl⟩

theorem nothing_after_cause {before rest : List (Event ν)} {event : Event ν} {reason : Fatal}
    (split : (sessionWorld bound own commands).history = before ++ event :: rest)
    (causes : Causes before event reason) : rest = [] := by
  rcases sessionEnd_endsAs bound own commands with ⟨-, harmless⟩ | ⟨stop, after, -, endsAs⟩
  · exact absurd causes (harmless before event rest split reason)
  · exact endsAs.last split causes

/-- A compile entry that is called through a slot without a wrapper stops the session. The wrapper
is never attached, and the entry is the only one called through the slot. -/
theorem compiling_unattached {before rest : List (Event ν)} {bridge : HandleSlot} {slot : Nat}
    {context : Context} {request : CompileRequest}
    (split : (sessionWorld bound own commands).history =
      before ++ .compiling bridge slot context request :: rest)
    (isUnattached : ¬ IsAttached before bridge) :
    (∃ stop after, sessionEnd bound own commands = .error stop after) ∧
    ¬ IsAttached (sessionWorld bound own commands).history bridge ∧
    ∀ slot context request, .compiling bridge slot context request ∉ before ∧
      .compiling bridge slot context request ∉ rest := by
  cases ends : sessionEnd bound own commands with
  | ok result after =>
    rw [sessionWorld_of_ok ends] at split
    have coherent := (session_of_end ends).coherent
    have permitted := (coherent.lawful before _ rest split).permitted
    rcases permitted with attached | ⟨noCandidate, -⟩
    · exact absurd attached isUnattached
    · cases noCandidate
  | error stop after =>
    rw [sessionWorld_of_error ends] at split ⊢
    obtain ⟨candidate, last, coherent, step⟩ := coherent_of_end ends
    obtain ⟨permitted, unattached⟩ := step.permitted coherent
    obtain ⟨-, never, notBefore, notAfter⟩ :=
      unattached_compiling permitted unattached split isUnattached
    exact ⟨⟨stop, after, rfl⟩, never, fun slot context request =>
      ⟨notBefore slot context request, notAfter slot context request⟩⟩

/-- A session ends with a failed construction exactly if its commands come to a foreign constructor
whose engine is refused. -/
theorem sessionEnd_constructionFailed_iff :
    (∃ after, sessionEnd bound own commands = .error (.fatal .constructionFailed) after) ↔
    ∃ completed rest userData callbacks pageTable coprocessors engine outcomes builders world,
      commands = completed ++ .construct userData callbacks pageTable coprocessors engine :: rest ∧
      sessionEnd bound own completed = .ok (outcomes, builders) world ∧
      Refuses (perform bound) world (foreignBuilder userData callbacks pageTable coprocessors)
        engine := by
  constructor
  · rintro ⟨after, ends⟩
    obtain ⟨completed, command, rest, outcomes, builders, world, rfl, ran, session, stops, how⟩ :=
      stopsAmong_of_end ends
    cases how with
    | stuck harmless => exact absurd rfl (harmless _)
    | build _ halts => exact absurd rfl halts.ne_constructionFailed
    | call halts => exact absurd rfl halts.ne_constructionFailed
    | construct | fail =>
      exact ⟨completed, rest, _, _, _, _, _, outcomes, builders, world, rfl, ran,
        refuses_of_construct (perform_proceeds bound) session.idle stops⟩
  · rintro ⟨completed, rest, userData, callbacks, pageTable, coprocessors, engine, outcomes,
      builders, world, rfl, ran, refuses⟩
    obtain ⟨after, stops⟩ := construct_of_refuses (ρ := ρ) builders refuses
    refine ⟨after, ?_⟩
    rw [sessionEnd, execAll_append, Exec.bind_of_ok ran]
    exact Exec.bind_of_error (Exec.bind_of_error stops)

end Command

/-- The fatal path is taken at the first cause and at no other time, whatever engines and callbacks
do. -/
theorem fatalPath (bound : Nat) (own : σ) (commands : List (Command σ ν ρ)) :
    FatalPath bound own commands where
  reason := Command.sessionEnd_fatal_iff
  last _ _ _ _ := Command.nothing_after_cause
  requests before handle request rest split :=
    ((Command.sessionWorld_sound bound own commands).identifies before _ rest split).2
  compiles before bridge slot context request rest split isUnattached := by
    obtain ⟨stops, never, once⟩ := Command.compiling_unattached split isUnattached
    refine ⟨stops, never, once, ?_⟩
    rintro between index holder asked answer later rfl
    rw [← List.cons_append, ← List.append_assoc] at split
    have causes : Causes (before ++ .compiling bridge slot context request :: between)
        (.compiled bridge index holder asked answer) .unboundHandle := by
      refine .compile ?_
      rintro ⟨handle, data, attached⟩
      refine never ⟨handle, data, ?_⟩
      rw [split]
      exact attached.append _
    have isLast := Command.nothing_after_cause split causes
    subst isLast
    exact ⟨rfl, (Command.sessionEnd_fatal_iff _).2 ⟨_, _, split, causes⟩⟩
  construction := Command.sessionEnd_constructionFailed_iff

end RecompilerAdapter
