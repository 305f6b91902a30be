/-
Module: RecompilerAdapter.Proofs.SessionCoherence
Purpose: Sessions keep the invariant. It holds before anything has happened, and every command that
  completes keeps it; a session that stops takes one last step from a world in which it holds.
Trusted boundary: none
Main exports: LastStep, Sound, Reached, Command.coherent_of_end, Command.sessionWorld_sound
-/
import RecompilerAdapter.Proofs.Lawfulness

namespace RecompilerAdapter

variable {σ ν ρ : Type} {before after world : World σ ν} {candidate : Option HandleSlot}

/-- What is told while wrappers are built and deleted is bound to no law about runs. -/
theorem Event.Plain.free {event : Event ν} (plain : event.Plain) : event.Free := by
  cases event with
  | log line => cases line <;> trivial
  | _ => trivial

/-- Before anything has happened, there is nothing to agree with. -/
theorem coherent_initial (own : σ) : Coherent none (World.initial own : World σ ν) := by
  have noWrapper (handle : Handle) : (World.initial own : World σ ν).wrappers.get? handle = none :=
    rfl
  have noBinding (bridge : HandleSlot) :
      (World.initial own : World σ ν).slots.get? bridge = none := HandleSlots.get?_empty bridge
  have registered : Registered (World.initial own : World σ ν) := by
    constructor <;> simp [noWrapper, noBinding, Attached]
  have timed : Timed (World.initial own : World σ ν) := by
    constructor <;> simp [noWrapper, everRun]
  refine ⟨registered, timed, ⟨[], rfl, .nil⟩, ?_, .nil, fun _ => trivial, ?_⟩
  · intro handle wrapper compiled callback present
    rw [noWrapper] at present
    cases present
  · intro slot isCandidate
    cases isCandidate

section

variable {event : Event ν} (attaches : ∀ bridge handle data, event ≠ .attached bridge handle data)

include attaches

/-- An event that attaches no wrapper leaves all attachments as they are. -/
theorem attached_record (bridge : HandleSlot) (handle : Handle) (data : UserData) :
    Attached (world.record event).history bridge handle data ↔
      Attached world.history bridge handle data := by
  simp [Attached, (attaches bridge handle data).symm]

/-- So the slots still hold the handles of those that were attached. -/
theorem Registered.record (registered : Registered world) : Registered (world.record event) :=
  registered.frame (.recordAll world [event]) (attached_record attaches)

/-- An event that neither begins nor ends a run leaves the states of wrappers right. -/
theorem Timed.record (timed : Timed world) (quiet : event.Quiet) : Timed (world.record event) := by
  have still : Quiet world (world.record event) := .record quiet
  exact timed.frame (.recordAll world [event]) still.runs still.begun still.states
    (attached_record attaches)

/-- An event that neither begins nor ends a run leaves the lines about runs right, too. -/
theorem Told.record (told : Told world) (quiet : event.Quiet) : Told (world.record event) := by
  have still : Quiet world (world.record event) := .record quiet
  exact told.frame still.runs still.lines (attached_record attaches)

end

namespace Coherent

/-- Recording a lawful event that is no part of a run and no compile answer. -/
theorem record {event : Event ν} (coherent : Coherent candidate world) (quiet : event.Quiet)
    (attaches : ∀ bridge handle data, event ≠ .attached bridge handle data)
    (answers : ∀ bridge last, event.answerThrough bridge last = last)
    (lawful : Lawful candidate world.history event) (complete : event.Complete) :
    Coherent candidate (world.record event) := by
  refine ⟨coherent.toRegistered.record attaches, coherent.toTimed.record attaches quiet,
    coherent.told.record attaches quiet,
    coherent.remembers.frame (fun _ later found => ⟨later, found, rfl, .inl rfl⟩) fun bridge => ?_,
    ?_, ?_, coherent.unattached⟩
  · rw [World.history_record, lastAnswer_append_singleton, answers]
  · rw [World.history_record]
    exact coherent.lawful.append ⟨lawful, trivial⟩
  · rw [World.history_record]
    exact settled_concat complete

/-- What is told while wrappers are built and deleted keeps the invariant. -/
theorem record_plain {event : Event ν} (coherent : Coherent candidate world)
    (plain : event.Plain) : Coherent candidate (world.record event) := by
  refine coherent.record plain.quiet (fun _ _ _ isAttached => ?_) (fun _ _ => ?_)
    (.free plain.free (coherent.settled _)) plain.complete
  · rw [isAttached] at plain
    exact plain
  · cases event <;> first | rfl | exact plain.elim

/-- So do several such events. -/
theorem recordAll_plain {events : List (Event ν)} (coherent : Coherent candidate world)
    (plain : ∀ event ∈ events, event.Plain) : Coherent candidate (world.recordAll events) := by
  induction events generalizing world with
  | nil => exact coherent
  | cons event events ih =>
    exact ih (coherent.record_plain (plain event List.mem_cons_self)) fun later isLater =>
      plain later (List.mem_cons_of_mem event isLater)

/-- Opening a slot for a new wrapper keeps the invariant: nothing is attached by it yet. -/
theorem prepared (coherent : Coherent none world) (builder : Builder σ ν) :
    Coherent none (world.prepared builder) := by
  have allocated : Coherent none { world with slots := world.slots.allocate.2 } :=
    { coherent with
      slots := fun bridge handle => by
        rw [HandleSlots.get?_allocate]
        exact coherent.slots bridge handle
      unattached := nofun }
  exact allocated.record_plain trivial

/-- No wrapper has been put in place behind the handle of the next one. -/
theorem next_unattached (coherent : Coherent candidate world) (bridge : HandleSlot)
    (data : UserData) : ¬ Attached world.history bridge ⟨world.built + 1⟩ data := by
  intro attached
  have bound := (coherent.numbered bridge _ data attached).2
  exact Nat.not_succ_le_self _ bound

/-- Attaching a wrapper adds one attachment, of the new slot to the new handle. -/
theorem attached_iff {slot : HandleSlot} {data : UserData} {engine : Engine σ ν}
    (bridge : HandleSlot) (handle : Handle) (other : UserData) :
    Attached (world.attached slot data engine).history bridge handle other ↔
      Attached world.history bridge handle other ∨
        bridge = slot ∧ handle = ⟨world.built + 1⟩ ∧ other = data := by
  simp [Attached]

/-- Behind the new handle there is the new wrapper, and behind all others what was there. -/
theorem wrapper_attached {slot : HandleSlot} {data : UserData} {engine : Engine σ ν}
    {handle : Handle} {wrapper : Wrapper σ ν}
    (found : (world.attached slot data engine).wrappers.get? handle = some wrapper) :
    handle = ⟨world.built + 1⟩ ∧ wrapper = ⟨data, .constructed, engine⟩ ∨
      world.wrappers.get? handle = some wrapper := by
  rw [World.attached, World.wrappers_record, Registry.get?_insert] at found
  split at found
  · exact .inl ⟨‹_›, (Option.some.inj found).symm⟩
  · exact .inr found

/-- The new wrapper's slot holds its handle, and no other wrapper shares either: the slot was
unbound, and the handle is larger than all that were given out. -/
theorem attached_registered {slot : HandleSlot} {data : UserData} {engine : Engine σ ν}
    (coherent : Coherent none world) (created : slot.index < world.slots.bindings.size)
    (unbound : world.slots.get? slot = none)
    (callbacks : engine.configuration.callbacks.slot = slot)
    (coprocessors : ∀ bridge, some bridge ∈ engine.configuration.coprocessors →
      bridge.slot = slot) : Registered (world.attached slot data engine) where
  own handle wrapper found := by
    rw [attached_iff]
    rcases wrapper_attached found with ⟨rfl, rfl⟩ | there
    · exact .inr ⟨callbacks, rfl, rfl⟩
    · exact .inl (coherent.own handle wrapper there)
  shared handle wrapper found bridge employed := by
    rcases wrapper_attached found with ⟨rfl, rfl⟩ | there
    · exact (coprocessors bridge employed).trans callbacks.symm
    · exact coherent.shared handle wrapper there bridge employed
  slots bridge handle := by
    have filled : (world.attached slot data engine).slots =
        world.slots.fill slot ⟨world.built + 1⟩ := rfl
    simp only [attached_iff]
    rw [filled]
    -- The slot was unbound, so no earlier event can have told of a handle for it.
    by_cases same : bridge = slot
    · rw [same, HandleSlots.get?_fill_self created (by simp [Handle.isNull]), Option.some.injEq]
      constructor
      · rintro rfl
        exact ⟨data, .inr ⟨rfl, rfl, rfl⟩⟩
      · rintro ⟨other, earlier | ⟨-, rfl, -⟩⟩
        · rw [(coherent.slots slot handle).2 ⟨other, earlier⟩] at unbound
          cases unbound
        · rfl
    · rw [HandleSlots.get?_fill_other same, coherent.slots]
      simp [same]
  numbered bridge handle other isAttached := by
    rcases (attached_iff bridge handle other).1 isAttached with earlier | ⟨-, rfl, -⟩
    · have bound := coherent.numbered bridge handle other earlier
      exact ⟨bound.1, Nat.le_succ_of_le bound.2⟩
    · exact ⟨Nat.succ_pos _, Nat.le_refl _⟩
  once bridge other handle first second isAttached otherAttached := by
    rcases (attached_iff _ _ _).1 isAttached with earlier | ⟨rfl, rfl, rfl⟩ <;>
      rcases (attached_iff _ _ _).1 otherAttached with there | ⟨rfl, same, rfl⟩
    · exact coherent.once bridge other handle first second earlier there
    -- An earlier event with the new handle would contradict the numbering.
    · rw [same] at earlier
      exact absurd earlier (coherent.next_unattached _ _)
    · exact absurd there (coherent.next_unattached _ _)
    · exact ⟨rfl, rfl⟩

/-- The new wrapper has not run, and the history tells of no run of it, since it tells of no handle
that was not given out. -/
theorem attached_timed {slot : HandleSlot} {data : UserData} {engine : Engine σ ν}
    (coherent : Coherent none world) : Timed (world.attached slot data engine) := by
  have runs : openRuns (world.attached slot data engine).history = openRuns world.history := by
    simp [Event.nest]
  have begun (handle : Handle) :
      everRun (world.attached slot data engine).history handle = everRun world.history handle := by
    simp [Event.begins]
  have never : everRun world.history ⟨world.built + 1⟩ = false := by
    rw [← Bool.not_eq_true]
    intro ever
    obtain ⟨bridge, other, isAttached⟩ := coherent.begun _ ever
    exact coherent.next_unattached bridge other isAttached
  have closed : (⟨world.built + 1⟩ : Handle) ∉ openRuns world.history := by
    intro isOpen
    rw [everRun_of_mem_openRuns isOpen] at never
    cases never
  refine ⟨by rw [runs]; exact coherent.distinct, fun handle isOpen => ?_,
    fun handle wrapper found => ?_, fun handle ever => ?_⟩
  · rw [runs] at isOpen
    obtain ⟨wrapper, present⟩ := coherent.live handle isOpen
    have different : handle ≠ ⟨world.built + 1⟩ := by
      rintro rfl
      exact closed isOpen
    exact ⟨wrapper, by simp [World.attached, different, present]⟩
  · unfold stateAfter
    rw [runs, begun]
    rcases wrapper_attached found with ⟨rfl, rfl⟩ | there
    · rw [if_neg closed, never]
      rfl
    · exact coherent.states handle wrapper there
  · rw [begun] at ever
    obtain ⟨bridge, other, isAttached⟩ := coherent.begun handle ever
    exact ⟨bridge, other, (attached_iff _ _ _).2 (.inl isAttached)⟩

/-- A wrapper is put in place with its bridges. All parts of the invariant follow from the slot
being unbound and the handle being the next one. -/
theorem attached {slot : HandleSlot} {data : UserData} {engine : Engine σ ν}
    (coherent : Coherent none world) (created : slot.index < world.slots.bindings.size)
    (unbound : world.slots.get? slot = none)
    (callbacks : engine.configuration.callbacks.slot = slot)
    (coprocessors : ∀ bridge, some bridge ∈ engine.configuration.coprocessors →
      bridge.slot = slot)
    (fresh : Builder.Fresh engine) : Coherent none (world.attached slot data engine) := by
  have history := world.history_attached slot data engine
  refine ⟨coherent.attached_registered created unbound callbacks coprocessors,
    coherent.attached_timed, ?_, ?_, ?_, ?_, nofun⟩
  · obtain ⟨lines, same, matched⟩ := coherent.told
    refine ⟨lines, by rw [history, openLines_append, same]; rfl, ?_⟩
    rw [history, openRuns_append_singleton]
    exact matched.imp fun handle other ⟨bridge, isAttached⟩ => ⟨bridge, isAttached.append _⟩
  · intro handle wrapper compiled callback found isMode holds
    rcases wrapper_attached found with ⟨rfl, rfl⟩ | there
    · exact absurd isMode (fresh compiled)
    · rw [history, lastAnswer_append_singleton]
      exact coherent.remembers handle wrapper compiled callback there isMode holds
  · rw [history]
    refine coherent.lawful.append ⟨⟨⟨?_, ?_, coherent.next_unattached⟩, coherent.settled _, trivial,
      nofun, trivial⟩, trivial⟩
    · simp [Handle.isNull]
    · rintro ⟨handle, other, isAttached⟩
      rw [(coherent.slots slot handle).2 ⟨other, isAttached⟩] at unbound
      cases unbound
  · rw [history]
    exact settled_concat (by trivial)

/-- Deleting a wrapper that is inside no run keeps the invariant. -/
theorem remove (coherent : Coherent none world) (idle : openRuns world.history = [])
    (handle : Handle) : Coherent none (world.remove handle) := by
  have still {other : Handle} {wrapper : Wrapper σ ν}
      (found : (world.remove handle).wrappers.get? other = some wrapper) :
      world.wrappers.get? other = some wrapper := by
    rw [World.remove, Registry.get?_erase] at found
    split at found
    · cases found
    · exact found
  exact { coherent with
    own := fun other wrapper found => coherent.own other wrapper (still found)
    shared := fun other wrapper found => coherent.shared other wrapper (still found)
    live := fun other isOpen => by
      have isOpen : other ∈ openRuns world.history := isOpen
      rw [idle] at isOpen
      cases isOpen
    states := fun other wrapper found => coherent.states other wrapper (still found)
    remembers := fun other wrapper compiled callback found =>
      coherent.remembers other wrapper compiled callback (still found) }

/-! ### Commands -/

/-- Building keeps the invariant, whether the engine is constructed or not. -/
theorem builds {builder : Builder σ ν} {result : Except EngineError Handle}
    (coherent : Coherent none world) (builds : builder.Builds world result after) :
    Coherent none after := by
  cases builds with
  | @built probed engine reaches configured fresh =>
    have prepared := reaches.moves.coherent (coherent.prepared builder)
    have unbound := (builder.prepared_unbound world).later reaches
    rw [← configured] at unbound
    have callbacks : engine.configuration.callbacks.slot = world.slots.allocate.1 := by
      rw [configured]
      rfl
    refine prepared.attached ?_ ?_ callbacks (fun bridge employed => ?_) fresh
    · rw [reaches.steady.slots]
      simp [World.prepared, HandleSlots.allocate]
    · rw [← callbacks]
      exact unbound.callbacks
    · rw [configured] at employed
      exact builder.slot_of_employed employed
  | refused reaches =>
    exact (reaches.moves.coherent (coherent.prepared builder)).recordAll_plain
      (EngineConfiguration.releases_plain _)

end Coherent

namespace Command

variable {builders remaining : Builders σ ν} {command : Command σ ν ρ} {outcome : Outcome ρ}

/-- So does every command that completes, between whose events no run is open. -/
theorem Completes.coherent (completes : Completes builders world command outcome remaining after)
    (coherent : Coherent none world) (idle : openRuns world.history = []) :
    Coherent none after := by
  cases completes with
  | openBuilder => exact coherent.recordAll_plain (opening_plain _)
  | usePageTable | useOptions => exact coherent
  | install => exact coherent.recordAll_plain (CoprocessorTable.replaces_plain _ _)
  | reject => exact coherent.recordAll_plain (rejecting_plain _ _)
  | installAll | dropBuilder => exact coherent.recordAll_plain (Builder.releases_plain _)
  | build _ builds | refuse _ builds | construct builds => exact coherent.builds builds
  | delete =>
    exact (coherent.recordAll_plain (deleting_plain _)).remove
      (idle_plain idle (deleting_plain _)) _
  | call reaches => exact reaches.moves.coherent coherent

end Command

/-- By induction on the commands, the invariant holds whenever one has completed. -/
theorem Session.coherent {own : σ} {commands : List (Command σ ν ρ)} {outcomes : List (Outcome ρ)}
    {builders : Builders σ ν} (session : Session own commands outcomes builders world) :
    Coherent none world := by
  induction session with
  | nil => exact coherent_initial own
  | snoc session completes ih => exact completes.coherent ih session.idle

/-! ### Stopping -/

namespace Coherent

/-- A law for engines behind wrappers is a law for those and one under construction. -/
theorem widened {slot : HandleSlot} (coherent : Coherent none world)
    (unbound : world.slots.get? slot = none) : Coherent (some slot) world :=
  { coherent with
    lawful := fun before event after split => by
      have lawful := coherent.lawful before event after split
      refine ⟨lawful.identifies, lawful.follows, lawful.orderly, lawful.harmless, ?_⟩
      have permitted := lawful.permitted
      cases event with
      | compiling bridge => exact permitted.imp_right fun isCandidate => nomatch isCandidate.1
      | _ => exact permitted
    unattached := fun other isSlot => by
      cases isSlot
      exact unbound }

/-- An engine under construction calls a compile entry. -/
theorem probing {slot : HandleSlot} {index : Nat} {context : Context} {request : CompileRequest}
    (coherent : Coherent none world) (unbound : world.slots.get? slot = none) :
    Coherent (some slot) (world.record (.compiling slot index context request)) := by
  have unattached : ¬ IsAttached world.history slot := by
    rintro ⟨handle, data, attached⟩
    rw [(coherent.slots slot handle).2 ⟨data, attached⟩] at unbound
    cases unbound
  have first (earlier : Nat) (other : Context) (asked : CompileRequest) :
      .compiling slot earlier other asked ∉ world.history := by
    intro isEvent
    obtain ⟨before, after, split⟩ := List.append_of_mem isEvent
    rcases (coherent.lawful before _ after split).permitted with ⟨handle, data, attached⟩ | absurd
    · refine unattached ⟨handle, data, ?_⟩
      rw [split]
      exact attached.append _
    · cases absurd.1
  exact (coherent.widened unbound).record ⟨fun _ => rfl, fun _ => rfl, fun _ => rfl⟩ nofun
    (fun _ _ => rfl) ⟨trivial, coherent.settled _, trivial, nofun, .inr ⟨rfl, first⟩⟩ trivial

/-- Where constructing an engine stops, the invariant holds up to the last event. -/
theorem haltsProbing {configuration : EngineConfiguration σ ν} {stop : Stop}
    (coherent : Coherent none world) (unbound : Scripted.Unbound world configuration)
    (halts : Scripted.HaltsProbing configuration world stop after) :
    ∃ candidate last, Coherent candidate last ∧ Final last stop after := by
  rcases halts with ⟨last, moves, final⟩ |
    ⟨middle, bridge, request, moves, employed, last, onward, final⟩
  · exact ⟨none, last, moves.coherent coherent, final⟩
  · have still : middle.slots.get? bridge.slot = none := by
      rw [moves.steady.slots]
      exact unbound.coprocessors bridge employed
    exact ⟨_, last, onward.coherent ((moves.coherent coherent).probing still), final⟩

end Coherent

/-- The last step of a session that stops: that of the caller's code or an engine, or the refusal of
an engine on the foreign surface. -/
inductive LastStep (world : World σ ν) : Stop → World σ ν → Prop where
  | final {stop : Stop} {after : World σ ν} (final : Final world stop after) :
      LastStep world stop after
  | refusal {error : EngineError} : LastStep world (.fatal .constructionFailed)
      (world.record (.log (.constructorFailed (.engineConstruction error))))

/-- A command that stops takes one last step. -/
theorem Command.Stops.coherent {builders : Builders σ ν} {command : Command σ ν ρ} {stop : Stop}
    (stops : command.Stops builders world stop after) (coherent : Coherent none world) :
    ∃ candidate last, Coherent candidate last ∧ LastStep last stop after := by
  cases stops with
  | stuck harmless => exact ⟨none, _, coherent, .final (.stuck harmless)⟩
  | build _ halts | construct halts =>
    obtain ⟨candidate, last, probed, final⟩ :=
      (coherent.prepared _).haltsProbing (Builder.prepared_unbound _ _) halts
    exact ⟨candidate, last, probed, .final final⟩
  | fail builds => exact ⟨none, _, coherent.builds builds, .refusal⟩
  | call halts =>
    obtain ⟨last, moves, final⟩ := halts
    exact ⟨none, last, moves.coherent coherent, .final final⟩

/-- What holds of every world in which commands end, whether they complete or stop. It is less than
the invariant inside a session, since a stop may come in the middle of anything. -/
structure Sound (world : World σ ν) : Prop extends Registered world, Timed world where
  told : Told world
  identifies : EveryEvent Identifies world.history
  follows : EveryEvent Follows world.history
  orderly : EveryEvent Orderly world.history

/-- What is left of the invariant once the lawfulness of the last event may be in doubt. -/
theorem Coherent.sound (coherent : Coherent candidate world) : Sound world where
  toRegistered := coherent.toRegistered
  toTimed := coherent.toTimed
  told := coherent.told
  identifies before event rest split := (coherent.lawful before event rest split).identifies
  follows before event rest split := (coherent.lawful before event rest split).follows
  orderly before event rest split := (coherent.lawful before event rest split).orderly

/-- One more event that only the laws of fatal conditions are about. -/
theorem Sound.record {event : Event ν} (sound : Sound world) (quiet : event.Quiet)
    (attaches : ∀ bridge handle data, event ≠ .attached bridge handle data)
    (identifies : Identifies world.history event) (follows : Follows world.history event)
    (orderly : Orderly world.history event) : Sound (world.record event) := by
  refine ⟨sound.toRegistered.record attaches, sound.toTimed.record attaches quiet,
    sound.told.record attaches quiet, ?_, ?_, ?_⟩ <;> rw [World.history_record]
  · exact sound.identifies.append ⟨identifies, trivial⟩
  · exact sound.follows.append ⟨follows, trivial⟩
  · exact sound.orderly.append ⟨orderly, trivial⟩

/-- A script that is handed over changes nothing of it. -/
theorem Sound.scheduled (sound : Sound world) (script : Option (List EngineOperation)) :
    Sound (world.scheduled script) := by
  cases script with
  | none => exact sound
  | some => exact { sound with }

/-- The last step records at most the event that ends everything, or an action on nothing. -/
theorem LastStep.sound {stop : Stop} (step : LastStep world stop after)
    (coherent : Coherent candidate world) : Sound after := by
  have sound := coherent.sound
  have acts (surface : Surface) (handle : Handle) (action : Action)
      (script : Option (List EngineOperation)) :
      Sound ((world.scheduled script).record (.acting surface handle action)) := by
    refine (sound.scheduled script).record ⟨fun _ => rfl, fun _ => rfl, fun _ => rfl⟩ nofun trivial
      ?_ trivial
    rw [World.scheduled_history]
    exact coherent.settled _
  rcases step with final | _
  · cases final with
    | stuck => exact sound
    | dangling | reentrant => exact acts _ _ _ _
    | unarranged => exact acts _ _ _ none
    | unboundRequest | unboundCompile | fallback =>
      exact sound.record ⟨fun _ => rfl, fun _ => rfl, fun _ => rfl⟩ nofun trivial
        (coherent.settled _) trivial
  · exact sound.record ⟨fun _ => rfl, fun _ => rfl, fun _ => rfl⟩ nofun trivial
      (coherent.settled _) trivial

namespace Command

/-- Commands that do not all complete end with one last step. -/
theorem coherent_of_end {bound : Nat} {own : σ} {commands : List (Command σ ν ρ)} {stop : Stop}
    (ends : sessionEnd bound own commands = .error stop after) :
    ∃ candidate last, Coherent candidate last ∧ LastStep last stop after := by
  obtain ⟨_, _, _, _, _, _, -, -, session, -, stops⟩ := stopsAmong_of_end ends
  exact stops.coherent session.coherent

/-- Wherever a session ends, what holds of the end is sound. -/
theorem sessionWorld_sound (bound : Nat) (own : σ) (commands : List (Command σ ν ρ)) :
    Sound (sessionWorld bound own commands) := by
  cases ends : sessionEnd bound own commands with
  | ok result after =>
    rw [sessionWorld_of_ok ends]
    exact (session_of_end ends).coherent.sound
  | error stop after =>
    rw [sessionWorld_of_error ends]
    obtain ⟨candidate, last, coherent, step⟩ := coherent_of_end ends
    exact step.sound coherent

end Command

/-! ### While a session goes on -/

/-- A world to which the caller's code or an engine may move when commands have completed.
Statements about every moment of a session are about all these worlds. -/
def Reached (bound : Nat) (own : σ) (commands : List (Command σ ν ρ)) (world : World σ ν) : Prop :=
  ∃ outcomes builders between,
    Command.sessionEnd bound own commands = .ok (outcomes, builders) between ∧ Moves between world

section

variable {bound : Nat} {own : σ} {commands : List (Command σ ν ρ)}

/-- The invariant holds at every moment of a session, not only between commands. -/
theorem Reached.coherent (reached : Reached bound own commands world) : Coherent none world := by
  obtain ⟨outcomes, builders, between, ends, moves⟩ := reached
  exact moves.coherent (Command.session_of_end ends).coherent

/-- And so does the nesting of runs. -/
theorem Reached.nested (reached : Reached bound own commands world) : Nested world := by
  obtain ⟨outcomes, builders, between, ends, moves⟩ := reached
  exact moves.nested (.of_idle (Command.session_of_end ends).idle)

end

end RecompilerAdapter
