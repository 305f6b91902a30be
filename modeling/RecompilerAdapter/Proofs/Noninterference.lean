/-
Module: RecompilerAdapter.Proofs.Noninterference
Purpose: Wrappers do not interfere. A session may build, run, change and delete many wrappers with
  stepping engines, by commands or inside callbacks of each other, at any depth. If the hosts and
  coprocessors of the others have no part in what belongs to one wrapper, and no callback of theirs acts
  on it, builds it or deletes it, then all that is seen of it is the same in the session that is left
  without the others: what its commands yield, the calls of its tables and contexts and its log lines in
  their order, and how it stands in the end.
Trusted boundary: none
Main exports: Condition, Wrapper.condition, Noninterference
-/
import RecompilerAdapter.Proofs.EncodedSteps
import RecompilerAdapter.Proofs.SolitarySessions

namespace RecompilerAdapter

variable {σ ν ω ρ : Type}

/-- What is seen of a wrapper and its engine. -/
structure Condition where
  userData : UserData
  state : RunState
  registers : Registers
  extensionRegisters : ExtensionRegisters
  programStatus : UInt32
  floatingPointStatus : UInt32
  haltRequested : Bool
deriving DecidableEq

/-- How a wrapper stands. -/
def Wrapper.condition (wrapper : Wrapper σ ν) : Condition where
  userData := wrapper.userData
  state := wrapper.state
  registers := wrapper.engine.registers
  extensionRegisters := wrapper.engine.extensionRegisters
  programStatus := wrapper.engine.programStatus
  floatingPointStatus := wrapper.engine.floatingPointStatus
  haltRequested := wrapper.engine.haltRequested

theorem Wrapper.Alone.condition {own : Belongings σ ν ω} {wrapper other : Wrapper σ ν}
    (alone : wrapper.Alone own other) : wrapper.condition = other.condition := by
  unfold Wrapper.condition
  rw [alone.userData, alone.state, alone.engine.registers, alone.engine.extensionRegisters,
    alone.engine.programStatus, alone.engine.floatingPointStatus, alone.engine.haltRequested]

/-- Before anything has happened, nothing distinguishes a wrapper among others from the wrapper
alone. -/
theorem reached_initial (own : Belongings σ ν ω) (host : σ) :
    (BuildStage.ahead none).Reached own .empty (World.initial host) .empty (.initial host) := by
  have unbound (slot : HandleSlot) : (World.initial host : World σ ν).slots.get? slot = none :=
    HandleSlots.get?_empty slot
  refine ⟨⟨⟨fun slot isBound => ?_, fun _ _ _ present => ?_⟩, .none, ?_, rfl⟩, fun _ _ _ isFound => ?_,
    .unopened ⟨rfl, rfl⟩ fun _ => rfl⟩
  · rw [unbound] at isBound
    cases isBound
  · cases present
  · rw [unbound, unbound]
    exact .none
  · cases isFound

/-- What holds of one wrapper in a session of many that has completed. -/
structure Noninterference (own : Belongings σ ν ω) (arrangements : Arrangements σ ν) (bound : Nat)
    (host : σ) (commands : List (Command σ ν ρ)) (outcomes : List (Outcome ρ)) (builders : Builders σ ν)
    (world : World σ ν) : Prop where
  /-- The session has a chronicle, which tells of each command what it has yielded and which events
  are its own. -/
  told : ∃ entries, Chronicle (performArranged arrangements bound) .empty (.initial host) entries
    builders world ∧ entries.map (·.command) = commands ∧ entries.map (·.outcome) = outcomes
  /-- Whatever the entries are, what is left of them without the others is the chronicle of a
  session, too. The commands about the wrapper yield in it what they have yielded, with the events
  that belong to the wrapper. In the end, what the wrapper owns of the shared state and the wrapper
  itself are the same. -/
  remains : ∀ entries others, Chronicle (performArranged arrangements bound) .empty (.initial host) entries
    builders world → entries.map (·.command) = commands →
      Reduces own (.ahead none) entries others → ∃ remaining final,
        Chronicle (performArranged arrangements bound) .empty (.initial host) others remaining final ∧
        Command.execAll (performArranged arrangements bound) .empty (others.map (·.command))
          (.initial host) = .ok (others.map (·.outcome), remaining) final ∧
        final.history = others.flatMap (·.events) ∧
        own.view final.shared = own.view world.shared ∧
        (final.wrappers.get? .first).map Wrapper.condition =
          (world.wrappers.get? own.handle).map Wrapper.condition
  /-- A caller that has arranged nothing acts as one without arrangements, so this is about all
  sessions in which nothing is built or deleted inside callbacks, too. -/
  plain : (∀ number, arrangements number = none) →
    (performArranged arrangements bound : Performer σ ν) = perform bound

/-- All that is seen of a wrapper is the same in the session that is left without the others. The
chronicle is followed entry by entry: what the others do leaves the lone session where it is, and
what is done with the wrapper recurs in it. -/
theorem noninterference {own : Belongings σ ν ω} (counted : own.actions = true)
    {arrangements : Arrangements σ ν} (avoid : arrangements.Avoid own) {bound : Nat} {host : σ}
    {commands : List (Command σ ν ρ)} {outcomes : List (Outcome ρ)} {builders : Builders σ ν}
    {world : World σ ν}
    (completes : Command.execAll (performArranged arrangements bound) .empty commands (.initial host) =
      .ok (outcomes, builders) world)
    (undisturbed : Command.Undisturbed arrangements own.handle own.slot bound host commands) :
    Noninterference own arrangements bound host commands outcomes builders world where
  told := Command.chronicle_of_execAll completes
  remains entries others chronicle isCommands reduces := by
    subst isCommands
    have attended := chronicle.attended (undisturbed.trans completes)
    obtain ⟨remaining, final, lone, alone⟩ :=
      reduces.chronicle counted avoid attended (reached_initial own host)
    -- The lone session was carried out with a stricter performer, which stops where no wrapper is found
    -- and has no arrangements. It has completed, so the general performer completes it in the same way.
    have chronicleToo : Chronicle (performArranged arrangements bound) .empty (.initial host) others
        remaining final :=
      (lone.completedBy (performPresent_completedBy bound)).completedBy
        (perform_completedBy arrangements bound)
    refine ⟨remaining, final, chronicleToo, chronicleToo.execAll, ?_, alone.view.symm, ?_⟩
    · rw [chronicleToo.history, World.history_initial, List.nil_append]
    · have wrappers := alone.wrapper
      generalize world.wrappers.get? own.handle = wrapper at wrappers ⊢
      generalize final.wrappers.get? .first = other at wrappers ⊢
      cases wrappers with
      | none => rfl
      | some same => exact congrArg some same.condition.symm
  plain arrangesNothing := by
    obtain rfl : arrangements = fun _ => none := funext arrangesNothing
    exact performArranged_none bound

/-! ### A wrapper that runs, builds and deletes others -/

namespace Neighbours

/-- The state of two hosts, each of which counts how often it is asked for its quota. -/
structure Counts where
  own : Nat
  neighbour : Nat

/-- A host without quota. -/
def lodger : CallbackTable Counts Unit :=
  CallbackTable.ofMemory (fun _ => 0) 0

/-- The caller has arranged to build a lodger, and to delete it. -/
def arrangements : Arrangements Counts Unit
  | 0 => some (.build (.word 9) lodger [.options .default] .stepping)
  | 1 => some .delete
  | _ => none

/-- Runs a lodger that has been built, and deletes it. -/
def evict : Reply → Activity Counts Unit UInt64
  | .built handle =>
    .perform .direct handle (.run none) fun _ =>
      .perform .direct handle (.arrange 1) fun _ => .finish 0
  | _ => .finish 0

/-- The neighbour's host has no quota. When it is asked, it takes in a lodger for a while. -/
def neighbour : CallbackTable Counts Unit :=
  { CallbackTable.ofMemory (fun _ => 0) 0 with
    ticksRemaining := fun _ =>
      .access (fun shared => { shared with own.neighbour := shared.own.neighbour + 1 }) fun _ =>
        .perform .direct .null (.arrange 0) evict }

/-- The wrapper's host has no quota either. When it is asked, it runs the neighbour, and then takes
in a lodger itself. -/
def busy : CallbackTable Counts Unit :=
  { CallbackTable.ofMemory (fun _ => 0) 0 with
    ticksRemaining := fun _ =>
      .access (fun shared => { shared with own.own := shared.own.own + 1 }) fun _ =>
        .perform .direct ⟨1⟩ (.run none) fun _ => .perform .direct .null (.arrange 0) evict }

/-- The wrapper's host without the others. -/
def quiet : CallbackTable Counts Unit :=
  { CallbackTable.ofMemory (fun _ => 0) 0 with
    ticksRemaining := fun _ =>
      .access (fun shared => { shared with own.own := shared.own.own + 1 }) fun _ => .finish 0 }

/-- What belongs to the wrapper, which is built as the second one. -/
def belongings : Belongings Counts Unit Nat where
  handle := ⟨2⟩
  slot := ⟨1⟩
  view shared := shared.own.own
  notes _ := false
  actions := true

/-- Running a wrapper that has no quota, with what happens while its host is asked. -/
def running (slot : HandleSlot) (handle : Handle) (data : UserData) (inside : List (Event Unit)) :
    List (Event Unit) :=
  [.acting .direct handle (.run none), .runEntered handle, .log (.engineRun data),
    .calling slot .ticksRemaining true, .requested handle .ticksRemaining] ++ inside ++
  [.answered handle .ticksRemaining (.number 0), .runLeft handle, .log (.engineReturned data),
    .acted .direct handle (.run none) .finished]

/-- A lodger is built, run and deleted. -/
def lodging (slot : HandleSlot) (handle : Handle) : List (Event Unit) :=
  [.acting .direct .null (.arrange 0), .log (.constructing 0 false), .attached slot handle (.word 9),
    .acted .direct .null (.arrange 0) (.built handle)] ++ running slot handle (.word 9) [] ++
  [.acting .direct handle (.arrange 1), .log (.destroyingEngine (.word 9)),
    .acted .direct handle (.arrange 1) .done]

/-- Building a wrapper without coprocessors. -/
def building (slot : HandleSlot) (handle : Handle) (data : UserData)
    (callbacks : CallbackTable Counts Unit) : Entry Counts Unit Reply :=
  ⟨.construct data callbacks none none .stepping, .built handle,
    [.log (.constructing 0 false), .attached slot handle data]⟩

/-- Both wrappers are built, and the second one is run. Two lodgers come and go, one inside a run of
the neighbour inside a callback of the wrapper. -/
def session : List (Entry Counts Unit Reply) :=
  [building ⟨0⟩ ⟨1⟩ (.word 7) neighbour, building ⟨1⟩ ⟨2⟩ (.word 8) busy,
    ⟨.call (.act .direct ⟨2⟩ (.run none)), .answered .finished,
      running ⟨1⟩ ⟨2⟩ (.word 8)
        (running ⟨0⟩ ⟨1⟩ (.word 7) (lodging ⟨2⟩ ⟨3⟩) ++ lodging ⟨3⟩ ⟨4⟩)⟩]

/-- What is left of it without the others. -/
def remainder : List (Entry Counts Unit Reply) :=
  [building .first .first (.word 8) quiet,
    ⟨.call (.act .direct .first (.run none)), .answered .finished,
      running .first .first (.word 8) []⟩]

/-- The lodger's callbacks do nothing at all. -/
theorem lodger_avoids : lodger.Avoids belongings := by
  intro request entry handle _ served
  cases request with
  | read width | write width => cases width <;> cases served <;> exact .finish trivial
  | isReadOnly => cases served
  | supervisorCall | exceptionRaised | addTicks | ticksRemaining =>
    cases served
    exact .finish trivial

/-- So what is arranged concerns nobody but lodgers. -/
theorem arrangements_avoid : arrangements.Avoid belongings := by
  intro number arrangement arranged
  unfold arrangements at arranged
  split at arranged
  · cases arranged
    refine .build lodger_avoids fun setting isSetting => ?_
    rw [List.mem_singleton.1 isSetting]
    exact .options
  · cases arranged
    exact .delete
  · cases arranged

/-- Running and deleting lodgers touches nothing that belongs to the wrapper. -/
theorem evict_avoids (reply : Reply) : (evict reply).Avoids belongings fun _ => True := by
  unfold evict
  split
  · exact .perform fun _ => .perform fun _ => .finish trivial
  · exact .finish trivial

/-- Without the others there is no lodger to run or to delete, and nothing is left of it. The
assumption says that a lodger is not the wrapper itself. -/
theorem evict_alone (reply : Reply) (other : reply ≠ .built belongings.handle) :
    (evict reply).Alone belongings (· = ·) (.finish 0) := by
  unfold evict
  split
  · rename_i handle
    have different : handle ≠ belongings.handle := fun same => other (congrArg _ same)
    exact .omitPerform different fun _ _ => .omitPerform different fun _ _ => .finish rfl
  · exact .finish rfl

/-- The neighbour counts for itself and takes in a lodger. -/
theorem neighbour_avoids : neighbour.Avoids belongings := by
  intro request entry handle _ served
  cases request with
  | read width | write width => cases width <;> cases served <;> exact .finish trivial
  | isReadOnly => cases served
  | supervisorCall | exceptionRaised | addTicks => cases served; exact .finish trivial
  | ticksRemaining =>
    cases served
    exact .access (fun _ => rfl) fun _ => .perform evict_avoids

/-- Of what the wrapper's host does, only its own counting is left. -/
theorem busy_alone : busy.Alone belongings quiet := by
  intro request
  cases request with
  | read width | write width => cases width <;> exact .some (.finish rfl)
  | isReadOnly => exact .none
  | supervisorCall | exceptionRaised | addTicks => exact .some (.finish rfl)
  | ticksRemaining =>
    refine .some (.access (fun _ _ same => congrArg (· + 1) same) fun _ _ _ => ?_)
    exact .omitPerform (by decide) fun _ _ => .omitPerform (by decide) evict_alone

/-- So of the session only the wrapper is left, its building and its run. -/
theorem session_reduces : Reduces belongings (.ahead none) session remainder := by
  have another : Command.Foreign belongings (building ⟨0⟩ ⟨1⟩ (.word 7) neighbour).command :=
    .construct ⟨neighbour_avoids, fun table isTable => by
      simp [Command.foreignBuilder, Command.arrayTables] at isTable⟩
  have spares : (building ⟨0⟩ ⟨1⟩ (.word 7) neighbour).Spares belongings := by
    intro slot handle data told
    simp only [building, List.mem_cons, List.not_mem_nil, reduceCtorEq, or_false, false_or,
      Event.attached.injEq] at told
    obtain ⟨rfl, rfl, -⟩ := told
    decide
  have called : Activity.Alone belongings (fun answer other : Reply => id answer = other)
      (.act .direct ⟨2⟩ (.run none)) (.act .direct .first (.run none)) :=
    .perform fun _ => .finish rfl
  have built : Entry.Kept belongings (.ahead none)
      (building ⟨1⟩ ⟨2⟩ (.word 8) busy : Entry Counts Unit Reply)
      (building .first .first (.word 8) quiet) .built :=
    .construct (List.mem_cons_of_mem _ List.mem_cons_self) busy_alone ⟨rfl, fun _ _ _ _ => rfl⟩
      .unpopulated
  exact .leave another spares nofun (.keep built (.keep (.call called) .nil))

/-- The world in which both wrappers are in place. -/
def furnished : World Counts Unit :=
  ((World.initial ⟨0, 0⟩).stepping (Command.foreignBuilder (.word 7) neighbour none none)).stepping
    (Command.foreignBuilder (.word 8) busy none none)

/-- Running the second wrapper. -/
def run : Exec Counts Unit Reply :=
  (Activity.act .direct ⟨2⟩ (.run none)).exec (performArranged arrangements 4)

/-- The session completes with just these entries, which is found out by evaluating its only run. -/
theorem session_chronicle : Chronicle (performArranged arrangements 4) .empty (.initial ⟨0, 0⟩) session
    .empty (run.finalWorld furnished) := by
  have finishes : run furnished = .ok .finished (run.finalWorld furnished) :=
    Exec.eq_of_yields (by decide +kernel)
  refine .cons (Command.construct_exec _ _ _ _) ?_ (.cons (Command.construct_exec _ _ _ _) ?_
    (.cons (Exec.bind_of_ok finishes) ?_ .nil)) <;> decide +kernel

/-- And it goes the same way if all callbacks of others are barred from the wrapper. -/
theorem session_undisturbed : Command.Undisturbed arrangements belongings.handle belongings.slot 4
    (⟨0, 0⟩ : Counts) (session.map (·.command)) :=
  Command.undisturbed_of_completes (by decide +kernel)

theorem run_view : belongings.view (run.finalWorld furnished).shared = 1 := by
  decide +kernel

theorem run_state : ((run.finalWorld furnished).wrappers.get? belongings.handle).map
    (·.condition.state) = some .halted := by
  decide +kernel

end Neighbours

/-- The wrapper asks its host once, which runs the neighbour and takes in a lodger meanwhile, as the
neighbour does. Without all of them, the wrapper has asked once and is halted, just the same. -/
theorem noninterference_neighbours :
    Chronicle (performArranged Neighbours.arrangements 4) .empty (.initial ⟨0, 0⟩) Neighbours.session
        .empty (Neighbours.run.finalWorld Neighbours.furnished) ∧
      ∃ remaining final,
        Chronicle (performArranged Neighbours.arrangements 4) .empty (.initial ⟨0, 0⟩)
          Neighbours.remainder remaining final ∧
        final.history = Neighbours.remainder.flatMap (·.events) ∧ final.shared.own.own = 1 ∧
        (final.wrappers.get? .first).map (·.condition.state) = some .halted := by
  have holds := noninterference rfl Neighbours.arrangements_avoid Neighbours.session_chronicle.execAll
    Neighbours.session_undisturbed
  obtain ⟨remaining, final, chronicle, -, history, view, condition⟩ :=
    holds.remains _ _ Neighbours.session_chronicle rfl Neighbours.session_reduces
  have states := congrArg (Option.map Condition.state) condition
  rw [Option.map_map, Option.map_map] at states
  exact ⟨Neighbours.session_chronicle, remaining, final, chronicle, history,
    view.trans Neighbours.run_view, states.trans Neighbours.run_state⟩

end RecompilerAdapter
