/-
Module: RecompilerAdapter.Proofs.TickAccounts
Purpose: The tick account of a run. A host keeps a quota for its wrapper, which nobody but the engine
  takes ticks from. Then every run ends: each step costs a tick, whatever becomes of it, and the run has
  no more steps than the quota has ticks. It has exactly as many, unless a halt is requested before; then
  it ends after the step during which that was.
Trusted boundary: none
Main exports: TickAccount, IsMeteredStep, Service.Metered, TickRecord, Service.Metered.loop
-/
import Mathlib.Data.ENat.Lattice
import RecompilerAdapter.Proofs.RunlessBodies
import RecompilerAdapter.Proofs.StepCourses

namespace RecompilerAdapter

section

variable {σ ν : Type} {world after : World σ ν} {wrapper later : Wrapper σ ν} {handle : Handle}
  {events : List (Event ν)}

/-! ### Accounts -/

/-- What a host keeps of the ticks of its wrapper: how many are left, and how many have been
executed. It is read off the caller's own data, so a host may keep it in any form. -/
structure TickAccount where
  quota : UInt64
  executed : UInt64
deriving Repr, DecidableEq

namespace TickAccount

/-- The account after some ticks. The quota stops at zero, the counter wraps around. -/
def spend (account : TickAccount) (ticks : UInt64) : TickAccount where
  quota := if ticks ≤ account.quota then account.quota - ticks else 0
  executed := account.executed + ticks

/-- A tick that is spent from a quota that has any leaves one less. -/
theorem quota_spend_one {account : TickAccount} (left : account.quota ≠ 0) :
    (account.spend 1).quota.toNat + 1 = account.quota.toNat := by
  have positive : 1 ≤ account.quota.toNat := by
    rw [Nat.one_le_iff_ne_zero]
    exact fun none => left (UInt64.toNat_inj.1 none)
  have enough : 1 ≤ account.quota := UInt64.le_iff_toNat_le.2 positive
  rw [spend, if_pos enough, UInt64.toNat_sub_of_le _ _ enough]
  exact Nat.sub_add_cancel positive

end TickAccount

/-! ### What a history tells of a run -/

/-- Somebody has requested a halt of the wrapper behind a handle. -/
def Event.isHalt (handle : Handle) : Event ν → Bool
  | acted _ target .halt _ => decide (target = handle)
  | _ => false

/-- Whether a request was made can be computed from the events. -/
theorem haltRequested_iff : HaltRequested handle events ↔ events.any (Event.isHalt handle) = true := by
  unfold HaltRequested
  rw [List.any_eq_true]
  constructor
  · rintro ⟨surface, reply, isMember⟩
    exact ⟨_, isMember, decide_eq_true rfl⟩
  · rintro ⟨event, isMember, isHalt⟩
    unfold Event.isHalt at isHalt
    split at isHalt
    · obtain rfl := of_decide_eq_true isHalt
      exact ⟨_, _, isMember⟩
    · cases isHalt

/-- The step during which a halt is requested first, counted from one, given what happened during
each step: none at all if a halt is pending before the first one, and no number if there is no such
step. -/
def haltStep (handle : Handle) : (pending : Bool) → List (List (Event ν)) → ℕ∞
  | true, _ => 0
  | false, [] => ⊤
  | false, events :: steps => haltStep handle (events.any (Event.isHalt handle)) steps + 1

/-- What tells of the steps of a wrapper and of their ticks: the answers about what is left, the
words, and the ticks that are added. -/
def Event.isMetered (handle : Handle) : Event ν → Bool
  | answered target .ticksRemaining _ => decide (target = handle)
  | fetched target _ _ => decide (target = handle)
  | requested target (.addTicks _) => decide (target = handle)
  | _ => false

/-- What is metered of a run is told by the engine itself. -/
theorem Event.belongs_of_isMetered {slot : HandleSlot} {event : Event ν}
    (metered : event.isMetered handle = true) :
    event.belongs (.plain (σ := σ) handle slot) = true := by
  unfold isMetered at metered
  split at metered
  · exact metered
  · exact metered
  · exact metered
  · cases metered

/-- A step as its ticks tell of it: something was left before, and one tick was added after. Events
that are not about ticks or fetching may stand anywhere in between. -/
def IsMeteredStep (handle : Handle) (events : List (Event ν)) : Prop :=
  ∃ remaining address word, 0 < remaining ∧ events.filter (Event.isMetered handle) =
    [.answered handle .ticksRemaining (.number remaining), .fetched handle address word,
      .requested handle (.addTicks 1)]

/-! ### Hosts that keep an account -/

namespace Service

/-- Callbacks are called while the account is as given, and always return. During a step the account
must not change, or the quota would be spent by something else than ticks. -/
abbrev holding (service : Service σ ν) (account : σ → TickAccount) (value : TickAccount) : Service σ ν :=
  { service with
    ready := fun world => service.ready world ∧ account world.shared.own = value
    stopped := fun _ _ => False }

/-- A host whose callbacks return. It answers what is left of its quota, without requesting a halt,
and changes its account when ticks are added and at no other time. -/
structure Metered (service : Service σ ν) (account : σ → TickAccount) : Prop where
  conducted : ∀ value, (service.holding account value).Conducted
  remaining : ∀ value start lent, (service.holding account value).Open start lent →
    ((service.configuration.callbacks.table.ticksRemaining service.handle).exec
      (perform service.bound)).Ensures start (fun answer after =>
        (service.holding account value).ready after ∧ answer = value.quota ∧
          ∀ events, after.history = start.history ++ events → ¬ HaltRequested service.handle events)
      fun _ _ => False
  spending : ∀ value ticks start lent, (service.holding account value).Open start lent →
    ((service.configuration.callbacks.table.addTicks service.handle ticks).exec
      (perform service.bound)).Ensures start (fun _ after =>
        (service.holding account (value.spend ticks)).ready after) fun _ _ => False

variable {service : Service σ ν} {account : σ → TickAccount} {value : TickAccount}

/-- Between calls an account may be disregarded. -/
theorem Rests.forget (rests : (service.holding account value).Rests world wrapper) :
    service.Rests world wrapper :=
  ⟨⟨rests.attends, rests.configuration, rests.ready.1⟩, rests.idle⟩

/-- So may it along a course. -/
theorem Course.forget {own : List (Event ν)}
    (course : (service.holding account value).Course world wrapper after later events own) :
    service.Course world wrapper after later events own where
  rests := course.rests.forget
  history := course.history
  work := course.work
  halts := course.halts

/-- What is metered of a course is told by the engine itself on the way, since no callback can tell
in its place. -/
theorem Course.metered {own : List (Event ν)}
    (course : service.Course world wrapper after later events own) :
    events.filter (Event.isMetered service.handle) = own.filter (Event.isMetered service.handle) :=
  course.filter_eq fun _ => Event.belongs_of_isMetered

/-- Executing an instruction meters nothing. -/
theorem Executed.metered {address : UInt32} {instruction : Instruction} {own : List (Event ν)}
    {done : Bool}
    (executed : service.Executed address world after wrapper later events instruction done own) :
    own.filter (Event.isMetered service.handle) = [] := by
  cases executed with
  | implemented consulted supported used =>
    cases consulted
    cases used <;> rfl
  | unimplemented consults consulted => cases consulted <;> rfl
  | _ => rfl

/-- Asking for the remaining ticks is metered once, with the answer. -/
theorem metered_askedRemaining (answer : UInt64) :
    (service.askedEvents .ticksRemaining answer : List (Event ν)).filter
      (Event.isMetered service.handle) =
        [.answered service.handle .ticksRemaining (.number answer.toNat)] := by
  simp [askedEvents, Event.isMetered, HostRequest.report]

/-- Accounting for a step is metered once. -/
theorem metered_askedTick :
    (service.askedEvents (.addTicks 1) () : List (Event ν)).filter (Event.isMetered service.handle) =
      [.requested service.handle (.addTicks 1)] := by
  simp [askedEvents, Event.isMetered]

/-- A step tells of one word, and of no ticks. -/
theorem Stepped.metered {address word : UInt32} {fetched : World σ ν} {amid : Wrapper σ ν}
    {reading fetching own : List (Event ν)} {done : Bool}
    (stepped : service.Stepped address word world fetched after wrapper amid later reading fetching
      events own done) :
    (fetching ++ [Event.fetched service.handle address word] ++ own).filter
      (Event.isMetered service.handle) = [.fetched service.handle address word] := by
  have reads : fetching.filter (Event.isMetered service.handle) = [] := by
    cases stepped.told <;> rfl
  rw [List.filter_append, List.filter_append, reads, stepped.executed.metered]
  simp [Event.isMetered]

end Service

/-! ### Turns -/

variable {service : Service σ ν} {account : σ → TickAccount} {value : TickAccount}

namespace Stepping

/-- The wrapper without a halt that waits. A run takes the halt when it ends, so this is how the
wrapper is found afterwards. -/
def relieved (wrapper : Wrapper σ ν) : Wrapper σ ν :=
  { wrapper with engine := { wrapper.engine with haltRequested := false } }

/-- Taking a request to halt, as an equation. -/
theorem takeHalt_of_present (present : world.wrappers.get? handle = some wrapper) :
    takeHalt handle world =
      .ok wrapper.engine.haltRequested (world.place handle (relieved wrapper)) := by
  rw [takeHalt, Exec.bind_of_ok (Exec.engine_of_present present)]
  exact Exec.bind_of_ok (Exec.modifyEngine_of_present present _)

/-- How a turn has ended, and what has happened during it: a halt was waiting, nothing was left of
the quota, or a step was executed and its tick accounted. -/
inductive Turned (service : Service σ ν) (account : σ → TickAccount) (value : TickAccount)
    (wrapper : Wrapper σ ν) (after : World σ ν) (later : Wrapper σ ν) :
    Bool → List (Event ν) → Prop where
  | halted (pending : wrapper.engine.haltRequested = true)
      (rests : (service.holding account value).Rests after later) :
      Turned service account value wrapper after later false []
  | exhausted {events : List (Event ν)} (free : wrapper.engine.haltRequested = false)
      (empty : value.quota = 0) (rests : (service.holding account value).Rests after later)
      (told : events.filter (Event.isMetered service.handle) =
        [.answered service.handle .ticksRemaining (.number 0)]) :
      Turned service account value wrapper after later false events
  | stepped {events : List (Event ν)} (free : wrapper.engine.haltRequested = false)
      (left : value.quota ≠ 0) (rests : (service.holding account (value.spend 1)).Rests after later)
      (told : IsMeteredStep service.handle events)
      (flag : later.engine.haltRequested = true ↔ HaltRequested service.handle events) :
      Turned service account value wrapper after later true events

end Stepping

namespace Service

variable (metered : service.Metered account)

include metered

/-- Asking for what is left of the quota. -/
theorem Metered.askRemaining (rests : (service.holding account value).Rests world wrapper) :
    (Stepping.ask (perform service.bound) service.handle .ticksRemaining).Ensures world
      (fun answer after => answer = value.quota ∧ ∃ later events,
        (service.holding account value).Course world wrapper after later events
          (service.askedEvents .ticksRemaining answer) ∧
        ¬ HaltRequested service.handle events) fun _ _ => False := by
  have conducted := metered.conducted value
  have served : (service.holding account value).configuration.callbacks.table.entry? .ticksRemaining =
      some service.configuration.callbacks.table.ticksRemaining := rfl
  apply (conducted.entered rests served (metered.remaining value)).mono ?_ fun _ _ holds => holds
  rintro answer after ⟨start, inner, inside, ⟨isReady, same, noHalt⟩, history, alike, called⟩
  have course := rests.called called (conducted.alike inner after isReady alike)
    (by simp [Event.belongs, Belongings.plain]) (by simp [HaltRequested])
  rw [rests.slot] at course
  refine ⟨same, _, _, course, ?_⟩
  have quiet := noHalt inside history
  simpa [HaltRequested] using quiet

/-- Adding a tick. -/
theorem Metered.addTick (rests : (service.holding account value).Rests world wrapper) :
    (Stepping.ask (perform service.bound) service.handle (.addTicks 1)).Ensures world
      (fun _ after => ∃ later events,
        (service.holding account (value.spend 1)).Rests after later ∧
        service.Course world wrapper after later events (service.askedEvents (.addTicks 1) ()))
      fun _ _ => False := by
  have conducted := metered.conducted value
  have served : (service.holding account value).configuration.callbacks.table.entry? (.addTicks 1) =
      some fun handle => service.configuration.callbacks.table.addTicks handle 1 := rfl
  apply (conducted.entered rests served (metered.spending value 1)).mono ?_ fun _ _ holds => holds
  rintro answer after ⟨start, inner, inside, isReady, history, alike, called⟩
  have stillReady := (metered.conducted (value.spend 1)).alike inner after isReady alike
  have course := rests.forget.called called stillReady.1
    (by simp [Event.belongs, Belongings.plain]) (by simp [HaltRequested])
  rw [rests.forget.slot] at course
  refine ⟨_, _, ⟨⟨course.rests.attends, course.rests.configuration, stillReady⟩, course.rests.idle⟩,
    course⟩

/-- A turn ends in one of three ways. A halt was waiting, the quota is used up, or a step was
executed and its tick accounted. -/
theorem Metered.turn (rests : (service.holding account value).Rests world wrapper) :
    (Stepping.turn (perform service.bound) service.handle).Ensures world
      (fun more after => ∃ later events, after.history = world.history ++ events ∧
        Stepping.Turned service account value wrapper after later more events) fun _ _ => False := by
  have conducted := metered.conducted value
  have relieved : (service.holding account value).Rests
      (world.place service.handle (Stepping.relieved wrapper)) (Stepping.relieved wrapper) :=
    ⟨⟨rests.attends.place rests.attends.running rfl, rests.configuration,
      conducted.alike world _ rests.ready (.place _ _)⟩, rests.idle⟩
  unfold Stepping.turn
  -- A halt that waits is taken first, before the quota is asked for. This is why the account is
  -- said of the relieved wrapper from here on.
  apply Exec.Ensures.after (Stepping.takeHalt_of_present rests.attends.present)
  cases pending : wrapper.engine.haltRequested with
  | true => exact ⟨_, [], (List.append_nil _).symm, .halted pending relieved⟩
  | false =>
    apply (metered.askRemaining relieved).bind
    rintro _ middle ⟨rfl, amid, asking, asked, noHalt⟩
    by_cases empty : value.quota = 0
    · rw [if_pos empty]
      refine ⟨amid, asking, asked.history, .exhausted pending empty asked.rests ?_⟩
      rw [asked.forget.metered, metered_askedRemaining, empty]
      rfl
    · rw [if_neg empty]
      apply (conducted.step asked.rests rfl).bind
      rintro done afterStep ⟨word, fetched, between, stepper, reading, fetching, executing, own, stepped⟩
      have through := conducted.whole asked.rests stepped
      apply (metered.addTick through.rests).bind
      rintro _ after ⟨later, adding, stillRests, added⟩
      have whole := (asked.forget.trans relieved.forget through.forget).trans relieved.forget added
      refine ⟨later, _, whole.history, .stepped pending empty stillRests ?_ ?_⟩
      -- The three phases tell of ticks in this order: the quota before, nothing during the step,
      -- one tick after.
      · have positive : 0 < value.quota.toNat := by
          rw [Nat.pos_iff_ne_zero]
          exact fun none => empty (UInt64.toNat_inj.1 none)
        refine ⟨_, amid.engine.registers.get Stepping.pc, word, positive, whole.metered.trans ?_⟩
        rw [List.filter_append, List.filter_append, stepped.metered, metered_askedRemaining,
          metered_askedTick]
        rfl
      · rw [whole.halts]
        simp [Stepping.relieved]

end Service

/-! ### Runs -/

/-- The account of a run. What has happened falls into its steps, one after the other, and what came
after the last one. -/
structure TickRecord (handle : Handle) (before after : TickAccount) (pending : Bool)
    (steps : List (List (Event ν))) (closing : List (Event ν)) : Prop where
  metered : ∀ events ∈ steps, IsMeteredStep handle events
  count : (steps.length : ℕ∞) = min (before.quota.toNat : ℕ∞) (haltStep handle pending steps)
  quota : after.quota.toNat = before.quota.toNat - steps.length
  executed : after.executed = before.executed + UInt64.ofNat steps.length
  exhausted : (before.quota.toNat : ℕ∞) < haltStep handle pending steps →
    closing.filter (Event.isMetered handle) = [.answered handle .ticksRemaining (.number 0)]
  halted : haltStep handle pending steps ≤ before.quota.toNat →
    closing.filter (Event.isMetered handle) = []

namespace TickRecord

variable {before after : TickAccount} {pending : Bool} {steps : List (List (Event ν))}
  {closing : List (Event ν)}

/-- A halt that waits ends a run before its first step. -/
theorem of_pending : TickRecord handle before before true ([] : List (List (Event ν))) [] where
  metered _ isMember := by cases isMember
  count := by simp [haltStep]
  quota := rfl
  executed := (UInt64.add_zero _).symm
  exhausted less := by simp [haltStep] at less
  halted _ := rfl

/-- A run without a quota ends before its first step. -/
theorem of_empty (empty : before.quota = 0)
    (told : closing.filter (Event.isMetered handle) =
      [.answered handle .ticksRemaining (.number 0)]) :
    TickRecord handle before before false [] closing where
  metered _ isMember := by cases isMember
  count := by simp [empty]
  quota := rfl
  executed := (UInt64.add_zero _).symm
  exhausted _ := told
  halted reached := by simp [haltStep] at reached

/-- A step comes before the others. The account before it has one tick more to spend, and the step
of the halt comes one later. -/
theorem cons (left : before.quota ≠ 0) (told : IsMeteredStep handle events)
    (flag : pending = true ↔ HaltRequested handle events)
    (rest : TickRecord handle (before.spend 1) after pending steps closing) :
    TickRecord handle before after false (events :: steps) closing := by
  have same : events.any (Event.isHalt handle) = pending := by
    rw [Bool.eq_iff_iff, flag, haltRequested_iff]
  have spent := TickAccount.quota_spend_one left
  have spentToo : ((before.spend 1).quota.toNat : ℕ∞) + 1 = before.quota.toNat := by
    exact_mod_cast spent
  have halt : haltStep handle false (events :: steps) = haltStep handle pending steps + 1 := by
    rw [haltStep, same]
  refine ⟨?_, ?_, ?_, ?_, ?_, ?_⟩
  · rintro step isMember
    rcases List.mem_cons.1 isMember with rfl | isMember
    · exact told
    · exact rest.metered step isMember
  · rw [List.length_cons, Nat.cast_add, Nat.cast_one, rest.count, halt, ← spentToo, min_add_add_right]
  · rw [rest.quota, List.length_cons]
    omega
  · rw [rest.executed, List.length_cons, TickAccount.spend, UInt64.add_assoc]
    congr 1
    rw [← UInt64.toNat_inj]
    simp
    omega
  · intro less
    rw [halt, ← spentToo] at less
    exact rest.exhausted (lt_of_add_lt_add_right less)
  · intro reached
    rw [halt, ← spentToo] at reached
    exact rest.halted ((ENat.add_le_add_iff_right ENat.one_ne_top).1 reached)

end TickRecord

/-- A run of the loop ends within as many turns as the quota has ticks, and one more. The last turn
is the one in which the engine finds that it has to stop. -/
theorem Service.Metered.loop (metered : service.Metered account) (turns : Nat)
    (rests : (service.holding account value).Rests world wrapper)
    (enough : value.quota.toNat < turns) :
    (Stepping.run (perform service.bound) service.handle turns).Ensures world
      (fun _ after => ∃ later last steps closing,
        after.history = world.history ++ (steps.flatten ++ closing) ∧
        (service.holding account last).Rests after later ∧
        TickRecord service.handle value last wrapper.engine.haltRequested steps closing)
      fun _ _ => False := by
  induction turns generalizing world wrapper value with
  | zero => omega
  | succ turns ih =>
    unfold Stepping.run
    apply (metered.turn rests).bind
    rintro more middle ⟨amid, events, history, turned⟩
    cases turned with
    | halted pending still =>
      refine ⟨amid, value, [], [], by simpa using history, still, ?_⟩
      rw [pending]
      exact .of_pending
    | exhausted free empty still told =>
      refine ⟨amid, value, [], events, by simpa using history, still, ?_⟩
      rw [free]
      exact .of_empty empty told
    | stepped free left still told flag =>
      have spent := TickAccount.quota_spend_one left
      apply (ih still (by omega)).mono ?_ fun _ _ holds => holds
      rintro _ after ⟨later, last, steps, closing, onward, end_, record⟩
      refine ⟨later, last, events :: steps, closing, ?_, end_, ?_⟩
      · rw [onward, history, List.flatten_cons]
        simp
      · rw [free]
        exact .cons left told flag record

/-- The engine of a wrapper that is being run ends, and the account is exact. -/
theorem Service.Metered.runEngine (metered : service.Metered account)
    (rests : (service.holding account value).Rests world wrapper) {turns : Nat}
    (enough : value.quota.toNat < turns) :
    (Wrapper.runEngine (perform service.bound) turns service.handle).Ensures world
      (fun _ after => ∃ later last steps closing,
        after.history = world.history ++ (steps.flatten ++ closing) ∧
        (service.holding account last).Rests after later ∧
        TickRecord service.handle value last wrapper.engine.haltRequested steps closing)
      fun _ _ => False := by
  unfold Wrapper.runEngine
  apply Exec.Ensures.after (Exec.engine_of_present rests.attends.present)
  rw [show wrapper.engine.mode = .stepping [] from rests.idle]
  exact metered.loop turns rests enough

/-- Every run of a stepping engine whose host keeps an account ends, and the account is exact.
Between the events of entering and leaving stand the steps, each with its tick, and what is told of
the end. -/
theorem tickAccounts (metered : service.Metered account)
    (installed : Installed world service.handle wrapper)
    (configuration : wrapper.engine.configuration = service.configuration) (idle : wrapper.Idle)
    (resting : wrapper.state ≠ .running) (ready : service.ready world) {turns : Nat}
    (enough : (account world.shared.own).quota.toNat < turns) :
    ∃ after steps closing,
      Wrapper.run (perform service.bound) turns service.handle world = .ok true after ∧
      after.history = world.history ++
        [.runEntered service.handle, .log (.engineRun wrapper.userData)] ++
        (steps.flatten ++ closing) ++
        [.runLeft service.handle, .log (.engineReturned wrapper.userData)] ∧
      TickRecord service.handle (account world.shared.own) (account after.shared.own)
        wrapper.engine.haltRequested steps closing := by
  have alike := (metered.conducted (account world.shared.own)).alike
  let entering := { wrapper with state := .running }
  let entered := (world.place service.handle entering).recordAll
    [.runEntered service.handle, .log (.engineRun wrapper.userData)]
  have placed : Installed (world.place service.handle entering) service.handle entering :=
    installed.place rfl
  have rests : (service.holding account (account world.shared.own)).Rests entered entering :=
    ⟨⟨⟨placed.recordAll _, rfl⟩, configuration,
      alike world entered ⟨ready, rfl⟩ ((AlikeBeyond.place _ _).trans (.recordAll _ _))⟩, idle⟩
  have runs : (Wrapper.run (perform service.bound) turns service.handle).Ensures world
      (fun answer after => answer = true ∧ ∃ steps closing,
        after.history = world.history ++
          [.runEntered service.handle, .log (.engineRun wrapper.userData)] ++
          (steps.flatten ++ closing) ++
          [.runLeft service.handle, .log (.engineReturned wrapper.userData)] ∧
        TickRecord service.handle (account world.shared.own) (account after.shared.own)
          wrapper.engine.haltRequested steps closing) fun _ _ => False := by
    unfold Wrapper.run
    apply Exec.Ensures.after (Exec.wrapper_of_present installed.present)
    rw [if_neg resting]
    apply Exec.Ensures.after (Exec.modifyWrapper_of_present installed.present _)
    apply Exec.Ensures.emit_bind
    apply Exec.Ensures.emit_bind
    apply (metered.runEngine rests enough).bind
    rintro _ middle ⟨later, last, steps, closing, history, stillRests, record⟩
    apply Exec.Ensures.after (Exec.modifyWrapper_of_present stillRests.attends.present _)
    apply Exec.Ensures.emit_bind
    apply Exec.Ensures.emit_bind
    refine ⟨rfl, steps, closing, ?_, ?_⟩
    · simp [history, entered]
    · exact stillRests.ready.2 ▸ record
  obtain ⟨answer, after, completes, rfl, steps, closing, history, record⟩ := runs.completes
  exact ⟨after, steps, closing, completes, history, record⟩

end

/-! ### A run that is halted at its second step -/

namespace Metering

/-- The handle of the only wrapper. -/
def worker : Handle :=
  ⟨16⟩

/-- A host that keeps its account in its own state and halts the wrapper at every supervisor call.
The second word of the program is one. -/
def host : CallbackTable TickAccount Unit :=
  { CallbackTable.ofMemory
      (fun address => if address = 4 then Encoding.supervisorCall 7 else Encoding.nop) 0 with
    supervisorCall := fun handle _ => .perform .direct handle .halt fun _ => .finish ()
    addTicks := fun _ ticks => .modifyOwn fun account => account.spend ticks
    ticksRemaining := fun _ => .access id fun shared => .finish shared.own.quota }

/-- A wrapper that has not been run, without coprocessors. -/
def wrapper : Wrapper TickAccount Unit where
  userData := .word 0
  state := .constructed
  engine := .stepping
    { callbacks := ⟨host, ⟨0⟩⟩
      pageTable := none
      coprocessors := .replicate 16 none
      options := .default }

/-- The world of that wrapper, whose quota has three ticks. -/
def start : World TickAccount Unit :=
  { World.initial ⟨3, 10⟩ with
    slots := ⟨#[worker]⟩
    wrappers := ⟨[(worker, wrapper)]⟩
    built := 1 }

/-- The callbacks of that wrapper return in every world. -/
def service : Service TickAccount Unit where
  bound := 1
  handle := worker
  configuration := wrapper.engine.configuration
  ready _ := True
  stopped _ _ := False

/-- The worker has no coprocessors. -/
theorem unpopulated {bridge : CoprocessorBridge TickAccount Unit} :
    some bridge ∉ service.configuration.coprocessors := by
  intro employed
  obtain ⟨slot, inside, populated⟩ := Vector.mem_iff_getElem.1 employed
  simp [service, wrapper, Engine.stepping] at populated

/-- Its host keeps an account as the theorem asks: it answers with the quota, takes a tick per step,
and nobody else changes either. -/
theorem metered : service.Metered id where
  conducted value := by
    refine ⟨fun before after ready alike => ⟨trivial, ?_⟩, fun request entry guest served => ?_,
      fun bridge request employed => (unpopulated employed).elim⟩
    · rw [alike.own]
      exact ready.2
    · intro world found isOpen
      cases guest with
      | fetch | exceptionRaised =>
        cases served
        exact .pure ⟨isOpen.ready, trivial⟩
      | supervisorCall number =>
        cases served
        exact .after (perform_adjust rfl isOpen.attends.present 0 .direct)
          (.pure ⟨isOpen.ready, trivial⟩)
  remaining value world found isOpen := by
    refine ⟨⟨trivial, isOpen.ready.2⟩, congrArg TickAccount.quota isOpen.ready.2, fun events history => ?_⟩
    obtain rfl : events = [] := by simpa [World.history] using history
    simp [HaltRequested]
  spending value ticks world found isOpen := by
    refine ⟨trivial, ?_⟩
    exact congrArg (TickAccount.spend · ticks) isOpen.ready.2

end Metering

/-- A run with a quota of three that is halted by the supervisor call of its second step: two ticks
are spent. -/
theorem tickAccounts_halted :
    ∃ (after : World TickAccount Unit) (steps : List (List (Event Unit))) (closing : List (Event Unit)),
      Wrapper.run (perform 1) 4 Metering.worker Metering.start = .ok true after ∧
      TickRecord Metering.worker ⟨3, 10⟩ ⟨1, 12⟩ false steps closing ∧ steps.length = 2 := by
  have installed : Installed Metering.start Metering.worker Metering.wrapper :=
    .of_sole rfl rfl rfl rfl fun _ employed => (Metering.unpopulated employed).elim
  have enough : (id Metering.start.shared.own : TickAccount).quota.toNat < 4 := by decide
  obtain ⟨after, steps, closing, completes, -, record⟩ :=
    tickAccounts Metering.metered installed rfl rfl (by decide) trivial enough
  have ends : (Exec.finalWorld (Wrapper.run (perform 1) 4 Metering.worker)
      Metering.start).shared.own = ⟨1, 12⟩ := by
    decide +kernel
  have runs : Wrapper.run (perform 1) 4 Metering.worker Metering.start = .ok true after := completes
  rw [Exec.finalWorld, runs] at ends
  have record : TickRecord Metering.worker ⟨3, 10⟩ after.shared.own false steps closing := record
  rw [ends] at record
  refine ⟨after, steps, closing, runs, record, ?_⟩
  have left := record.quota
  change 1 = 3 - steps.length at left
  omega

end RecompilerAdapter
