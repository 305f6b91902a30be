/-
Module: RecompilerAdapter.Proofs.RegisterWrites
Purpose: Who writes registers. While an engine waits for a callback, nobody but the actions on its wrapper
  writes its registers, and what they have written is told by the events. So a call whose events tell of
  no such action leaves the registers alone, and otherwise the last action that wrote the program counter
  decides where it is.
Trusted boundary: none
Main exports: Action.writes, Unwritten, lastCounter, Visited
-/
import RecompilerAdapter.Proofs.CallbackCalls

namespace RecompilerAdapter

variable {σ ν α : Type} {world middle after : World σ ν} {handle : Handle} {wrapper : Wrapper σ ν}
  {bound : Nat} {events further : List (Event ν)}

/-! ### Actions that write registers -/

/-- Whether an action writes a register that a guest sees. A run is not among them: what it writes
is told by the actions and effects inside it. -/
def Action.writes : Action → Bool
  | setRegister .. | setExtensionRegister .. | setProgramStatus _ | setFloatingPointStatus _ => true
  | _ => false

/-- No action has written a register of the engine behind a handle. -/
def Unwritten (handle : Handle) (events : List (Event ν)) : Prop :=
  ∀ surface action reply, .acted surface handle action reply ∈ events → action.writes = false

theorem unwritten_append :
    Unwritten handle (events ++ further) ↔ Unwritten handle events ∧ Unwritten handle further := by
  constructor
  · intro unwritten
    constructor
    · intro surface action reply isMember
      exact unwritten surface action reply (List.mem_append_left further isMember)
    · intro surface action reply isMember
      exact unwritten surface action reply (List.mem_append_right events isMember)
  · intro both surface action reply isMember
    rcases List.mem_append.1 isMember with isFirst | isSecond
    · exact both.1 surface action reply isFirst
    · exact both.2 surface action reply isSecond

theorem Unwritten.guestState (unwritten : Unwritten handle events) (wrapper : Wrapper σ ν) :
    (wrapper.replay handle events).engine.guestState = wrapper.engine.guestState := by
  apply Wrapper.replay_engine Engine.guestState
  intro surface action reply isMember update adjusts engine
  have plain := unwritten surface action reply isMember
  cases action with
  | halt =>
    cases adjusts
    rfl
  | setRegister | setExtensionRegister | setProgramStatus | setFloatingPointStatus => cases plain
  | _ => cases adjusts

/-- What an event has put into the program counter behind a handle. Only accesses from outside are
told this way; a step moves the counter without an event. -/
def Event.counter? (handle : Handle) : Event ν → Option UInt32
  | acted _ target (.setRegister number value) _ =>
    if target = handle ∧ number = Stepping.pc then some value else none
  | _ => none

/-- The program counter behind a handle after some events: what was put into it last, or else the
value that it had. -/
def lastCounter (handle : Handle) (value : UInt32) (events : List (Event ν)) : UInt32 :=
  events.foldl (fun value event => (event.counter? handle).getD value) value

theorem lastCounter_append (value : UInt32) :
    lastCounter handle value (events ++ further) =
      lastCounter handle (lastCounter handle value events) further :=
  List.foldl_append

theorem Engine.afterEvent_counter (engine : Engine σ ν) (event : Event ν) :
    (engine.afterEvent handle event).registers.get Stepping.pc =
      (event.counter? handle).getD (engine.registers.get Stepping.pc) := by
  unfold afterEvent
  split
  · rename_i surface target action reply
    by_cases same : target = handle
    · rw [if_pos same]
      cases action with
      | setRegister number value =>
        by_cases isCounter : number = Stepping.pc
        · subst isCounter
          simp only [Event.counter?, same, and_self, if_true]
          exact Vector.getElem_set_self _
        · simp only [Event.counter?, same, isCounter, and_false, if_false]
          exact Vector.getElem_set_ne number.isLt Stepping.pc.isLt fun equal =>
            isCounter (Fin.ext equal)
      | _ => rfl
    · rw [if_neg same]
      cases action with
      | setRegister number value => simp [Event.counter?, same]
      | _ => rfl
  · rename_i other
    cases event with
    | acted surface target action reply => exact (other surface target action reply rfl).elim
    | _ => rfl

theorem Wrapper.replay_counter (wrapper : Wrapper σ ν) (events : List (Event ν)) :
    (wrapper.replay handle events).engine.registers.get Stepping.pc =
      lastCounter handle (wrapper.engine.registers.get Stepping.pc) events := by
  induction events using List.reverseRecOn with
  | nil => rfl
  | append_singleton events event ih =>
    rw [Wrapper.replay_append, lastCounter_append, ← ih]
    exact Engine.afterEvent_counter _ event

/-! ### Calls -/

/-- From one world to another, in which the wrapper is inside a run, it has become what the actions
on it have made of it. -/
structure Visited (handle : Handle) (world : World σ ν) (wrapper : Wrapper σ ν) (after : World σ ν)
    (events : List (Event ν)) : Prop where
  history : after.history = world.history ++ events
  attends : Attends after handle (wrapper.replay handle events)

theorem Visited.refl (attends : Attends world handle wrapper) :
    Visited handle world wrapper world [] :=
  ⟨(List.append_nil _).symm, attends⟩

/-- What opens and closes a call is no action. -/
theorem Called.visited {performer : Performer σ ν} {body : Activity σ ν α}
    {opening closing inside : List (Event ν)}
    (called : Called performer handle wrapper body opening closing world after inside)
    (opens : ∀ wrapper : Wrapper σ ν, wrapper.replay handle opening = wrapper)
    (closes : ∀ wrapper : Wrapper σ ν, wrapper.replay handle closing = wrapper) :
    Visited handle world wrapper after (opening ++ inside ++ closing) where
  history := called.history
  attends := by
    rw [Wrapper.replay_append, Wrapper.replay_append, opens, closes]
    exact called.attends

namespace Stepping

theorem ask_visits (attends : Attends world handle wrapper) (idle : wrapper.Idle)
    {request : HostRequest} {entry : Handle → Activity σ ν request.Answer}
    (served : wrapper.engine.configuration.callbacks.table.entry? request = some entry) :
    (ask (perform bound) handle request).Ensures world
      (fun _ after => ∃ events, Visited handle world wrapper after events) fun _ _ => True := by
  apply (ask_ensures attends idle served .any).mono
  · rintro answer after ⟨inner, inside, -, -, -, called⟩
    exact ⟨_, called.visited (fun _ => rfl) fun _ => rfl⟩
  · intro _ _ _
    trivial

theorem fetch_visits (attends : Attends world handle wrapper) (idle : wrapper.Idle)
    (address : UInt32) :
    (fetch (perform bound) handle address).Ensures world
      (fun _ after => ∃ events, Visited handle world wrapper after events) fun _ _ => True := by
  unfold fetch
  apply Exec.Ensures.after (Exec.engine_of_present attends.present)
  apply Exec.Ensures.get_bind
  dsimp only
  split
  · exact ⟨[], .refl attends⟩
  · apply Exec.Ensures.bind (ask_visits attends idle rfl)
    intro word after visited
    exact visited

/-- The engine asks a coprocessor and comes back with its answer, or with none. Its registers are
those that the actions in between have left. -/
theorem withCoprocessor_visits (attends : Attends world handle wrapper) (idle : wrapper.Idle)
    (slot : Fin 16) (request : CompileRequest) :
    (withCoprocessor handle slot fun bridge => bridge.compile (perform bound) request).Ensures world
      (fun compiled after => ∃ events, Visited handle world wrapper after events ∧
        ∀ answer, compiled = some answer → ∃ wire : WireCompiled (DeferredFunction σ ν),
          wire.Answers request ∧ answer = wire.decode handle) fun _ _ => True := by
  cases populated : wrapper.engine.configuration.coprocessors[slot] with
  | none =>
    apply (withCoprocessor_empty attends idle populated _).mono
    · rintro _ after ⟨rfl, -, history, -, attendsAfter⟩
      refine ⟨[], ⟨by rw [history, List.append_nil], attendsAfter⟩, ?_⟩
      rintro _ ⟨⟩
    · intro _ _ holds
      exact holds
  | some bridge =>
    -- A table carries with it that its entries answer in a form that fits the request.
    have answers (start : World σ ν) :
        ((bridge.table.answer request).exec (perform bound)).Ensures start
          (fun wire _ => wire.Answers request) fun _ _ => True := by
      unfold Exec.Ensures
      split
      · exact bridge.table.answers ‹_›
      · trivial
    apply (withCoprocessor_ensures attends idle populated (answers _)).mono
    · rintro _ after ⟨wire, inner, inside, rfl, isAnswer, -, called⟩
      refine ⟨_, called.visited (fun _ => rfl) fun _ => rfl, ?_⟩
      rintro _ ⟨⟩
      exact ⟨wire, isAnswer, rfl⟩
    · intro _ _ holds
      exact holds

end Stepping

end RecompilerAdapter
