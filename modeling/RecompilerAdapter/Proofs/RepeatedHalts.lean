/-
Module: RecompilerAdapter.Proofs.RepeatedHalts
Purpose: Halt requests that are repeated. A caller that requests a halt several times in a row does
  nothing that it would not do by requesting it once: a pending request stays pending. So two sessions
  that differ in such repetitions go alike, except that the requests themselves are told of.
Trusted boundary: none
Main exports: Activity.RepeatsHalts, RepeatsRequests, JustHalted, Command.repeatedHalts
-/
import RecompilerAdapter.Proofs.LikeSessions
import RecompilerAdapter.Proofs.RunlessBodies

namespace RecompilerAdapter

variable {σ ν ρ α β : Type}

/-! ### Bodies -/

namespace Activity

/-- Requests a halt, and then some more times, and goes on with the last reply. -/
def halts (surface : Surface) (target : Handle) :
    (more : Nat) → (Reply → Activity σ ν α) → Activity σ ν α
  | 0, next => .perform surface target .halt next
  | more + 1, next => .perform surface target .halt fun _ => halts surface target more next

/-- The second body does the same as the first one, except that it repeats some halt requests. A
repeated request follows at once, so no engine can take the first one before. -/
inductive RepeatsHalts (agree : α → β → Prop) : Activity σ ν α → Activity σ ν β → Prop where
  | finish {answer : α} {other : β} (agrees : agree answer other) :
      RepeatsHalts agree (.finish answer) (.finish other)
  | access {update : Shared σ → Shared σ} {next : Shared σ → Activity σ ν α}
      {onward : Shared σ → Activity σ ν β}
      (rest : ∀ before, RepeatsHalts agree (next before) (onward before)) :
      RepeatsHalts agree (.access update next) (.access update onward)
  | record {note : ν} {next : Activity σ ν α} {onward : Activity σ ν β}
      (rest : RepeatsHalts agree next onward) :
      RepeatsHalts agree (.record note next) (.record note onward)
  | perform {surface : Surface} {target : Handle} {action : Action}
      {next : Reply → Activity σ ν α} {onward : Reply → Activity σ ν β}
      (rest : ∀ reply, RepeatsHalts agree (next reply) (onward reply)) :
      RepeatsHalts agree (.perform surface target action next) (.perform surface target action onward)
  | halts {surface : Surface} {target : Handle} {next : Reply → Activity σ ν α}
      {onward : Reply → Activity σ ν β} (more : Nat)
      (rest : ∀ reply, RepeatsHalts agree (next reply) (onward reply)) :
      RepeatsHalts agree (.perform surface target .halt next) (.halts surface target more onward)

end Activity

/-- Bodies that differ in repeated halt requests. -/
def repeatingHalts : BodyRelation σ ν :=
  fun _ _ agree body other => body.RepeatsHalts agree other

/-! ### Histories -/

/-- What a halt request records. -/
def haltRequest (surface : Surface) (target : Handle) : List (Event ν) :=
  [.acting surface target .halt, .acted surface target .halt .done]

/-- The second history tells of the same events as the first one, and after some halt requests of
the same requests again. -/
inductive RepeatsRequests : HistoryRelation ν where
  | nil : RepeatsRequests [] []
  | same {history other : List (Event ν)} (event : Event ν) (earlier : RepeatsRequests history other) :
      RepeatsRequests (history ++ [event]) (other ++ [event])
  | again {history other : List (Event ν)} (surface : Surface) (target : Handle)
      (earlier : RepeatsRequests history (other ++ haltRequest surface target)) :
      RepeatsRequests history (other ++ haltRequest surface target ++ haltRequest surface target)

theorem repeatsRequests_closed : HistoryRelation.Closed (ν := ν) RepeatsRequests :=
  fun _ _ event related => .same event related

/-- Two computations end alike in worlds that differ in repeated halt requests. -/
abbrev Exec.AlikeButHalts (agree : α → β → Prop) (computation : Exec σ ν α)
    (counterpart : Exec σ ν β) : Prop :=
  Exec.EndAlike repeatingHalts RepeatsRequests agree computation counterpart

/-! ### One request more -/

/-- A halt request has just been made on both sides; on the second one it is pending and told of.
Any further request finds the flag set and changes nothing but the history. -/
structure JustHalted (surface : Surface) (target : Handle) (world other : World σ ν) : Prop where
  alike : world.Alike repeatingHalts RepeatsRequests other
  told : ∃ earlier, other.history = earlier ++ haltRequest surface target
  pending : ∃ wrapper, other.wrappers.get? target = some wrapper ∧ wrapper.engine.haltRequested = true

section

variable {surface : Surface} {target : Handle} {world other : World σ ν}

/-- Acting on a wrapper that is not there stops. -/
theorem perform_absent {action : Action} {update : Engine σ ν → Engine σ ν}
    (adjusts : action.adjustment? = some update) (absent : world.wrappers.get? target = none)
    (bound : Nat) :
    perform (bound + 1) surface target action world =
      .error (.danglingHandle target) (world.record (.acting surface target action)) := by
  have absentToo : (world.record (.acting surface target action)).wrappers.get? target = none := absent
  rw [perform_succ, Performer.recording, Wrapper.performWith_adjustment adjusts,
    Exec.bind_of_ok (Exec.emit_apply _ _), bind_assoc]
  exact Exec.bind_of_error (Exec.modifyEngine_of_absent absentToo update)

/-- The first request is made on both sides. Afterwards the flag is set on both, so the requests
that only one side makes change nothing. -/
theorem halt_alike (bound : Nat) (surface : Surface) (target : Handle) :
    Exec.Corresponds (World.Alike (repeatingHalts : BodyRelation σ ν) RepeatsRequests)
      (World.Alike repeatingHalts RepeatsRequests) (JustHalted surface target)
      (fun reply copy => reply = .done ∧ copy = .done) (perform (bound + 1) surface target .halt)
      (perform (bound + 1) surface target .halt) := by
  intro world other alike
  have begun := alike.record repeatsRequests_closed (.acting surface target .halt)
  have wrappers := alike.wrappers target
  generalize present : world.wrappers.get? target = found at wrappers
  generalize presentToo : other.wrappers.get? target = foundToo at wrappers
  cases wrappers with
  | none =>
    rw [perform_absent rfl present, perform_absent rfl presentToo]
    exact ⟨rfl, begun⟩
  | @some wrapper copy same =>
    have requested : repeatingHalts.Wrappers
        { wrapper with engine := { wrapper.engine with haltRequested := true } }
        { copy with engine := { copy.engine with haltRequested := true } } :=
      { same with engine := { same.engine with haltRequested := rfl } }
    rw [perform_adjust rfl present bound surface, perform_adjust rfl presentToo bound surface]
    refine ⟨⟨rfl, rfl⟩, (begun.place target requested).record repeatsRequests_closed _,
      ⟨other.history, ?_⟩, { copy with engine := { copy.engine with haltRequested := true } }, ?_, rfl⟩
    · simp [haltRequest]
    · rw [World.wrappers_record, World.get?_place, if_pos rfl]

/-- Another request leaves all but the history as it is. -/
theorem JustHalted.again (halted : JustHalted surface target world other) (bound : Nat) :
    ∃ after, perform (bound + 1) surface target .halt other = .ok .done after ∧
      JustHalted surface target world after := by
  obtain ⟨earlier, told⟩ := halted.told
  obtain ⟨wrapper, present, pending⟩ := halted.pending
  have unchanged : { wrapper with engine := { wrapper.engine with haltRequested := true } } = wrapper := by
    rw [← pending]
  refine ⟨_, perform_adjust rfl present bound surface, ?_, ⟨other.history, ?_⟩, wrapper, ?_, pending⟩
  · rw [unchanged]
    refine { halted.alike with wrappers := fun handle => ?_, history := ?_ }
    · rw [World.wrappers_record, World.get?_place]
      split
      · rename_i same
        rw [same, ← present]
        exact halted.alike.wrappers target
      · exact halted.alike.wrappers handle
    · have related := halted.alike.history
      rw [told] at related
      have again := RepeatsRequests.again surface target related
      rw [← told] at again
      simpa [haltRequest] using again
  · simp [haltRequest]
  · rw [unchanged, World.wrappers_record, World.get?_place, if_pos rfl]

/-- Requests that follow a request leave all but the history as it is. -/
theorem JustHalted.halts (halted : JustHalted surface target world other) (bound more : Nat)
    (onward : Reply → Activity σ ν α) :
    ∃ after, (Activity.halts surface target more onward).exec (perform (bound + 1)) other =
        (onward .done).exec (perform (bound + 1)) after ∧
      world.Alike repeatingHalts RepeatsRequests after := by
  induction more generalizing other with
  | zero =>
    obtain ⟨after, requested, halted⟩ := halted.again bound
    exact ⟨after, Exec.bind_of_ok requested, halted.alike⟩
  | succ more ih =>
    obtain ⟨middle, requested, halted⟩ := halted.again bound
    obtain ⟨after, goesOn, alike⟩ := ih halted
    exact ⟨after, (Exec.bind_of_ok requested).trans goesOn, alike⟩

end

/-! ### All bodies -/

/-- A halt request may be repeated. -/
theorem halts_alike {agree : α → β → Prop} {next : Reply → Activity σ ν α}
    {onward : Reply → Activity σ ν β} (surface : Surface) (target : Handle) (bound more : Nat)
    (rest : Exec.AlikeButHalts agree ((next .done).exec (perform bound))
      ((onward .done).exec (perform bound))) :
    Exec.AlikeButHalts agree ((Activity.perform surface target .halt next).exec (perform bound))
      ((Activity.halts surface target more onward).exec (perform bound)) := by
  cases bound with
  | zero => cases more <;> exact fun _ _ alike => ⟨rfl, alike⟩
  | succ bound =>
    cases more with
    | zero =>
      apply (halt_alike bound surface target).bind
      rintro _ _ ⟨rfl, rfl⟩ world other halted
      exact rest world other halted.alike
    | succ more =>
      apply (halt_alike bound surface target).bind
      rintro _ _ ⟨rfl, rfl⟩ world other halted
      obtain ⟨after, goesOn, alike⟩ := halted.halts bound more onward
      rw [goesOn]
      exact rest world after alike

/-- Every action ends alike on both sides. -/
abbrev Performer.AlikeButHalts (perform : Performer σ ν) : Prop :=
  ∀ surface handle action,
    Exec.AlikeButHalts (· = ·) (perform surface handle action) (perform surface handle action)

theorem Activity.RepeatsHalts.exec {bound : Nat}
    (performs : (RecompilerAdapter.perform bound : Performer σ ν).AlikeButHalts)
    {agree : α → β → Prop} {body : Activity σ ν α} {other : Activity σ ν β}
    (repeats : body.RepeatsHalts agree other) :
    Exec.AlikeButHalts agree (body.exec (RecompilerAdapter.perform bound))
      (other.exec (RecompilerAdapter.perform bound)) := by
  induction repeats with
  | finish agrees => exact .pure agrees
  | access rest ih => exact (World.Alike.accessShared _).bind_same ih
  | record rest ih => exact (World.Alike.emit repeatsRequests_closed _).bind_same fun _ => ih
  | perform rest ih => exact (performs _ _ _).bind_same ih
  | halts more rest ih => exact halts_alike _ _ bound more (ih .done)

theorem likeness_of_performs {bound : Nat}
    (performs : (perform bound : Performer σ ν).AlikeButHalts) :
    Likeness (World.Alike repeatingHalts RepeatsRequests)
      (World.Alike repeatingHalts RepeatsRequests) (perform bound : Performer σ ν) (perform bound)
      repeatingHalts fun _ => True :=
  World.Alike.likeness repeatsRequests_closed fun _ _ _ _ _ repeats => repeats.exec performs

theorem perform_alikeButHalts (bound : Nat) :
    (perform bound : Performer σ ν).AlikeButHalts := by
  induction bound with
  | zero => exact fun _ _ _ => World.Alike.throw _
  | succ bound ih =>
    intro surface handle action
    apply (World.Alike.emit repeatsRequests_closed _).bind_same
    intro _
    apply ((likeness_of_performs ih).performWith trivial bound surface action).bind_same
    intro reply
    exact (World.Alike.emit repeatsRequests_closed _).bind_same fun _ => .pure rfl

/-- Sessions that differ in repeated halt requests end alike. -/
theorem Command.repeatedHalts (bound : Nat) (own : σ) {commands others : List (Command σ ν ρ)}
    (alike : List.Forall₂ (Command.Alike repeatingHalts) commands others) :
    Exec.EndsAlike (World.Alike.Yield repeatingHalts)
      (World.Alike repeatingHalts RepeatsRequests) (World.Alike repeatingHalts RepeatsRequests)
      (sessionEnd bound own commands) (sessionEnd bound own others) := by
  apply World.Alike.commands (likeness_of_performs (perform_alikeButHalts bound))
    repeatsRequests_closed alike
  · exact fun _ => .none
  · exact ⟨rfl, rfl, rfl, rfl, fun _ => .none, .nil⟩

end RecompilerAdapter
