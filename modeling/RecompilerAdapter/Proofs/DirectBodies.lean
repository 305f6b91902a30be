/-
Module: RecompilerAdapter.Proofs.DirectBodies
Purpose: The same on the direct surface. A caller may reach wrappers through the foreign surface, another
  one does the same through the direct surface. As long as rejected runs are reported to the first caller
  too, both get the same replies, and the same happens in the same order.
Trusted boundary: none
Main exports: Activity.OnDirect, SameOnDirect, performReporting_alikeOnDirect
-/
import RecompilerAdapter.Proofs.ForeignRuns
import RecompilerAdapter.Proofs.LikeSessions

namespace RecompilerAdapter

variable {σ ν α β : Type}

/-! ### Bodies -/

/-- The second body does the same as the first one, but always on the direct surface. The replies
that it gets there are those that the first one would get if nothing ended. -/
inductive Activity.OnDirect (agree : α → β → Prop) : Activity σ ν α → Activity σ ν β → Prop where
  | finish {answer : α} {other : β} (agrees : agree answer other) :
      OnDirect agree (.finish answer) (.finish other)
  | access {update : Shared σ → Shared σ} {next : Shared σ → Activity σ ν α}
      {onward : Shared σ → Activity σ ν β} (rest : ∀ before, OnDirect agree (next before) (onward before)) :
      OnDirect agree (.access update next) (.access update onward)
  | record {note : ν} {next : Activity σ ν α} {onward : Activity σ ν β}
      (rest : OnDirect agree next onward) : OnDirect agree (.record note next) (.record note onward)
  | perform {surface : Surface} {target : Handle} {action : Action} {next : Reply → Activity σ ν α}
      {onward : Reply → Activity σ ν β} (rest : ∀ reply, OnDirect agree (next reply) (onward reply)) :
      OnDirect agree (.perform surface target action next) (.perform .direct target action onward)

/-- Bodies that differ in the surface on which they act. -/
def onDirect : BodyRelation σ ν :=
  fun _ _ agree body other => body.OnDirect agree other

/-! ### Histories -/

/-- The event, told of the direct surface. -/
def Event.onDirect : Event ν → Event ν
  | .acting _ handle action => .acting .direct handle action
  | .acted _ handle action reply => .acted .direct handle action reply
  | event => event

/-- Two histories differ in the surface on which callers act. Everything else that is told is the
same, event by event. -/
def SameOnDirect : HistoryRelation ν :=
  fun history other => history.map Event.onDirect = other.map Event.onDirect

theorem SameOnDirect.append {history other : List (Event ν)} (same : SameOnDirect history other)
    {event copy : Event ν} (told : event.onDirect = copy.onDirect) :
    SameOnDirect (history ++ [event]) (other ++ [copy]) := by
  unfold SameOnDirect
  rw [List.map_append, List.map_append, same, List.map_singleton, List.map_singleton, told]

theorem sameOnDirect_closed : HistoryRelation.Closed (ν := ν) SameOnDirect :=
  fun _ _ _ same => same.append rfl

/-- From worlds that differ in the surface on which callers act, two computations end alike. -/
abbrev Exec.AlikeOnDirect (agree : α → β → Prop) (computation : Exec σ ν α)
    (counterpart : Exec σ ν β) : Prop :=
  Exec.EndAlike onDirect SameOnDirect agree computation counterpart

theorem Exec.AlikeOnDirect.emit {event other : Event ν} (told : event.onDirect = other.onDirect) :
    Exec.AlikeOnDirect (· = ·) (Exec.emit event : Exec σ ν Unit) (Exec.emit other) :=
  Exec.Corresponds.emit fun _ _ alike => alike.record_of_history (SameOnDirect.append alike.history told)

/-! ### Performers -/

/-- Every action ends on any surface as it does on the direct surface of the counterpart. -/
abbrev Performer.AlikeOnDirect (perform counterpart : Performer σ ν) : Prop :=
  ∀ surface handle action,
    Exec.AlikeOnDirect (· = ·) (perform surface handle action) (counterpart .direct handle action)

theorem Activity.OnDirect.exec {perform counterpart : Performer σ ν}
    (performs : perform.AlikeOnDirect counterpart) {agree : α → β → Prop} {body : Activity σ ν α}
    {other : Activity σ ν β} (same : body.OnDirect agree other) :
    Exec.AlikeOnDirect agree (body.exec perform) (other.exec counterpart) := by
  induction same with
  | finish agrees => exact .pure agrees
  | access rest ih => exact (World.Alike.accessShared _).bind_same ih
  | record rest ih => exact (Exec.AlikeOnDirect.emit rfl).bind_same fun _ => ih
  | perform rest ih => exact (performs _ _ _).bind_same ih

theorem Performer.AlikeOnDirect.likeness {perform counterpart : Performer σ ν}
    (performs : perform.AlikeOnDirect counterpart) :
    Likeness (World.Alike onDirect SameOnDirect) (World.Alike onDirect SameOnDirect) perform counterpart
      onDirect fun _ => True :=
  World.Alike.likeness sameOnDirect_closed fun _ _ _ _ _ same => same.exec performs

/-- If rejected runs are reported, the surface does not matter, at any depth. -/
theorem performReporting_alikeOnDirect (bound : Nat) :
    (performReporting bound : Performer σ ν).AlikeOnDirect (perform bound) := by
  induction bound with
  | zero => exact fun _ _ _ => World.Alike.throw _
  | succ bound ih =>
    intro surface handle action
    refine .bind_same (Exec.AlikeOnDirect.emit rfl) fun _ => ?_
    apply (ih.likeness.performWith trivial bound .direct action).bind_same
    intro reply
    exact .bind_same (Exec.AlikeOnDirect.emit rfl) fun _ => .pure rfl

end RecompilerAdapter
