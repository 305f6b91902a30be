/-
Module: RecompilerAdapter.Activity
Purpose: The body of a callback: whatever a caller does between the moment it is called and the moment it
  answers. A body may use the caller's own state and the words that it shares with engines, may note
  something, and may act on any wrapper; what it does next may depend on what it learns. The caller's
  state is a parameter, so a statement about all bodies is a statement about all callers.
Trusted boundary: the definitions of this module
Main exports: Shared, Activity, Activity.bind, Activity.act
-/
import RecompilerAdapter.Event

namespace RecompilerAdapter

/-- The state on the caller's side: its own, and the words that engines may access directly. -/
structure Shared (σ : Type) where
  own : σ
  words : WordStore

/-- The body of a callback that ends with an answer. -/
inductive Activity (σ ν α : Type) where
  /-- Answers. -/
  | finish (answer : α)
  /-- Changes the caller's state, and goes on with the state as it was before. -/
  | access (update : Shared σ → Shared σ) (next : Shared σ → Activity σ ν α)
  /-- Notes something. -/
  | record (note : ν) (next : Activity σ ν α)
  /-- Acts on a wrapper, and goes on with the reply. -/
  | perform (surface : Surface) (target : Handle) (action : Action)
      (next : Reply → Activity σ ν α)

namespace Activity

variable {σ ν α β γ : Type}

/-- One body after the other. -/
def bind : Activity σ ν α → (α → Activity σ ν β) → Activity σ ν β
  | finish answer, next => next answer
  | access update rest, next => .access update fun before => (rest before).bind next
  | record note rest, next => .record note (rest.bind next)
  | perform surface target action rest, next =>
    .perform surface target action fun reply => (rest reply).bind next

instance : Monad (Activity σ ν) where
  pure := finish
  bind := bind

theorem bind_finish (body : Activity σ ν α) : body.bind finish = body := by
  induction body with
  | finish answer => rfl
  | access update next ih => simp only [bind, ih]
  | record note next ih => simp only [bind, ih]
  | perform surface target action next ih => simp only [bind, ih]

theorem bind_assoc (body : Activity σ ν α) (first : α → Activity σ ν β)
    (second : β → Activity σ ν γ) :
    (body.bind first).bind second = body.bind fun answer => (first answer).bind second := by
  induction body with
  | finish answer => rfl
  | access update next ih => simp only [bind, ih]
  | record note next ih => simp only [bind, ih]
  | perform surface target action next ih => simp only [bind, ih]

instance : LawfulMonad (Activity σ ν) :=
  LawfulMonad.mk' _ bind_finish (fun _ _ => rfl) bind_assoc

/-- The caller's state. -/
def get : Activity σ ν (Shared σ) :=
  .access id finish

/-- Changes the caller's own state. -/
def modifyOwn (update : σ → σ) : Activity σ ν Unit :=
  .access (fun shared => { shared with own := update shared.own }) fun _ => finish ()

/-- Replaces the word at a location. -/
def storeWord (location : Location) (word : UInt32) : Activity σ ν Unit :=
  .access (fun shared => { shared with words := shared.words.store location word }) fun _ =>
    finish ()

/-- Notes something. -/
def write (note : ν) : Activity σ ν Unit :=
  .record note (finish ())

/-- Acts on a wrapper. -/
def act (surface : Surface) (target : Handle) (action : Action) : Activity σ ν Reply :=
  .perform surface target action finish

end Activity

end RecompilerAdapter
