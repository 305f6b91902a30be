/-
Module: RecompilerAdapter.Proofs.Correspondence
Purpose: Reasoning about two computations at once. Two computations correspond if, from every two worlds
  in one relation, they end alike: both complete, with answers that agree and in worlds that are again in
  a relation, or both stop for the same reason. The rules follow the way computations are put together, so
  two programs of one shape are compared part by part.
Trusted boundary: none
Main exports: WorldRelation, Exec.EndsAlike, Exec.Corresponds
-/
import Mathlib.Data.Option.Basic
import RecompilerAdapter.Proofs.Execution

namespace RecompilerAdapter

variable {σ ν α β γ δ : Type}

/-- A relation between worlds. -/
abbrev WorldRelation (σ ν : Type) : Type :=
  World σ ν → World σ ν → Prop

namespace Exec

/-- Two ends of computations are alike: both complete or both stop, and stops are for the same
reason. -/
def EndsAlike (agree : α → β → Prop) (completed stopped : WorldRelation σ ν) :
    EStateM.Result Stop (World σ ν) α → EStateM.Result Stop (World σ ν) β → Prop
  | .ok answer world, .ok other counterpart => agree answer other ∧ completed world counterpart
  | .error stop world, .error other counterpart => stop = other ∧ stopped world counterpart
  | _, _ => False

/-- Ends that are alike are of one kind. -/
theorem EndsAlike.cases {agree : α → β → Prop} {completed stopped : WorldRelation σ ν}
    {first : EStateM.Result Stop (World σ ν) α} {second : EStateM.Result Stop (World σ ν) β}
    (alike : EndsAlike agree completed stopped first second) :
    (∃ answer world other counterpart, first = .ok answer world ∧ second = .ok other counterpart ∧
      agree answer other ∧ completed world counterpart) ∨
    ∃ stop world counterpart, first = .error stop world ∧ second = .error stop counterpart ∧
      stopped world counterpart := by
  cases first with
  | ok answer world =>
    cases second with
    | ok other counterpart => exact .inl ⟨answer, world, other, counterpart, rfl, rfl, alike⟩
    | error stop counterpart => exact alike.elim
  | error stop world =>
    cases second with
    | ok other counterpart => exact alike.elim
    | error reason counterpart =>
      obtain ⟨rfl, related⟩ := alike
      exact .inr ⟨stop, world, counterpart, rfl, rfl, related⟩

/-- From worlds in the relation `before`, two computations end alike. The relation may be another
one where they complete, since a part may leave behind what the next part has to find. -/
def Corresponds (stopped before completed : WorldRelation σ ν) (agree : α → β → Prop)
    (computation : Exec σ ν α) (counterpart : Exec σ ν β) : Prop :=
  ∀ world other, before world other →
    EndsAlike agree completed stopped (computation world) (counterpart other)

namespace Corresponds

variable {stopped before middle completed : WorldRelation σ ν} {agree : α → β → Prop}
  {further : γ → δ → Prop} {computation : Exec σ ν α} {counterpart : Exec σ ν β}

theorem pure {answer : α} {other : β} (agrees : agree answer other) :
    Corresponds stopped before before agree (Pure.pure answer) (Pure.pure other) :=
  fun _ _ related => ⟨agrees, related⟩

theorem throw {stop : Stop} (stops : ∀ world other, before world other → stopped world other) :
    Corresponds stopped before completed agree (MonadExcept.throw stop)
      (MonadExcept.throw stop) :=
  fun world other related => ⟨rfl, stops world other related⟩

theorem bind {next : α → Exec σ ν γ} {onward : β → Exec σ ν δ}
    (first : Corresponds stopped before middle agree computation counterpart)
    (rest : ∀ answer other, agree answer other →
      Corresponds stopped middle completed further (next answer) (onward other)) :
    Corresponds stopped before completed further (computation >>= next)
      (counterpart >>= onward) := by
  intro world other related
  rcases (first world other related).cases with
    ⟨answer, after, reply, later, ends, endsToo, agrees, alike⟩ | ⟨stop, after, later, ends, endsToo, alike⟩
  · rw [bind_of_ok ends, bind_of_ok endsToo]
    exact rest answer reply agrees after later alike
  · rw [bind_of_error ends, bind_of_error endsToo]
    exact ⟨rfl, alike⟩

/-- The rule of consequence. -/
theorem imp {stronger weaker : WorldRelation σ ν}
    (corresponds : Corresponds stopped before completed agree computation counterpart)
    (strengthen : ∀ world other, stronger world other → before world other)
    (weaken : ∀ world other, completed world other → weaker world other) :
    Corresponds stopped stronger weaker agree computation counterpart := by
  intro world other related
  rcases (corresponds world other (strengthen world other related)).cases with
    ⟨answer, after, reply, later, ends, endsToo, agrees, alike⟩ | ⟨stop, after, later, ends, endsToo, alike⟩
  · rw [ends, endsToo]
    exact ⟨agrees, weaken after later alike⟩
  · rw [ends, endsToo]
    exact ⟨rfl, alike⟩

/-- What one side ensures of its answer may be added. -/
theorem ensured {counterpart : Exec σ ν α} {property : α → Prop}
    (corresponds : Corresponds stopped before completed (· = ·) computation counterpart)
    (ensures : ∀ world, computation.Ensures world (fun answer _ => property answer) fun _ _ => True) :
    Corresponds stopped before completed (fun answer reply => answer = reply ∧ property answer)
      computation counterpart := by
  intro world other related
  rcases (corresponds world other related).cases with
    ⟨answer, after, reply, later, ends, endsToo, same, alike⟩ | ⟨stop, after, later, ends, endsToo, alike⟩
  · rw [ends, endsToo]
    exact ⟨⟨same, (ensures world).of_completed ends⟩, alike⟩
  · rw [ends, endsToo]
    exact ⟨rfl, alike⟩

/-- The rule for answers that are the same on both sides. -/
theorem bind_same {next : α → Exec σ ν γ} {onward : α → Exec σ ν δ} {counterpart : Exec σ ν α}
    (first : Corresponds stopped before middle (· = ·) computation counterpart)
    (rest : ∀ answer, Corresponds stopped middle completed further (next answer) (onward answer)) :
    Corresponds stopped before completed further (computation >>= next)
      (counterpart >>= onward) := by
  apply first.bind
  rintro answer _ rfl
  exact rest answer

/-- What is done next may depend on the worlds. -/
theorem get_bind {next : World σ ν → Exec σ ν γ} {onward : World σ ν → Exec σ ν δ}
    (rest : ∀ world other, before world other →
      EndsAlike further completed stopped (next world world) (onward other other)) :
    Corresponds stopped before completed further (get >>= next) (get >>= onward) :=
  rest

/-- If related worlds have related wrappers behind a handle, or none, then looking there finds
them. -/
theorem wrapper (handle : Handle) {wrappers : Wrapper σ ν → Wrapper σ ν → Prop}
    (finds : ∀ world other, before world other →
      Option.Rel wrappers (world.wrappers.get? handle) (other.wrappers.get? handle))
    (stops : ∀ world other, before world other → stopped world other) :
    Corresponds stopped before before wrappers (Exec.wrapper handle) (Exec.wrapper handle) := by
  apply get_bind
  intro world other worlds
  have related := finds world other worlds
  generalize world.wrappers.get? handle = found at related ⊢
  generalize other.wrappers.get? handle = foundToo at related ⊢
  cases related with
  | none => exact ⟨rfl, stops world other worlds⟩
  | some same => exact ⟨same, worlds⟩

theorem emit {event other : Event ν}
    (records : ∀ world counterpart, before world counterpart →
      completed (world.record event) (counterpart.record other)) :
    Corresponds stopped before completed (· = ·) (Exec.emit event) (Exec.emit other) :=
  fun world counterpart related => ⟨rfl, records world counterpart related⟩

theorem forM {body copy : γ → Exec σ ν Unit} (items : List γ)
    (each : ∀ item, Corresponds stopped before before (· = ·) (body item) (copy item)) :
    Corresponds stopped before before (· = ·) (items.forM body) (items.forM copy) := by
  induction items with
  | nil => exact .pure rfl
  | cons item items ih => exact (each item).bind_same fun _ => ih

theorem mapM {body copy : γ → Exec σ ν α} (items : List γ)
    (each : ∀ item, Corresponds stopped before before (· = ·) (body item) (copy item)) :
    Corresponds stopped before before (· = ·) (items.mapM body) (items.mapM copy) := by
  induction items with
  | nil => exact .pure rfl
  | cons item items ih =>
    rw [List.mapM_cons, List.mapM_cons]
    apply (each item).bind_same
    intro answer
    exact ih.bind_same fun _ => .pure rfl

/-- A computation completes where its counterpart does. -/
theorem completes {world after other : World σ ν} {answer : α}
    (corresponds : Corresponds stopped before completed agree computation counterpart)
    (related : before world other) (ends : computation world = .ok answer after) :
    ∃ reply later, counterpart other = .ok reply later ∧ agree answer reply ∧
      completed after later := by
  have alike := corresponds world other related
  rw [ends] at alike
  rcases alike.cases with
    ⟨_, _, reply, later, same, endsToo, agrees, alike⟩ | ⟨stop, _, later, stops, -, -⟩
  · cases same
    exact ⟨reply, later, endsToo, agrees, alike⟩
  · cases stops

end Corresponds

end Exec

end RecompilerAdapter
