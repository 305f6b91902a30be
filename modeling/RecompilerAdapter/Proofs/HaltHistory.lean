/-
Module: RecompilerAdapter.Proofs.HaltHistory
Purpose: Halt requests in a history. A request is made by an action and waits until a run of its wrapper
  comes between two instructions; that run is left at once, and the request is gone. The law of halting
  says so of every event, and whom a request ends and whom it does not end follows from the law alone.
Trusted boundary: none
Main exports: Boundary, HaltWaits, Halting, TicksHaltNothing, not_haltWaits_runLeft, ends_of_requested
-/
import RecompilerAdapter.Proofs.Laws

namespace RecompilerAdapter

variable {ν : Type} {handle other : Handle} {before history during : List (Event ν)} {event : Event ν}

/-! ### Requests that wait -/

/-- The run of a wrapper is between two instructions: it has just begun, or the ticks of an
instruction have just been added. -/
inductive Boundary (handle : Handle) : List (Event ν) → Prop where
  | begun (earlier : List (Event ν)) (data : UserData) :
      Boundary handle (earlier ++ [.runEntered handle, .log (.engineRun data)])
  | stepped (earlier : List (Event ν)) (ticks : UInt64) (answer : HostAnswer) :
      Boundary handle (earlier ++ [.answered handle (.addTicks ticks) answer])

/-- A halt request for the wrapper waits: it was made, and no run has been left between two
instructions since. -/
inductive HaltWaits (handle : Handle) : List (Event ν) → Prop where
  | requested (before : List (Event ν)) (surface : Surface) (reply : Reply) :
      HaltWaits handle (before ++ [.acted surface handle .halt reply])
  | still {before : List (Event ν)} (event : Event ν) (waits : HaltWaits handle before)
      (missed : event = .runLeft handle → ¬ Boundary handle before) :
      HaltWaits handle (before ++ [event])

/-- An event that begins or ends what is between two instructions. Requests in between are taken at
the end of it, so the run ends at this boundary. -/
def Event.bounds (handle : Handle) : Event ν → Prop
  | log (.engineRun _) => True
  | answered other (.addTicks _) _ => other = handle
  | _ => False

theorem Boundary.bounds (boundary : Boundary handle (before ++ [event])) : event.bounds handle := by
  generalize same : before ++ [event] = told at boundary
  cases boundary with
  | begun earlier data =>
    rw [List.append_cons earlier] at same
    obtain ⟨-, isEvent⟩ := List.append_inj' same rfl
    cases isEvent
    trivial
  | stepped earlier ticks answer =>
    obtain ⟨-, isEvent⟩ := List.append_inj' same rfl
    cases isEvent
    rfl

theorem Boundary.ne_nil (boundary : Boundary handle history) : history ≠ [] := by
  cases boundary <;> simp

/-- At any time at most one run is between two instructions. -/
theorem Boundary.unique (boundary : Boundary handle history) (also : Boundary other history) :
    handle = other := by
  cases boundary with
  | begun earlier data =>
    generalize same : earlier ++ [.runEntered handle, .log (.engineRun data)] = told at also
    cases also with
    | begun others otherData =>
      obtain ⟨-, isLast⟩ := List.append_inj' same rfl
      cases isLast
      rfl
    | stepped others ticks answer =>
      rw [List.append_cons earlier] at same
      obtain ⟨-, isLast⟩ := List.append_inj' same rfl
      cases isLast
  | stepped earlier ticks answer => exact also.bounds

@[simp] theorem not_haltWaits_nil : ¬ HaltWaits handle ([] : List (Event ν)) := by
  intro waits
  generalize same : ([] : List (Event ν)) = told at waits
  cases waits <;> simp at same

theorem haltWaits_append_singleton : HaltWaits handle (before ++ [event]) ↔
    (∃ surface reply, event = .acted surface handle .halt reply) ∨
      HaltWaits handle before ∧ (event = .runLeft handle → ¬ Boundary handle before) := by
  constructor
  · intro waits
    generalize same : before ++ [event] = told at waits
    cases waits with
    | requested earlier surface reply =>
      obtain ⟨-, isEvent⟩ := List.append_inj' same rfl
      cases isEvent
      exact .inl ⟨surface, reply, rfl⟩
    | still last waits missed =>
      obtain ⟨rfl, isEvent⟩ := List.append_inj' same rfl
      cases isEvent
      exact .inr ⟨waits, missed⟩
  · rintro (⟨surface, reply, rfl⟩ | ⟨waits, missed⟩)
    · exact .requested before surface reply
    · exact .still event waits missed

/-- Events of other kinds concern no request. -/
theorem haltWaits_other (unrequested : ∀ surface reply, event ≠ .acted surface handle .halt reply)
    (notLeft : event ≠ .runLeft handle) :
    HaltWaits handle (before ++ [event]) ↔ HaltWaits handle before := by
  rw [haltWaits_append_singleton]
  constructor
  · rintro (⟨surface, reply, same⟩ | ⟨waits, -⟩)
    · exact (unrequested surface reply same).elim
    · exact waits
  · exact fun waits => .inr ⟨waits, fun same => (notLeft same).elim⟩

/-- A run that is left between two instructions takes the request with it. -/
theorem not_haltWaits_runLeft (boundary : Boundary handle before) :
    ¬ HaltWaits handle (before ++ [.runLeft handle]) := by
  rw [haltWaits_append_singleton]
  rintro (⟨surface, reply, same⟩ | ⟨-, missed⟩)
  · cases same
  · exact missed rfl boundary

/-- A run that is left concerns the requests of its wrapper only, and only between two
instructions. -/
theorem haltWaits_runLeft (missed : other = handle → ¬ Boundary handle before) :
    HaltWaits other (before ++ [.runLeft handle]) ↔ HaltWaits other before := by
  rw [haltWaits_append_singleton]
  constructor
  · rintro (⟨surface, reply, same⟩ | ⟨waits, -⟩)
    · cases same
    · exact waits
  · intro waits
    refine .inr ⟨waits, fun same => ?_⟩
    cases same
    exact missed rfl

/-- A request waits as long as no run of the wrapper is left. -/
theorem HaltWaits.append (waits : HaltWaits handle before) (stillOpen : .runLeft handle ∉ during) :
    HaltWaits handle (before ++ during) := by
  induction during using List.reverseRecOn with
  | nil => rwa [List.append_nil]
  | append_singleton during event ih =>
    rw [List.mem_append, not_or] at stillOpen
    rw [← List.append_assoc]
    refine .still event (ih stillOpen.1) fun same => ?_
    exact (stillOpen.2 (by simp [same])).elim

/-- While nobody makes a request, none waits. -/
theorem not_haltWaits_append (none : ¬ HaltWaits handle before)
    (quiet : ∀ surface reply, .acted surface handle .halt reply ∉ during) :
    ¬ HaltWaits handle (before ++ during) := by
  induction during using List.reverseRecOn with
  | nil => rwa [List.append_nil]
  | append_singleton during event ih =>
    rw [← List.append_assoc, haltWaits_append_singleton]
    rintro (⟨surface, reply, rfl⟩ | ⟨waits, -⟩)
    · exact quiet surface reply (by simp)
    · exact ih (fun surface reply requested => quiet surface reply (by simp [requested])) waits

/-! ### The law -/

/-- Between two instructions, a run is left at once if a halt request waits, and asks for the
remaining ticks if none does. It is left there, or when it learns that no ticks remain; it asks for
them only when no request waits. -/
structure Halting (before : List (Event ν)) (event : Event ν) : Prop where
  ends : ∀ handle, Boundary handle before → HaltWaits handle before → event = .runLeft handle
  asks : ∀ handle, Boundary handle before → ¬ HaltWaits handle before →
    ∃ bridge, event = .calling bridge .ticksRemaining true
  leaves : ∀ handle, event = .runLeft handle → Boundary handle before ∧ HaltWaits handle before ∨
    before.getLast? = some (.answered handle .ticksRemaining (.number 0)) ∧
      .requested handle .ticksRemaining ∈ before
  requests : ∀ handle, event = .requested handle .ticksRemaining → ¬ HaltWaits handle before

namespace Halting

theorem taken (boundary : Boundary handle before) (waits : HaltWaits handle before) :
    Halting before (.runLeft handle) where
  ends other also _ := by rw [boundary.unique also]
  asks other also idle := by
    rw [boundary.unique also] at waits
    exact (idle waits).elim
  leaves other same := by
    cases same
    exact .inl ⟨boundary, waits⟩
  requests _ same := by cases same

theorem spent (within : ∀ other, ¬ Boundary other before)
    (answered : before.getLast? = some (.answered handle .ticksRemaining (.number 0)))
    (requested : .requested handle .ticksRemaining ∈ before) : Halting before (.runLeft handle) where
  ends other boundary := (within other boundary).elim
  asks other boundary := (within other boundary).elim
  leaves other same := by
    cases same
    exact .inr ⟨answered, requested⟩
  requests _ same := by cases same

/-- Within an instruction every event is lawful that neither ends the run nor asks for the remaining
ticks. -/
theorem inside (within : ∀ other, ¬ Boundary other before)
    (notLeft : ∀ other, event ≠ .runLeft other)
    (unasked : ∀ other, event = .requested other .ticksRemaining → ¬ HaltWaits other before) :
    Halting before event where
  ends other boundary := (within other boundary).elim
  asks other boundary := (within other boundary).elim
  leaves other same := (notLeft other same).elim
  requests := unasked

theorem asked (boundary : Boundary handle before) (idle : ¬ HaltWaits handle before)
    (bridge : HandleSlot) : Halting before (.calling bridge .ticksRemaining true) where
  ends other also waits := by
    rw [boundary.unique also] at idle
    exact (idle waits).elim
  asks _ _ _ := ⟨bridge, rfl⟩
  leaves _ same := by cases same
  requests _ same := by cases same

end Halting

/-- From a request for the remaining ticks of a wrapper to the answer, nobody requests a halt of the
wrapper: neither the entry that answers, nor anybody whom it lets do something. -/
def TicksHaltNothing (history : List (Event ν)) : Prop :=
  ∀ handle earlier during answer later,
    history = earlier ++ .requested handle .ticksRemaining :: during ++
      .answered handle .ticksRemaining answer :: later →
    .requested handle .ticksRemaining ∉ during →
    ∀ surface reply, .acted surface handle .halt reply ∉ during

/-- A run that is not left stays open. -/
theorem mem_openRuns_append (running : handle ∈ openRuns before) (stillOpen : .runLeft handle ∉ during) :
    handle ∈ openRuns (before ++ during) := by
  induction during using List.reverseRecOn with
  | nil => rwa [List.append_nil]
  | append_singleton during event ih =>
    rw [List.mem_append, not_or] at stillOpen
    have earlier := ih stillOpen.1
    rw [← List.append_assoc, openRuns_append_singleton]
    cases event with
    | runEntered => exact List.mem_cons_of_mem _ earlier
    | runLeft other =>
      refine (List.mem_erase_of_ne ?_).2 earlier
      rintro rfl
      exact stillOpen.2 (by simp)
    | _ => exact earlier

/-- Two elements at the end of a list that come after another one. -/
theorem append_cons_eq_append_pair {α : Type} {first middle earlier : List α} {element entered told : α}
    (same : first ++ element :: middle = earlier ++ [entered, told]) (notFirst : element ≠ entered)
    (notSecond : element ≠ told) :
    ∃ amid, middle = amid ++ [entered, told] := by
  rcases middle.eq_nil_or_concat' with rfl | ⟨middle, last, rfl⟩
  · rw [List.append_cons earlier] at same
    exact (notSecond (List.cons.inj (List.append_inj' same rfl).2).1).elim
  · rw [List.append_cons earlier, ← List.cons_append, ← List.append_assoc] at same
    obtain ⟨front, isLast⟩ := List.append_inj' same rfl
    cases isLast
    rcases middle.eq_nil_or_concat' with rfl | ⟨middle, second, rfl⟩
    · exact (notFirst (List.cons.inj (List.append_inj' front rfl).2).1).elim
    · rw [← List.cons_append, ← List.append_assoc] at front
      obtain ⟨-, isSecond⟩ := List.append_inj' front rfl
      cases isSecond
      exact ⟨middle, by simp⟩

/-- The last of some equal elements. -/
theorem exists_last_of_mem {α : Type} {element : α} {list : List α} (isMember : element ∈ list) :
    ∃ earlier later, list = earlier ++ element :: later ∧ element ∉ later := by
  induction list with
  | nil => cases isMember
  | cons head tail ih =>
    by_cases isLater : element ∈ tail
    · obtain ⟨earlier, later, split, isLast⟩ := ih isLater
      exact ⟨head :: earlier, later, by rw [split, List.cons_append], isLast⟩
    · rcases List.mem_cons.1 isMember with rfl | isLaterToo
      · exact ⟨[], tail, rfl, isLater⟩
      · exact (isLater isLaterToo).elim

section

variable (lawful : EveryEvent Halting history) (harmless : TicksHaltNothing history)
  {after : List (Event ν)}

include lawful

/-- Where the remaining ticks have been told, no request waits. -/
theorem not_haltWaits_of_answered (harmless : TicksHaltNothing history)
    (split : history = before ++ event :: after) {answer : HostAnswer}
    (answered : before.getLast? = some (.answered handle .ticksRemaining answer))
    (requested : .requested handle .ticksRemaining ∈ before) : ¬ HaltWaits handle before := by
  obtain ⟨told, rfl⟩ := List.getLast?_eq_some_iff.1 answered
  have requestedBefore : Event.requested handle .ticksRemaining ∈ told := by simpa using requested
  obtain ⟨earlier, during, rfl, isLast⟩ := exists_last_of_mem requestedBefore
  have asked := (lawful earlier (.requested handle .ticksRemaining)
    (during ++ .answered handle .ticksRemaining answer :: event :: after)
    (by simp [split])).requests handle rfl
  have quiet := harmless handle earlier during answer (event :: after) (by simp [split]) isLast
  rw [List.append_assoc]
  apply not_haltWaits_append asked
  intro surface reply isMember
  simp only [List.mem_append, List.mem_cons, reduceCtorEq, List.not_mem_nil, or_false, false_or]
    at isMember
  exact quiet surface reply isMember

/-- No request waits when a run has been left. -/
theorem not_haltWaits_of_left (harmless : TicksHaltNothing history)
    (split : history = before ++ .runLeft handle :: after) :
    ¬ HaltWaits handle (before ++ [.runLeft handle]) := by
  rcases (lawful before _ after split).leaves handle rfl with ⟨boundary, -⟩ | ⟨told, requested⟩
  · exact not_haltWaits_runLeft boundary
  · have idle := not_haltWaits_of_answered lawful harmless split told requested
    exact not_haltWaits_append idle (by simp)

/-- A request that is made during a run ends the run as soon as it comes between two
instructions. -/
theorem ends_of_requested {surface : Surface} {reply : Reply}
    (split : history = before ++ .acted surface handle .halt reply :: during ++ event :: after)
    (stillOpen : .runLeft handle ∉ during)
    (boundary : Boundary handle (before ++ .acted surface handle .halt reply :: during)) :
    event = .runLeft handle := by
  refine (lawful _ event after split).ends handle boundary ?_
  rw [List.append_cons]
  exact (HaltWaits.requested before surface reply).append stillOpen

/-- A request that is made during a run does not end the run before the current instruction is
executed and its ticks are added. -/
theorem stepped_of_requested (orderly : EveryEvent Orderly history)
    (harmless : TicksHaltNothing history) {surface : Surface} {reply : Reply}
    (split : history = before ++ .acted surface handle .halt reply :: during ++
      .runLeft handle :: after)
    (running : handle ∈ openRuns before) (stillOpen : .runLeft handle ∉ during) :
    ∃ earlier ticks answer, before ++ .acted surface handle .halt reply :: during =
      earlier ++ [.answered handle (.addTicks ticks) answer] := by
  have waits : HaltWaits handle (before ++ .acted surface handle .halt reply :: during) := by
    rw [List.append_cons]
    exact (HaltWaits.requested before surface reply).append stillOpen
  rcases (lawful _ _ after split).leaves handle rfl with ⟨boundary, -⟩ | ⟨told, requested⟩
  · generalize same : before ++ .acted surface handle .halt reply :: during = told at boundary
    cases boundary with
    | stepped earlier ticks answer => exact ⟨earlier, ticks, answer, rfl⟩
    | begun earlier data =>
      -- No run of the wrapper can have begun since the request, for one is open.
      obtain ⟨amid, rfl⟩ := append_cons_eq_append_pair same (by simp) (by simp)
      simp only [List.mem_append, not_or] at stillOpen
      have isOpen : handle ∈ openRuns (before ++ .acted surface handle .halt reply :: amid) := by
        rw [List.append_cons]
        exact mem_openRuns_append (by simpa [Event.nest] using running) stillOpen.1
      have isClosed := (orderly (before ++ .acted surface handle .halt reply :: amid)
        (.runEntered handle) (.log (.engineRun data) :: .runLeft handle :: after) (by simp [split])).1
      exact (isClosed isOpen).elim
  · exact (not_haltWaits_of_answered lawful harmless split told requested waits).elim

end

end RecompilerAdapter
