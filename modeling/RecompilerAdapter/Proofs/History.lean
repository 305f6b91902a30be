/-
Module: RecompilerAdapter.Proofs.History
Purpose: What can be told from a history of events alone: which runs are open and how they are nested,
  which wrappers were put in place behind which handles, and what a bridge's coprocessors answered last.
  None of these views looks at the state of a wrapper or at a handle slot, so a statement in their words
  is independent of how the adapter keeps its records.
Trusted boundary: none
Main exports: Event.nest, openRuns, Event.tell, attachments, released, lastAnswer, EveryEvent, Continues
-/
import Mathlib.Data.List.Basic
import Mathlib.Data.List.Induction
import RecompilerAdapter.Event

namespace RecompilerAdapter

variable {ν : Type}

/-! ### Open runs -/

/-- The open runs after one more event, the innermost first. -/
def Event.nest (runs : List Handle) : Event ν → List Handle
  | runEntered handle => handle :: runs
  | runLeft handle => runs.erase handle
  | _ => runs

/-- The wrappers whose runs are not over, the innermost first. The history is the only witness of
runs around the present one, since the state of a wrapper does not tell who has started it. -/
def openRuns (history : List (Event ν)) : List Handle :=
  history.foldl Event.nest []

@[simp] theorem openRuns_nil : openRuns ([] : List (Event ν)) = [] :=
  rfl

/-- Which runs are open after further events depends on the open runs and these events alone. -/
theorem openRuns_append (history events : List (Event ν)) :
    openRuns (history ++ events) = events.foldl Event.nest (openRuns history) := by
  simp [openRuns]

@[simp] theorem openRuns_append_singleton (history : List (Event ν)) (event : Event ν) :
    openRuns (history ++ [event]) = event.nest (openRuns history) := by
  simp [openRuns]

/-- Whether the event is the beginning of a run of the wrapper. -/
def Event.begins (handle : Handle) : Event ν → Bool
  | runEntered other => other == handle
  | _ => false

/-- Whether a run of the wrapper has ever begun. -/
def everRun (history : List (Event ν)) (handle : Handle) : Bool :=
  history.any (Event.begins handle)

/-- The same for whether a run of a wrapper has ever begun. -/
theorem everRun_append (history events : List (Event ν)) (handle : Handle) :
    everRun (history ++ events) handle = (everRun history handle || events.any (Event.begins handle)) := by
  simp [everRun]

@[simp] theorem everRun_append_singleton (history : List (Event ν)) (event : Event ν)
    (handle : Handle) :
    everRun (history ++ [event]) handle = (everRun history handle || event.begins handle) := by
  simp [everRun]

/-- A run that is open has begun. -/
theorem everRun_of_mem_openRuns {history : List (Event ν)} {handle : Handle}
    (running : handle ∈ openRuns history) : everRun history handle = true := by
  induction history using List.reverseRecOn with
  | nil => simp at running
  | append_singleton history event ih =>
    rw [openRuns_append_singleton] at running
    rw [everRun_append_singleton, Bool.or_eq_true]
    cases event with
    | runEntered other =>
      rcases List.mem_cons.1 running with rfl | earlier
      · exact .inr (by simp [Event.begins])
      · exact .inl (ih earlier)
    | runLeft other => exact .inl (ih (List.mem_of_mem_erase running))
    | _ => exact .inl (ih running)

/-- The run state that a wrapper must have after a history: running while a run of it is open,
halted if runs of it began and all are over, and constructed if none ever began. -/
def stateAfter (history : List (Event ν)) (handle : Handle) : RunState :=
  if handle ∈ openRuns history then .running
  else if everRun history handle then .halted
  else .constructed

/-! ### Lines about runs -/

/-- The open lines after one more event, the innermost first; none if the event is the end of a run
that the innermost open line is not about. -/
def Event.tell (lines : Option (List UserData)) : Event ν → Option (List UserData)
  | log (.engineRun data) => lines.map (data :: ·)
  | log (.engineReturned data) => lines.bind fun
    | top :: rest => if top = data then some rest else none
    | [] => none
  | _ => lines

/-- The contexts of the lines that tell the beginning of a run and whose end has not been told, the
innermost first; none if the lines are not nested. -/
def openLines (history : List (Event ν)) : Option (List UserData) :=
  history.foldl Event.tell (some [])

/-- The same for the lines about runs that still wait for their counterpart. -/
theorem openLines_append (history events : List (Event ν)) :
    openLines (history ++ events) = events.foldl Event.tell (openLines history) := by
  simp [openLines]

/-! ### Wrappers in place -/

/-- A wrapper with this context was put in place behind the handle, and its bridges share this
handle slot. -/
def Attached (history : List (Event ν)) (bridge : HandleSlot) (handle : Handle)
    (data : UserData) : Prop :=
  Event.attached bridge handle data ∈ history

/-- A wrapper's bridges share this handle slot. As long as this does not hold of a slot, nobody may
be called through it. -/
def IsAttached (history : List (Event ν)) (bridge : HandleSlot) : Prop :=
  ∃ handle data, Attached history bridge handle data

/-- The wrapper that an event puts in place. -/
def Event.attachment? : Event ν → Option (HandleSlot × Handle × UserData)
  | attached bridge handle data => some (bridge, handle, data)
  | _ => none

/-- All wrappers that were put in place, the oldest first. -/
def attachments (history : List (Event ν)) : List (HandleSlot × Handle × UserData) :=
  history.filterMap Event.attachment?

/-- Attachments are gathered in their order. -/
theorem attachments_append (history events : List (Event ν)) :
    attachments (history ++ events) = attachments history ++ events.filterMap Event.attachment? := by
  simp [attachments]

/-- What is gathered is what the history tells of. -/
theorem mem_attachments {history : List (Event ν)} {bridge : HandleSlot} {handle : Handle}
    {data : UserData} :
    (bridge, handle, data) ∈ attachments history ↔ Attached history bridge handle data := by
  unfold attachments Attached
  rw [List.mem_filterMap]
  constructor
  · rintro ⟨event, isEvent, attaches⟩
    cases event <;> simp only [Event.attachment?, reduceCtorEq, Option.some.injEq] at attaches
    cases attaches
    exact isEvent
  · exact fun isEvent => ⟨_, isEvent, rfl⟩

/-- An attachment is for good. -/
theorem Attached.append {history : List (Event ν)} {bridge : HandleSlot} {handle : Handle}
    {data : UserData} (attached : Attached history bridge handle data)
    (events : List (Event ν)) : Attached (history ++ events) bridge handle data :=
  List.mem_append_left _ attached

/-! ### Releases -/

/-- The context that an event releases. -/
def Event.release? : Event ν → Option Context
  | destroyed context => some context
  | _ => none

/-- All contexts that were released, the oldest first. -/
def released (history : List (Event ν)) : List Context :=
  history.filterMap Event.release?

@[simp] theorem released_append (history events : List (Event ν)) :
    released (history ++ events) = released history ++ released events := by
  simp [released]

/-! ### Compile answers -/

/-- The last answer through a bridge after one more event. -/
def Event.answerThrough (bridge : HandleSlot) (last : Option CompileAnswer) :
    Event ν → Option CompileAnswer
  | compiled other _ _ _ answer => if other = bridge then some answer else last
  | _ => last

/-- The last answer that a compile entry gave through the bridges that share a handle slot. This is
what a scripted engine may have kept, as it keeps one answer at a time. -/
def lastAnswer (bridge : HandleSlot) (history : List (Event ν)) : Option CompileAnswer :=
  history.foldl (Event.answerThrough bridge) none

/-- What a coprocessor answered last depends on what it answered before only as far as no later
answer follows. -/
theorem lastAnswer_append (bridge : HandleSlot) (history events : List (Event ν)) :
    lastAnswer bridge (history ++ events) =
      events.foldl (Event.answerThrough bridge) (lastAnswer bridge history) := by
  simp [lastAnswer]

@[simp] theorem lastAnswer_append_singleton (bridge : HandleSlot) (history : List (Event ν))
    (event : Event ν) :
    lastAnswer bridge (history ++ [event]) =
      event.answerThrough bridge (lastAnswer bridge history) := by
  simp [lastAnswer]

/-! ### Statements about every event -/

/-- Every event of a history stands in a relation to the events before it. In this form, laws about
the order of events are kept when events are added at the end. -/
def EveryEvent (property : List (Event ν) → Event ν → Prop) (history : List (Event ν)) : Prop :=
  ∀ before event after, history = before ++ event :: after → property before event

theorem EveryEvent.nil {property : List (Event ν) → Event ν → Prop} : EveryEvent property [] := by
  intro before event after split
  simp at split

/-- A statement about every event and its past is shown by adding one event at a time. All
inductions over histories rest on this. -/
theorem everyEvent_append_singleton {property : List (Event ν) → Event ν → Prop}
    {history : List (Event ν)} {event : Event ν} :
    EveryEvent property (history ++ [event]) ↔
      EveryEvent property history ∧ property history event := by
  constructor
  · intro every
    refine ⟨fun before earlier after split => ?_, every history event [] rfl⟩
    exact every before earlier (after ++ [event]) (by simp [split])
  · rintro ⟨every, last⟩ before earlier after split
    rcases after.eq_nil_or_concat' with rfl | ⟨rest, final, rfl⟩
    · obtain ⟨rfl, same⟩ := List.append_inj' split rfl
      cases same
      exact last
    · rw [← List.cons_append, ← List.append_assoc] at split
      obtain ⟨same, -⟩ := List.append_inj' split rfl
      exact every before earlier rest same

/-- Events that are added one after the other stand in a relation to everything before them,
including those of them that come first. -/
def Continues (property : List (Event ν) → Event ν → Prop) (history : List (Event ν)) :
    List (Event ν) → Prop
  | [] => True
  | event :: events => property history event ∧ Continues property (history ++ [event]) events

/-- Several events may be added at once, each with those before it as its past. -/
theorem EveryEvent.append {property : List (Event ν) → Event ν → Prop}
    {history events : List (Event ν)} (every : EveryEvent property history)
    (continues : Continues property history events) : EveryEvent property (history ++ events) := by
  induction events generalizing history with
  | nil => rwa [List.append_nil]
  | cons event events ih =>
    rw [List.append_cons]
    exact ih (everyEvent_append_singleton.2 ⟨every, continues.1⟩) continues.2

end RecompilerAdapter
