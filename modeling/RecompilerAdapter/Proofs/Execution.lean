/-
Module: RecompilerAdapter.Proofs.Execution
Purpose: Reasoning about computations on the world. What a computation ensures is said of both of its
  ends: what it yields when it completes, and where it is left when it stops. The rules follow the way
  computations are put together, so that a proof can follow the program.
Trusted boundary: none
Main exports: Exec.finalWorld, Exec.completes, Exec.yields, Exec.Ensures
-/
import RecompilerAdapter.Adapter.World

namespace RecompilerAdapter

variable {σ ν α β : Type}

namespace World

/-- All events so far, the oldest first. Everything that is said about the course of a session is
said about this list; how the world keeps it does not matter. -/
def history (world : World σ ν) : List (Event ν) :=
  world.trace.toList

/-- The world after one more event. -/
def record (world : World σ ν) (event : Event ν) : World σ ν :=
  { world with trace := world.trace.push event }

/-- The world after some more events. -/
def recordAll (world : World σ ν) (events : List (Event ν)) : World σ ν :=
  events.foldl record world

/-- The world with another wrapper behind a handle. Every change of a wrapper or of its engine is a
change of this form, so lemmas about it serve for all of them. -/
def place (world : World σ ν) (handle : Handle) (wrapper : Wrapper σ ν) : World σ ν :=
  { world with wrappers := world.wrappers.insert handle wrapper }

@[simp] theorem history_initial (own : σ) : (initial own : World σ ν).history = [] :=
  rfl

@[simp] theorem history_record (world : World σ ν) (event : Event ν) :
    (world.record event).history = world.history ++ [event] := by
  simp [history, record]

@[simp] theorem history_place (world : World σ ν) (handle : Handle) (wrapper : Wrapper σ ν) :
    (world.place handle wrapper).history = world.history :=
  rfl

@[simp] theorem wrappers_record (world : World σ ν) (event : Event ν) :
    (world.record event).wrappers = world.wrappers :=
  rfl

@[simp] theorem slots_record (world : World σ ν) (event : Event ν) :
    (world.record event).slots = world.slots :=
  rfl

@[simp] theorem built_record (world : World σ ν) (event : Event ν) :
    (world.record event).built = world.built :=
  rfl

@[simp] theorem slots_place (world : World σ ν) (handle : Handle) (wrapper : Wrapper σ ν) :
    (world.place handle wrapper).slots = world.slots :=
  rfl

@[simp] theorem built_place (world : World σ ν) (handle : Handle) (wrapper : Wrapper σ ν) :
    (world.place handle wrapper).built = world.built :=
  rfl

/-- A place has one wrapper, and nothing else moves when it is taken. -/
@[simp] theorem get?_place (world : World σ ν) (handle other : Handle) (wrapper : Wrapper σ ν) :
    (world.place handle wrapper).wrappers.get? other =
      if other = handle then some wrapper else world.wrappers.get? other := by
  simp [place]

/-- What is found after a wrapper was put in place is that wrapper, or it was there before under
another handle. Invariants about all wrappers are shown with this split. -/
theorem get?_place_eq_some {world : World σ ν} {handle other : Handle}
    {wrapper later : Wrapper σ ν}
    (found : (world.place handle wrapper).wrappers.get? other = some later) :
    other = handle ∧ later = wrapper ∨
      other ≠ handle ∧ world.wrappers.get? other = some later := by
  rw [get?_place] at found
  split at found
  · exact .inl ⟨‹_›, (Option.some.inj found).symm⟩
  · exact .inr ⟨‹_›, found⟩

@[simp] theorem recordAll_nil (world : World σ ν) : world.recordAll [] = world :=
  rfl

@[simp] theorem recordAll_cons (world : World σ ν) (event : Event ν) (events : List (Event ν)) :
    world.recordAll (event :: events) = (world.record event).recordAll events :=
  rfl

/-- Events may be recorded in two portions. -/
theorem recordAll_append (world : World σ ν) (first second : List (Event ν)) :
    world.recordAll (first ++ second) = (world.recordAll first).recordAll second := by
  simp [recordAll]

/-- Recording events extends the history by these events, in their order. Together with the lemmas
below it, this is all that recording does. -/
@[simp] theorem history_recordAll (world : World σ ν) (events : List (Event ν)) :
    (world.recordAll events).history = world.history ++ events := by
  induction events generalizing world with
  | nil => simp
  | cons event events ih => simp [ih]

@[simp] theorem wrappers_recordAll (world : World σ ν) (events : List (Event ν)) :
    (world.recordAll events).wrappers = world.wrappers := by
  induction events generalizing world with
  | nil => rfl
  | cons event events ih => simp [ih]

@[simp] theorem slots_recordAll (world : World σ ν) (events : List (Event ν)) :
    (world.recordAll events).slots = world.slots := by
  induction events generalizing world with
  | nil => rfl
  | cons event events ih => simp [ih]

@[simp] theorem built_recordAll (world : World σ ν) (events : List (Event ν)) :
    (world.recordAll events).built = world.built := by
  induction events generalizing world with
  | nil => rfl
  | cons event events ih => simp [ih]

@[simp] theorem shared_recordAll (world : World σ ν) (events : List (Event ν)) :
    (world.recordAll events).shared = world.shared := by
  induction events generalizing world with
  | nil => rfl
  | cons event events ih => exact ih (world.record event)

@[simp] theorem script_recordAll (world : World σ ν) (events : List (Event ν)) :
    (world.recordAll events).script = world.script := by
  induction events generalizing world with
  | nil => rfl
  | cons event events ih => exact ih (world.record event)

end World

namespace Exec

/-- The world in which a computation ends, whether it completes or stops. What has happened up to a
stop has happened, so statements about all events are about this world. -/
def finalWorld (computation : Exec σ ν α) (world : World σ ν) : World σ ν :=
  match computation world with
  | .ok _ after => after
  | .error _ after => after

/-- Whether a computation completes. -/
def completes (computation : Exec σ ν α) (world : World σ ν) : Bool :=
  match computation world with
  | .ok .. => true
  | .error .. => false

/-- A closed computation that was evaluated to a completion can be rewritten with its result.
Concrete runs are put together from such equations, so each of them is evaluated once. -/
theorem eq_of_completes {computation : Exec σ ν Unit} {world : World σ ν}
    (completed : computation.completes world) :
    computation world = .ok () (computation.finalWorld world) := by
  unfold completes at completed
  unfold finalWorld
  cases ends : computation world with
  | ok => rfl
  | error stop after =>
    rw [ends] at completed
    cases completed

/-- Whether a computation completes with an answer. This can be evaluated, which is how concrete
runs are shown to complete. -/
def yields [DecidableEq α] (computation : Exec σ ν α) (world : World σ ν) (answer : α) : Bool :=
  match computation world with
  | .ok result _ => decide (result = answer)
  | .error .. => false

/-- The same for a computation with an answer. Worlds cannot be compared, since callers keep
functions in them, but answers can. -/
theorem eq_of_yields [DecidableEq α] {computation : Exec σ ν α} {world : World σ ν} {answer : α}
    (yielded : computation.yields world answer) :
    computation world = .ok answer (computation.finalWorld world) := by
  unfold yields at yielded
  unfold finalWorld
  cases ends : computation world with
  | ok result =>
    rw [ends] at yielded
    rw [of_decide_eq_true yielded]
  | error stop after =>
    rw [ends] at yielded
    cases yielded

/-- Once a first part is known to complete, the rest goes on from where it has led. -/
theorem bind_of_ok {computation : Exec σ ν α} {next : α → Exec σ ν β} {world after : World σ ν}
    {answer : α} (completes : computation world = .ok answer after) :
    (computation >>= next) world = next answer after := by
  show EStateM.bind computation next world = _
  rw [EStateM.bind, completes]

/-- Once a first part is known to stop, the rest does not matter. -/
theorem bind_of_error {computation : Exec σ ν α} {next : α → Exec σ ν β} {world after : World σ ν}
    {stop : Stop} (stops : computation world = .error stop after) :
    (computation >>= next) world = .error stop after := by
  show EStateM.bind computation next world = _
  rw [EStateM.bind, stops]

/-- If two computations complete one after the other, each of them completes. -/
theorem of_bind_ok {computation : Exec σ ν α} {next : α → Exec σ ν β} {world after : World σ ν}
    {answer : β} (completes : (computation >>= next) world = .ok answer after) :
    ∃ first middle, computation world = .ok first middle ∧ next first middle = .ok answer after := by
  cases first : computation world with
  | ok answer middle =>
    rw [bind_of_ok first] at completes
    exact ⟨answer, middle, rfl, completes⟩
  | error stop middle =>
    rw [bind_of_error first] at completes
    cases completes

/-- What comes first may be replaced by something that ends in the same way, from this world or from
another one. -/
theorem bind_congr_first {computation other : Exec σ ν α} {next : α → Exec σ ν β}
    {world start : World σ ν} (same : computation world = other start) :
    (computation >>= next) world = (other >>= next) start := by
  show EStateM.bind computation next world = EStateM.bind other next start
  rw [EStateM.bind, EStateM.bind, same]

/-- What comes next may be replaced by something that does the same where the first part ends. -/
theorem bind_congr_rest {computation : Exec σ ν α} {next other : α → Exec σ ν β}
    {world after : World σ ν} {answer : α} (completes : computation world = .ok answer after)
    (same : next answer after = other answer after) :
    (computation >>= next) world = (computation >>= other) world := by
  rw [bind_of_ok completes, bind_of_ok completes, same]

/-- A handler does not notice what completes. -/
theorem tryCatch_of_ok {computation : Exec σ ν α} {handler : Stop → Exec σ ν α}
    {world after : World σ ν} {answer : α} (completes : computation world = .ok answer after) :
    tryCatch computation handler world = .ok answer after := by
  show EStateM.tryCatch computation handler world = _
  delta EStateM.tryCatch
  rw [completes]

/-- A handler goes on from where the computation was left: nothing that happened before the stop is
undone. -/
theorem tryCatch_of_error {computation : Exec σ ν α} {handler : Stop → Exec σ ν α}
    {world after : World σ ν} {stop : Stop} (stops : computation world = .error stop after) :
    tryCatch computation handler world = handler stop after := by
  show EStateM.tryCatch computation handler world = _
  delta EStateM.tryCatch
  rw [stops]
  rfl

/-- Recording an event always completes. -/
theorem emit_apply (event : Event ν) (world : World σ ν) :
    emit event world = .ok () (world.record event) :=
  rfl

/-- A handle leads to the wrapper that is behind it. -/
theorem wrapper_of_present {world : World σ ν} {handle : Handle} {found : Wrapper σ ν}
    (present : world.wrappers.get? handle = some found) :
    wrapper handle world = .ok found world := by
  have looked : (get : Exec σ ν (World σ ν)) world = .ok world world := rfl
  rw [wrapper, bind_of_ok looked, present]
  rfl

/-- A handle that leads nowhere stops the computation; the program itself could do anything there,
and no statement depends on what. -/
theorem wrapper_of_absent {world : World σ ν} {handle : Handle}
    (absent : world.wrappers.get? handle = none) :
    wrapper handle world = .error (.danglingHandle handle) world := by
  have looked : (get : Exec σ ν (World σ ν)) world = .ok world world := rfl
  rw [wrapper, bind_of_ok looked, absent]
  rfl

/-- The handle in a bound slot can be fetched. -/
theorem boundHandle_of_bound {world : World σ ν} {slot : HandleSlot} {handle : Handle}
    (bound : world.slots.get? slot = some handle) : boundHandle slot world = .ok handle world := by
  have looked : (get : Exec σ ν (World σ ν)) world = .ok world world := rfl
  rw [boundHandle, bind_of_ok looked, bound]
  rfl

/-- To fetch the handle of an unbound slot is one of the fatal conditions. -/
theorem boundHandle_of_unbound {world : World σ ν} {slot : HandleSlot}
    (unbound : world.slots.get? slot = none) :
    boundHandle slot world = .error (.fatal .unboundHandle) world := by
  have looked : (get : Exec σ ν (World σ ν)) world = .ok world world := rfl
  rw [boundHandle, bind_of_ok looked, unbound]
  rfl

/-- A handle leads to the engine of the wrapper that is behind it. -/
theorem engine_of_present {world : World σ ν} {handle : Handle} {found : Wrapper σ ν}
    (present : world.wrappers.get? handle = some found) :
    engine handle world = .ok found.engine world := by
  rw [engine, bind_of_ok (wrapper_of_present present)]
  rfl

/-- There is no engine behind a handle that leads nowhere. -/
theorem engine_of_absent {world : World σ ν} {handle : Handle}
    (absent : world.wrappers.get? handle = none) :
    engine handle world = .error (.danglingHandle handle) world := by
  rw [engine, bind_of_error (wrapper_of_absent absent)]

/-- Changing the wrapper behind a handle replaces it and nothing else. -/
theorem modifyWrapper_of_present {world : World σ ν} {handle : Handle} {found : Wrapper σ ν}
    (present : world.wrappers.get? handle = some found) (update : Wrapper σ ν → Wrapper σ ν) :
    modifyWrapper handle update world = .ok () (world.place handle (update found)) := by
  rw [modifyWrapper, bind_of_ok (wrapper_of_present present)]
  rfl

/-- Changing the engine behind a handle leaves the rest of its wrapper as it is. -/
theorem modifyEngine_of_present {world : World σ ν} {handle : Handle} {found : Wrapper σ ν}
    (present : world.wrappers.get? handle = some found) (update : Engine σ ν → Engine σ ν) :
    modifyEngine handle update world =
      .ok () (world.place handle { found with engine := update found.engine }) :=
  modifyWrapper_of_present present _

/-- No engine can be changed behind a handle that leads nowhere. -/
theorem modifyEngine_of_absent {world : World σ ν} {handle : Handle}
    (absent : world.wrappers.get? handle = none) (update : Engine σ ν → Engine σ ν) :
    modifyEngine handle update world = .error (.danglingHandle handle) world := by
  rw [modifyEngine, modifyWrapper, bind_of_error (wrapper_of_absent absent)]

/-- From `world`, a computation completes as `completed` says, or stops as `stopped` says. With
`False` for the second one it says that the computation does complete; nothing is ever assumed about
how it ends. -/
def Ensures (computation : Exec σ ν α) (world : World σ ν) (completed : α → World σ ν → Prop)
    (stopped : Stop → World σ ν → Prop) : Prop :=
  match computation world with
  | .ok answer after => completed answer after
  | .error stop after => stopped stop after

namespace Ensures

variable {world : World σ ν} {completed weaker : α → World σ ν → Prop}
  {further : β → World σ ν → Prop} {stopped weakerStop : Stop → World σ ν → Prop}

/-- A computation that answers at once ends where it began. -/
theorem pure {answer : α} (holds : completed answer world) :
    Ensures (Pure.pure answer) world completed stopped :=
  holds

/-- Every computation ends somehow. -/
theorem any {computation : Exec σ ν α} :
    Ensures computation world (fun _ _ => True) fun _ _ => True := by
  unfold Ensures
  split <;> trivial

/-- A computation that stops at once is left where it began. -/
theorem throw {stop : Stop} (holds : stopped stop world) :
    Ensures (MonadExcept.throw stop : Exec σ ν α) world completed stopped :=
  holds

/-- What is ensured may be weakened at both ends. -/
theorem mono {computation : Exec σ ν α} (ensures : Ensures computation world completed stopped)
    (onCompleted : ∀ answer after, completed answer after → weaker answer after)
    (onStopped : ∀ stop after, stopped stop after → weakerStop stop after) :
    Ensures computation world weaker weakerStop := by
  unfold Ensures at ensures ⊢
  cases h : computation world with
  | ok answer after =>
    rw [h] at ensures
    exact onCompleted answer after ensures
  | error stop after =>
    rw [h] at ensures
    exact onStopped stop after ensures

/-- Computations one after the other: what the first one ensures when it completes is what the
second one starts from, and either may stop. -/
theorem bind {computation : Exec σ ν α} {next : α → Exec σ ν β}
    (first : Ensures computation world completed stopped)
    (rest : ∀ answer after, completed answer after →
      Ensures (next answer) after further stopped) :
    Ensures (computation >>= next) world further stopped := by
  unfold Ensures at first
  show match EStateM.bind computation next world with
    | .ok answer after => further answer after
    | .error stop after => stopped stop after
  unfold EStateM.bind
  cases h : computation world with
  | ok answer after =>
    rw [h] at first
    exact rest answer after first
  | error stop after =>
    rw [h] at first
    exact first

/-- The rule for a first part that is known to complete. -/
theorem after {computation : Exec σ ν α} {next : α → Exec σ ν β} {middle : World σ ν} {answer : α}
    (completes : computation world = .ok answer middle)
    (rest : Ensures (next answer) middle further stopped) :
    Ensures (computation >>= next) world further stopped := by
  unfold Ensures
  rw [bind_of_ok completes]
  exact rest

/-- What is ensured by two arguments is ensured by both together. -/
theorem and {computation : Exec σ ν α} {also : α → World σ ν → Prop}
    {alsoStopped : Stop → World σ ν → Prop} (first : Ensures computation world completed stopped)
    (second : Ensures computation world also alsoStopped) :
    Ensures computation world (fun answer after => completed answer after ∧ also answer after)
      fun stop after => stopped stop after ∧ alsoStopped stop after := by
  unfold Ensures at first second ⊢
  cases h : computation world with
  | ok answer after =>
    rw [h] at first second
    exact ⟨first, second⟩
  | error stop after =>
    rw [h] at first second
    exact ⟨first, second⟩

/-- The end at which a computation completes may be remembered. -/
theorem remember {computation : Exec σ ν α}
    (ensures : Ensures computation world completed stopped) :
    Ensures computation world
      (fun answer after => computation world = .ok answer after ∧ completed answer after) stopped := by
  unfold Ensures at ensures ⊢
  cases h : computation world with
  | ok answer after =>
    rw [h] at ensures
    exact ⟨rfl, ensures⟩
  | error stop after =>
    rw [h] at ensures
    exact ensures

/-- An answer that is passed on in another form ends the computation in the same world. -/
theorem map {computation : Exec σ ν α} {image : α → β}
    (ensures : Ensures computation world (fun answer after => further (image answer) after)
      stopped) :
    Ensures (image <$> computation) world further stopped := by
  unfold Ensures at ensures
  show match EStateM.map image computation world with
    | .ok answer after => further answer after
    | .error stop after => stopped stop after
  unfold EStateM.map
  cases h : computation world with
  | ok answer after =>
    rw [h] at ensures
    exact ensures
  | error stop after =>
    rw [h] at ensures
    exact ensures

/-- What is ensured holds of a completion that is known from elsewhere. -/
theorem of_completed {computation : Exec σ ν α} {answer : α} {after : World σ ν}
    (ensures : Ensures computation world completed stopped)
    (completes : computation world = .ok answer after) : completed answer after := by
  unfold Ensures at ensures
  rwa [completes] at ensures

/-- What is ensured holds of a stop that is known from elsewhere. -/
theorem of_stopped {computation : Exec σ ν α} {stop : Stop} {after : World σ ν}
    (ensures : Ensures computation world completed stopped)
    (stops : computation world = .error stop after) : stopped stop after := by
  unfold Ensures at ensures
  rwa [stops] at ensures

/-- What holds at either end holds in the world in which a computation ends. -/
theorem finalWorld {computation : Exec σ ν α} {property : World σ ν → Prop}
    (ensures : Ensures computation world (fun _ => property) fun _ => property) :
    property (computation.finalWorld world) := by
  unfold Ensures at ensures
  unfold Exec.finalWorld
  cases ends : computation world with
  | ok answer after =>
    rw [ends] at ensures
    exact ensures
  | error stop after =>
    rw [ends] at ensures
    exact ensures

/-- A computation that cannot stop completes. -/
theorem completes {computation : Exec σ ν α}
    (ensures : Ensures computation world completed fun _ _ => False) :
    ∃ answer after, computation world = .ok answer after ∧ completed answer after := by
  unfold Ensures at ensures
  cases h : computation world with
  | ok answer after =>
    rw [h] at ensures
    exact ⟨answer, after, rfl, ensures⟩
  | error stop after =>
    rw [h] at ensures
    exact ensures.elim

end Ensures

/-! ### The primitive computations -/

namespace Ensures

variable {world : World σ ν} {further : β → World σ ν → Prop}
  {stopped : Stop → World σ ν → Prop}

/-- After an event has been recorded. -/
theorem emit_bind {next : Unit → Exec σ ν β} {event : Event ν}
    (rest : (next ()).Ensures (world.record event) further stopped) :
    (emit event >>= next).Ensures world further stopped :=
  rest

/-- After a look at the world. -/
theorem get_bind {next : World σ ν → Exec σ ν β}
    (rest : (next world).Ensures world further stopped) :
    (get >>= next).Ensures world further stopped :=
  rest

/-- After a change of the world. -/
theorem modify_bind {next : Unit → Exec σ ν β} {update : World σ ν → World σ ν}
    (rest : (next ()).Ensures (update world) further stopped) :
    ((modify update : Exec σ ν Unit) >>= next).Ensures world further stopped :=
  rest

/-- After a change of the world that yields something. -/
theorem modifyGet_bind {next : α → Exec σ ν β} {change : World σ ν → α × World σ ν}
    (rest : (next (change world).1).Ensures (change world).2 further stopped) :
    ((modifyGet change : Exec σ ν α) >>= next).Ensures world further stopped :=
  rest

/-- After a look at a wrapper. That the handle may lead nowhere is a case of its own in all of the
following rules. -/
theorem wrapper_bind {next : Wrapper σ ν → Exec σ ν β} {handle : Handle}
    (present : ∀ found, world.wrappers.get? handle = some found →
      (next found).Ensures world further stopped)
    (absent : world.wrappers.get? handle = none → stopped (.danglingHandle handle) world) :
    (wrapper handle >>= next).Ensures world further stopped := by
  have lookup : (wrapper handle).Ensures world (fun found after =>
      world.wrappers.get? handle = some found ∧ after = world) stopped := by
    apply get_bind
    split
    · exact .pure ⟨‹_›, rfl⟩
    · exact .throw (absent ‹_›)
  refine .bind lookup ?_
  rintro found _ ⟨isFound, rfl⟩
  exact present found isFound

/-- After a look at an engine. -/
theorem engine_bind {next : Engine σ ν → Exec σ ν β} {handle : Handle}
    (present : ∀ found, world.wrappers.get? handle = some found →
      (next found.engine).Ensures world further stopped)
    (absent : world.wrappers.get? handle = none → stopped (.danglingHandle handle) world) :
    (engine handle >>= next).Ensures world further stopped := by
  unfold engine
  rw [bind_assoc]
  exact wrapper_bind present absent

/-- After a change of a wrapper. -/
theorem modifyWrapper_bind {next : Unit → Exec σ ν β} {handle : Handle}
    {update : Wrapper σ ν → Wrapper σ ν}
    (present : ∀ found, world.wrappers.get? handle = some found →
      (next ()).Ensures (world.place handle (update found)) further stopped)
    (absent : world.wrappers.get? handle = none → stopped (.danglingHandle handle) world) :
    (modifyWrapper handle update >>= next).Ensures world further stopped := by
  unfold modifyWrapper
  rw [bind_assoc]
  exact wrapper_bind (fun found isFound => modify_bind (present found isFound)) absent

/-- After a change of an engine. -/
theorem modifyEngine_bind {next : Unit → Exec σ ν β} {handle : Handle}
    {update : Engine σ ν → Engine σ ν}
    (present : ∀ found, world.wrappers.get? handle = some found →
      (next ()).Ensures (world.place handle { found with engine := update found.engine })
        further stopped)
    (absent : world.wrappers.get? handle = none → stopped (.danglingHandle handle) world) :
    (modifyEngine handle update >>= next).Ensures world further stopped :=
  modifyWrapper_bind present absent

/-- After the handle of a slot was fetched, or the slot turned out to be unbound. -/
theorem boundHandle_bind {next : Handle → Exec σ ν β} {slot : HandleSlot}
    (bound : ∀ handle, world.slots.get? slot = some handle →
      (next handle).Ensures world further stopped)
    (unbound : world.slots.get? slot = none → stopped (.fatal .unboundHandle) world) :
    (boundHandle slot >>= next).Ensures world further stopped := by
  unfold boundHandle
  rw [bind_assoc]
  apply get_bind
  split
  · exact bound _ ‹_›
  · exact unbound ‹_›

end Ensures

end Exec

end RecompilerAdapter
