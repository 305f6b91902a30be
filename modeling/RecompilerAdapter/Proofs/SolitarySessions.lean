/-
Module: RecompilerAdapter.Proofs.SolitarySessions
Purpose: Sessions without the others. From the chronicle of a session all commands are left out that are
  about other wrappers, and from the code of the caller all that it does to them. What is left is the
  chronicle of a session of its own, in which the wrapper is the only one.
Trusted boundary: none
Main exports: BuildStage, Command.Foreign, Entry.Kept, Reduces, Unbuilt, Reduces.chronicle
-/
import RecompilerAdapter.Proofs.Chronicles
import RecompilerAdapter.Proofs.SolitaryBuilders

namespace RecompilerAdapter

variable {σ ν ω ρ : Type}

/-! ### What is left of a session -/

/-- How far the building of a wrapper has got in a session. Before that, the builder's number
decides which commands are about the wrapper; afterwards its handle does. -/
inductive BuildStage where
  /-- It is not built yet, and its builder may be open. -/
  | ahead (builder : Option Nat)
  | built

namespace BuildStage

/-- The number of the wrapper's builder, while it is open. -/
def builder : BuildStage → Option Nat
  | ahead builder => builder
  | built => none

end BuildStage

namespace Command

/-- The number of the builder that a command is about. -/
def builder? : Command σ ν ρ → Option Nat
  | openBuilder number _ _ => some number
  | usePageTable number _ => some number
  | useOptions number _ => some number
  | installCoprocessor number _ _ => some number
  | installCoprocessors number _ => some number
  | dropBuilder number => some number
  | build number _ => some number
  | _ => none

/-- The command is about other wrappers with stepping engines. What it brings along leaves the
wrapper alone, and code of the caller does nothing to it. -/
inductive Foreign (own : Belongings σ ν ω) : Command σ ν ρ → Prop where
  | openBuilder {number : Nat} {userData : UserData} {callbacks : CallbackTable σ ν}
      (avoids : callbacks.Avoids own) : Foreign own (.openBuilder number userData callbacks)
  | usePageTable {number : Nat} {pageTable : Option (PageTable σ)} :
      Foreign own (.usePageTable number pageTable)
  | useOptions {number : Nat} {options : Options} : Foreign own (.useOptions number options)
  | installCoprocessor {number slot : Nat} {table : CoprocessorTable σ ν} (avoids : table.Avoids own) :
      Foreign own (.installCoprocessor number slot table)
  | installCoprocessors {number : Nat} {tables : CoprocessorTables σ ν}
      (avoid : ∀ table, some table ∈ tables → table.Avoids own) :
      Foreign own (.installCoprocessors number tables)
  | dropBuilder {number : Nat} : Foreign own (.dropBuilder number)
  | build {number : Nat} : Foreign own (.build number .stepping)
  | construct {userData : UserData} {callbacks : CallbackTable σ ν} {pageTable : Option (PageTable σ)}
      {coprocessors : Option (Vector (WireOption (CoprocessorTable σ ν)) coprocessorCount)}
      (avoids : (foreignBuilder userData callbacks pageTable coprocessors).Avoids own) :
      Foreign own (.construct userData callbacks pageTable coprocessors .stepping)
  | delete {handle : Handle} (different : handle ≠ own.handle) : Foreign own (.delete handle)
  | call {body : Activity σ ν ρ} (alone : body.Alone own (fun _ _ => True) (.finish ())) :
      Foreign own (.call body)

end Command

/-- An entry tells that no new wrapper gets the wrapper's place. Handles and slots are not used
twice, but this is not assumed here: it is read off the events. -/
def Entry.Spares (own : Belongings σ ν ω) (entry : Entry σ ν ρ) : Prop :=
  ∀ slot handle data, .attached slot handle data ∈ entry.events → slot ≠ own.slot ∧ handle ≠ own.handle

/-- An entry that is about the wrapper, and what is left of it where the wrapper is alone, with the
stages before and after it. Opening its builder releases nothing of its own. -/
inductive Entry.Kept (own : Belongings σ ν ω) :
    BuildStage → Entry σ ν ρ → Entry σ ν ρ → BuildStage → Prop where
  | openBuilder {number : Nat} {userData : UserData} {callbacks other : CallbackTable σ ν}
      {events : List (Event ν)} (alone : callbacks.Alone own other) :
      Kept own (.ahead none) ⟨.openBuilder number userData callbacks, .done, events⟩
        ⟨.openBuilder number userData other, .done, []⟩ (.ahead (some number))
  | usePageTable {number : Nat} {pages other : Option (PageTable σ)} {events : List (Event ν)}
      (alone : PageTable.Alone own pages other) :
      Kept own (.ahead (some number)) ⟨.usePageTable number pages, .done, events⟩
        ⟨.usePageTable number other, .done, events.map .rehome⟩ (.ahead (some number))
  | useOptions {number : Nat} {options : Options} {events : List (Event ν)} :
      Kept own (.ahead (some number)) ⟨.useOptions number options, .done, events⟩
        ⟨.useOptions number options, .done, events.map .rehome⟩ (.ahead (some number))
  | installCoprocessor {number slot : Nat} {table other : CoprocessorTable σ ν}
      {events : List (Event ν)} (alone : table.Alone own other) :
      Kept own (.ahead (some number)) ⟨.installCoprocessor number slot table, .done, events⟩
        ⟨.installCoprocessor number slot other, .done, events.map .rehome⟩
        (.ahead (some number))
  | installCoprocessors {number : Nat} {tables others : CoprocessorTables σ ν}
      {events : List (Event ν)} (alone : CoprocessorTables.Alone own tables others) :
      Kept own (.ahead (some number)) ⟨.installCoprocessors number tables, .done, events⟩
        ⟨.installCoprocessors number others, .done, events.map .rehome⟩ (.ahead (some number))
  | build {number : Nat} {events : List (Event ν)} {data : UserData}
      (attached : .attached own.slot own.handle data ∈ events) :
      Kept own (.ahead (some number)) ⟨.build number .stepping, .built own.handle, events⟩
        ⟨.build number .stepping, .built .first, events.map .rehome⟩ .built
  | construct {userData : UserData} {callbacks other : CallbackTable σ ν}
      {pages pagesToo : Option (PageTable σ)}
      {coprocessors others : Option (Vector (WireOption (CoprocessorTable σ ν)) coprocessorCount)}
      {events : List (Event ν)} (attached : .attached own.slot own.handle userData ∈ events)
      (callbacksAlone : callbacks.Alone own other) (pagesAlone : PageTable.Alone own pages pagesToo)
      (alone : CoprocessorTables.Alone own (Command.arrayTables coprocessors)
        (Command.arrayTables others)) :
      Kept own (.ahead none)
        ⟨.construct userData callbacks pages coprocessors .stepping, .built own.handle, events⟩
        ⟨.construct userData other pagesToo others .stepping, .built .first, events.map .rehome⟩ .built
  | delete {events : List (Event ν)} :
      Kept own .built ⟨.delete own.handle, .done, events⟩
        ⟨.delete .first, .done, events.map .rehome⟩ .built
  | call {stage : BuildStage} {body copy : Activity σ ν ρ} {answer : ρ} {share : ρ → ρ}
      {events : List (Event ν)} (alone : body.Alone own (fun answer other => share answer = other) copy) :
      Kept own stage ⟨.call body, .answered answer, events⟩
        ⟨.call copy, .answered (share answer), (own.told false events).map .rehome⟩ stage

/-- Entries, and what is left of them where the wrapper is alone. Its own entries are kept with its
handle exchanged; all others are left out, whatever wrappers they build, run or delete. -/
inductive Reduces (own : Belongings σ ν ω) :
    BuildStage → List (Entry σ ν ρ) → List (Entry σ ν ρ) → Prop where
  | nil : Reduces own .built [] []
  | keep {stage later : BuildStage} {entry other : Entry σ ν ρ} {entries others : List (Entry σ ν ρ)}
      (kept : Entry.Kept own stage entry other later) (rest : Reduces own later entries others) :
      Reduces own stage (entry :: entries) (other :: others)
  | leave {stage : BuildStage} {entry : Entry σ ν ρ} {entries others : List (Entry σ ν ρ)}
      (foreign : entry.command.Foreign own) (spares : entry.Spares own)
      (apart : ∀ number, stage.builder = some number → entry.command.builder? ≠ some number)
      (rest : Reduces own stage entries others) : Reduces own stage (entry :: entries) others

/-! ### The worlds between commands -/

/-- Where the wrapper is alone, nothing has been built. The next wrapper there gets the first slot
and the first handle. -/
structure Unbuilt (other : World σ ν) : Prop where
  slots : other.slots = .empty
  built : other.built = 0

/-- What a stage says of builders, and of the world in which the wrapper is alone. -/
inductive BuildStage.Stands (own : Belongings σ ν ω) (builders others : Builders σ ν)
    (other : World σ ν) : BuildStage → Prop where
  | unopened (unbuilt : Unbuilt other) (unused : ∀ number, others.get? number = none) :
      Stands own builders others other (.ahead none)
  | opened {number : Nat} {builder copy : Builder σ ν} (unbuilt : Unbuilt other)
      (present : builders.get? number = some builder) (presentToo : others.get? number = some copy)
      (alone : builder.Alone own copy) : Stands own builders others other (.ahead (some number))
  | built : Stands own builders others other .built

/-- At a stage of a session, all that belongs to the wrapper is the same where it is alone, and all
other builders leave it alone. -/
structure BuildStage.Reached (own : Belongings σ ν ω) (stage : BuildStage) (builders : Builders σ ν)
    (world : World σ ν) (others : Builders σ ν) (other : World σ ν) : Prop
    extends world.Alone own other where
  foreign : ∀ number builder, stage.builder ≠ some number → builders.get? number = some builder →
    builder.Avoids own
  stands : stage.Stands own builders others other

/-! ### Building in a session -/

namespace Command

variable {performer : Performer σ ν} {builders : Builders σ ν} {world : World σ ν}

theorem completes_of_plain {command : Command σ ν ρ} {outcome : Outcome ρ}
    {remaining : Builders σ ν} {after : World σ ν}
    (completes : command.exec performer builders world = .ok (outcome, remaining) after)
    (plain : command.Plain) : command.Completes builders world outcome remaining after :=
  (plain_ensures builders plain).of_completed completes

/-- How a wrapper with a stepping engine is built. -/
theorem build_stepping_ensures (performer : Performer σ ν) (builders : Builders σ ν) (world : World σ ν)
    (number : Nat) :
    ((Command.build number .stepping : Command σ ν ρ).exec performer builders).Ensures world
      (fun result after => ∃ builder, builders.get? number = some builder ∧
        result.2 = builders.erase number ∧
        (builder.options.alwaysLittleEndian = true ∧ result.1 = .built ⟨world.built + 1⟩ ∧
            after = world.stepping builder ∨
          (∃ error, result.1 = .refused error) ∧ after = world.refusing builder))
      fun _ _ => True := by
  rw [exec]
  cases present : builders.get? number with
  | none =>
    rw [find, present]
    trivial
  | some builder =>
    refine Exec.Ensures.after (find_of_present present world)
      (Exec.Ensures.bind ((builder.build_stepping performer world).mono (fun _ _ => id)
        fun _ _ => False.elim) ?_)
    rintro _ _ (⟨littleEndian, rfl, rfl⟩ | ⟨-, ⟨error, rfl⟩, rfl⟩)
    · exact ⟨builder, rfl, rfl, .inl ⟨littleEndian, rfl, rfl⟩⟩
    · exact ⟨builder, rfl, rfl, .inr ⟨⟨_, rfl⟩, rfl⟩⟩

theorem build_exec {number : Nat} {builder : Builder σ ν}
    (present : builders.get? number = some builder)
    (littleEndian : builder.options.alwaysLittleEndian = true) :
    (Command.build number .stepping : Command σ ν ρ).exec performer builders world =
      .ok (.built ⟨world.built + 1⟩, builders.erase number) (world.stepping builder) := by
  obtain ⟨result, after, ends, ensured⟩ := (builder.build_stepping performer world).completes
  rcases ensured with ⟨-, rfl, rfl⟩ | ⟨bigEndian, -, -⟩
  · rw [exec, Exec.bind_of_ok (find_of_present present world), Exec.bind_of_ok ends]
    rfl
  · rw [littleEndian] at bigEndian
    cases bigEndian

/-- A foreign constructor with a stepping engine always succeeds. -/
theorem construct_exec (userData : UserData) (callbacks : CallbackTable σ ν)
    (pageTable : Option (PageTable σ))
    (coprocessors : Option (Vector (WireOption (CoprocessorTable σ ν)) coprocessorCount)) :
    (Command.construct userData callbacks pageTable coprocessors .stepping : Command σ ν ρ).exec
        performer builders world =
      .ok (.built ⟨world.built + 1⟩, builders)
        (world.stepping (foreignBuilder userData callbacks pageTable coprocessors)) := by
  obtain ⟨result, after, ends, ensured⟩ :=
    ((foreignBuilder userData callbacks pageTable coprocessors).build_stepping performer world).completes
  rcases ensured with ⟨-, rfl, rfl⟩ | ⟨bigEndian, -, -⟩
  · rw [exec, construct_eq, bind_assoc, Exec.bind_of_ok ends]
    rfl
  · cases bigEndian

end Command

/-! ### Commands about others -/

section

variable {own : Belongings σ ν ω} {stage : BuildStage} {builders others between : Builders σ ν}
  {world other after : World σ ν}

namespace Unbuilt

variable (unbuilt : Unbuilt other)

include unbuilt

/-- Where the wrapper is alone, its handle is the first one. -/
theorem handle : ⟨other.built + 1⟩ = Handle.first := by
  rw [unbuilt.built]
  rfl

/-- Where the wrapper is alone, its slot is the first one. -/
theorem slot : other.slots.allocate.1 = .first := by
  rw [unbuilt.slots]
  rfl

end Unbuilt

theorem Shadows.unbuilt {start origin : World σ ν} {present : Bool}
    (shadows : Shadows own start origin present world other) (unbuilt : Unbuilt origin) :
    Unbuilt other where
  slots := shadows.slots.trans unbuilt.slots
  built := shadows.built.trans unbuilt.built

namespace BuildStage

/-- A stage does not depend on builders of others. -/
theorem Stands.of_builders (stands : stage.Stands own builders others other)
    (same : ∀ number, stage.builder = some number → between.get? number = builders.get? number) :
    stage.Stands own between others other := by
  cases stands with
  | unopened unbuilt unused => exact .unopened unbuilt unused
  | opened unbuilt present presentToo alone =>
    exact .opened unbuilt ((same _ rfl).trans present) presentToo alone
  | built => exact .built

/-- A stage is as before after code of the caller. -/
theorem Stands.of_shadows {start origin : World σ ν} {present : Bool}
    (stands : stage.Stands own builders others origin)
    (shadows : Shadows own start origin present world other) :
    stage.Stands own builders others other := by
  cases stands with
  | unopened unbuilt unused => exact .unopened (shadows.unbuilt unbuilt) unused
  | opened unbuilt present presentToo alone =>
    exact .opened (shadows.unbuilt unbuilt) present presentToo alone
  | built => exact .built

namespace Reached

variable (reached : stage.Reached own builders world others other)

include reached

/-- What is done to others is nothing to the wrapper. -/
theorem pass (counted : own.actions = true) (passed : Passed own world after) :
    stage.Reached own builders after others other :=
  { reached with toAlone := reached.toAlone.pass counted passed }

theorem insert {number : Nat} (apart : stage.builder ≠ some number) {builder : Builder σ ν}
    (avoids : builder.Avoids own) :
    stage.Reached own (builders.insert number builder) world others other where
  toAlone := reached.toAlone
  foreign any found different isFound := by
    rw [Registry.get?_insert] at isFound
    split at isFound
    · cases isFound
      exact avoids
    · exact reached.foreign any found different isFound
  stands := reached.stands.of_builders fun any isOpen => by
    rw [Registry.get?_insert, if_neg]
    rintro rfl
    exact apart isOpen

theorem erase {number : Nat} (apart : stage.builder ≠ some number) :
    stage.Reached own (builders.erase number) world others other where
  toAlone := reached.toAlone
  foreign any found different isFound := by
    rw [Registry.get?_erase] at isFound
    split at isFound
    · cases isFound
    · exact reached.foreign any found different isFound
  stands := reached.stands.of_builders fun any isOpen => by
    rw [Registry.get?_erase, if_neg]
    rintro rfl
    exact apart isOpen

end Reached

end BuildStage

end

/-- What building a wrapper tells of its place. -/
theorem World.attached_stepping {world : World σ ν} {builder : Builder σ ν} {events : List (Event ν)}
    (told : (world.stepping builder).history = world.history ++ events) {slot : HandleSlot}
    {handle : Handle} {data : UserData} : .attached slot handle data ∈ events ↔
      slot = world.slots.allocate.1 ∧ handle = ⟨world.built + 1⟩ ∧ data = builder.userData := by
  rw [history_stepping] at told
  rw [← List.append_cancel_left told]
  simp

/-- If an entry spares the wrapper, what is built meanwhile has another place. -/
theorem Entry.Spares.stepping {own : Belongings σ ν ω} {entry : Entry σ ν ρ} (spares : entry.Spares own)
    {world : World σ ν} {builder : Builder σ ν}
    (told : (world.stepping builder).history = world.history ++ entry.events) :
    world.slots.allocate.1 ≠ own.slot ∧ ⟨world.built + 1⟩ ≠ own.handle := by
  exact spares _ _ _ ((World.attached_stepping told).2 ⟨rfl, rfl, rfl⟩)

section

variable {own : Belongings σ ν ω} {arrangements : Arrangements σ ν} (counted : own.actions = true)
  (avoid : arrangements.Avoid own) {stage : BuildStage} {builders others between : Builders σ ν}
  {world other after : World σ ν} {bound : Nat}
  (reached : stage.Reached own builders world others other)

include counted avoid reached

/-- Code of the caller runs where the wrapper is alone as it does among others. -/
theorem BuildStage.Reached.call {α β : Type} {agree : α → β → Prop} {body : Activity σ ν α}
    {copy : Activity σ ν β} (alone : body.Alone own agree copy) {answer : α}
    (ends : body.exec (attending arrangements own.handle own.slot bound) world = .ok answer after) :
    ∃ answerToo final, copy.exec (performPresent bound) other = .ok answerToo final ∧
      agree answer answerToo ∧
      Shadows own world other (world.wrappers.get? own.handle).isSome after final ∧
      stage.Reached own builders after others final := by
  have shadowed := attending_shadowed counted avoid world other
    (world.wrappers.get? own.handle).isSome bound
  obtain ⟨answerToo, final, ended, agrees, shadows⟩ :=
    (Activity.exec_shadowed shadowed alone).completes (.refl reached.toAlone) ends
  exact ⟨answerToo, final, ended, agrees, shadows, shadows.toAlone, reached.foreign,
    reached.stands.of_shadows shadows⟩

/-- An entry that is about others leaves the wrapper alone. On the other side nothing happens, so
only what is related has to stay related. -/
theorem Command.Foreign.stays {entry : Entry σ ν ρ} (foreign : entry.command.Foreign own)
    (spares : entry.Spares own)
    (apart : ∀ number, stage.builder = some number → entry.command.builder? ≠ some number)
    (completes : entry.command.exec (attending arrangements own.handle own.slot bound) builders world =
      .ok (entry.outcome, between) after) (told : after.history = world.history ++ entry.events) :
    stage.Reached own between after others other := by
  obtain ⟨command, outcome, events⟩ := entry
  have closed {number : Nat} (isAbout : command.builder? = some number) :
      stage.builder ≠ some number := fun isOpen => apart number isOpen isAbout
  have avoided {number : Nat} (isAbout : command.builder? = some number) {builder : Builder σ ν}
      (present : builders.get? number = some builder) : builder.Avoids own :=
    reached.foreign number builder (closed isAbout) present
  have passed : Passed own world world := .refl reached.beside
  -- What is left is a world that has passed the wrapper by, with builders of others changed.
  have moves {after : World σ ν} (passed : Passed own world after) :
      stage.Reached own builders after others other := reached.pass counted passed
  cases foreign with
  | openBuilder avoids =>
    cases Command.completes_of_plain completes trivial
    exact (moves (passed.recordAll (Command.opening_plain _))).insert (closed rfl) (.new _ avoids)
  | usePageTable =>
    cases Command.completes_of_plain completes trivial with
    | usePageTable present => exact reached.insert (closed rfl) { avoided rfl present with }
  | useOptions =>
    cases Command.completes_of_plain completes trivial with
    | useOptions present => exact reached.insert (closed rfl) { avoided rfl present with }
  | installCoprocessor avoids =>
    cases Command.completes_of_plain completes trivial with
    | install present inRange =>
      exact (moves (passed.recordAll (CoprocessorTable.replaces_plain _ _))).insert (closed rfl)
        ((avoided rfl present).install inRange avoids)
    | @reject _ _ _ builder =>
      exact (moves (passed.recordAll (Command.rejecting_plain _ builder))).erase (closed rfl)
  | installCoprocessors avoid =>
    cases Command.completes_of_plain completes trivial with
    | @installAll _ _ builder present =>
      exact (moves (passed.recordAll builder.releases_plain)).insert (closed rfl)
        { avoided rfl present with coprocessors := avoid }
  | dropBuilder =>
    cases Command.completes_of_plain completes trivial with
    | @dropBuilder _ builder =>
      exact (moves (passed.recordAll builder.releases_plain)).erase (closed rfl)
  | delete different =>
    cases Command.completes_of_plain completes trivial with
    | @delete _ wrapper =>
      exact moves ((passed.recordAll (Command.deleting_plain wrapper)).remove different)
  | build =>
    obtain ⟨builder, present, isErased, built | refused⟩ :=
      (Command.build_stepping_ensures _ _ _ _).of_completed completes
    · obtain ⟨-, -, rfl⟩ := built
      cases isErased
      obtain ⟨slot, handle⟩ := spares.stepping told
      exact (moves (passed.stepping (avoided rfl present) slot handle)).erase (closed rfl)
    · obtain ⟨-, rfl⟩ := refused
      cases isErased
      exact (moves (passed.refusing builder)).erase (closed rfl)
  | construct avoids =>
    rw [Command.construct_exec] at completes
    cases completes
    obtain ⟨slot, handle⟩ := spares.stepping told
    exact moves (passed.stepping avoids slot handle)
  | call alone =>
    obtain ⟨answer, middle, ends, finishes⟩ := Exec.of_bind_ok completes
    cases finishes
    obtain ⟨_, _, ended, -, -, reachedToo⟩ := reached.call counted avoid alone ends
    cases ended
    exact reachedToo

end

/-! ### Commands about the wrapper -/

theorem Event.Plain.rehome {event : Event ν} (plain : event.Plain) : event.rehome = event := by
  cases event <;> first | rfl | exact plain.elim

section

variable {own : Belongings σ ν ω} {builders others : Builders σ ν} {world other : World σ ν}

/-- Plain events are told in the same way where the wrapper is alone. -/
theorem World.told_plain {plainEvents events : List (Event ν)}
    (plain : ∀ event ∈ plainEvents, event.Plain)
    (told : (world.recordAll plainEvents).history = world.history ++ events) :
    (other.recordAll plainEvents).history = other.history ++ events.map .rehome := by
  rw [history_recordAll] at told ⊢
  rw [← List.append_cancel_left told]
  have same : plainEvents.map Event.rehome = plainEvents := by
    conv_rhs => rw [← List.map_id plainEvents]
    exact List.map_congr_left fun event isEvent => (plain event isEvent).rehome
  rw [same]

theorem World.told_nothing {events : List (Event ν)} (told : world.history = world.history ++ events) :
    other.history = other.history ++ events.map .rehome := by
  have nothing : ∀ event ∈ ([] : List (Event ν)), event.Plain := by simp
  exact told_plain nothing told

/-- The wrapper's own builder is changed. -/
theorem BuildStage.Reached.changeOwn {number : Nat} {builder copy : Builder σ ν}
    (reached : (BuildStage.ahead (some number)).Reached own builders world others other)
    (alone : builder.Alone own copy) (events copies : List (Event ν)) :
    (BuildStage.ahead (some number)).Reached own (builders.insert number builder)
      (world.recordAll events) (others.insert number copy) (other.recordAll copies) where
  toAlone := reached.toAlone.recordAll events copies
  foreign any found different isFound := by
    have apart : any ≠ number := fun same => different (congrArg some same.symm)
    rw [Registry.get?_insert, if_neg apart] at isFound
    exact reached.foreign any found different isFound
  stands := by
    cases reached.stands with
    | opened unbuilt present presentToo before =>
      refine .opened ⟨?_, ?_⟩ ?_ ?_ alone
      · simpa using unbuilt.slots
      · simpa using unbuilt.built
      · rw [Registry.get?_insert, if_pos rfl]
      · rw [Registry.get?_insert, if_pos rfl]

/-- The wrapper's own builder is opened. -/
theorem BuildStage.Reached.openOwn {number : Nat} {callbacks copy : CallbackTable σ ν}
    (reached : (BuildStage.ahead none).Reached own builders world others other)
    (alone : callbacks.Alone own copy) (userData : UserData) (events : List (Event ν)) :
    (BuildStage.ahead (some number)).Reached own
      (builders.insert number (.new userData callbacks)) (world.recordAll events)
      (others.insert number (.new userData copy)) other where
  toAlone := reached.toAlone.recordAll events []
  foreign any found different isFound := by
    have apart : any ≠ number := fun same => different (congrArg some same.symm)
    rw [Registry.get?_insert, if_neg apart] at isFound
    exact reached.foreign any found (Option.some_ne_none any).symm isFound
  stands := by
    cases reached.stands with
    | unopened unbuilt unused =>
      refine .opened unbuilt ?_ ?_ (.new userData alone)
      · rw [Registry.get?_insert, if_pos rfl]
      · rw [Registry.get?_insert, if_pos rfl]

/-- The wrapper is deleted. -/
theorem BuildStage.Reached.removeOwn
    (reached : BuildStage.built.Reached own builders world others other)
    (events copies : List (Event ν)) :
    BuildStage.built.Reached own builders (World.remove own.handle (world.recordAll events)) others
      (World.remove .first (other.recordAll copies)) where
  toAlone := (reached.toAlone.recordAll events copies).remove_own
  foreign := reached.foreign
  stands := .built

/-- The wrapper is built, and gets its own place. -/
theorem BuildStage.Reached.stepping_own {builder copy : Builder σ ν} (alone : world.Alone own other)
    (unbuilt : Unbuilt other) (same : builder.Alone own copy) (slot : world.slots.allocate.1 = own.slot)
    (handle : ⟨world.built + 1⟩ = own.handle)
    (foreign : ∀ number builder, builders.get? number = some builder → builder.Avoids own) :
    BuildStage.built.Reached own builders (world.stepping builder) others (other.stepping copy) :=
  ⟨alone.stepping_own same slot unbuilt.slot handle unbuilt.handle, fun any found _ =>
    foreign any found, .built⟩

/-- Building is told in the same way where the wrapper is alone. -/
theorem World.told_stepping {builder copy : Builder σ ν} {events : List (Event ν)}
    (unbuilt : Unbuilt other) (same : builder.Alone own copy)
    (slot : world.slots.allocate.1 = own.slot)
    (told : (world.stepping builder).history = world.history ++ events) :
    (other.stepping copy).history = other.history ++ events.map .rehome := by
  rw [history_stepping] at told ⊢
  rw [← List.append_cancel_left told, slot, unbuilt.slot, unbuilt.handle,
    same.configuration.populated, same.pageTable.isSome, same.userData]
  rfl

end

theorem Command.open_exec {performer : Performer σ ν} {builders : Builders σ ν} {number : Nat}
    (unused : builders.get? number = none) (userData : UserData) (callbacks : CallbackTable σ ν)
    (world : World σ ν) :
    (Command.openBuilder number userData callbacks : Command σ ν ρ).exec performer builders world =
      .ok (.done, builders.insert number (.new userData callbacks)) world := by
  rw [exec, unused]
  rfl

/-- What is left of an entry comes about where the wrapper is alone, and afterwards a stage is
reached. It yields the same outcome and tells of the events that are left. -/
def Entry.Recurs (own : Belongings σ ν ω) (bound : Nat) (copied : Entry σ ν ρ) (others : Builders σ ν)
    (other : World σ ν) (later : BuildStage) (between : Builders σ ν) (after : World σ ν) : Prop :=
  ∃ remaining final, copied.command.exec (performPresent bound) others other =
      .ok (copied.outcome, remaining) final ∧
    final.history = other.history ++ copied.events ∧ later.Reached own between after remaining final

section

variable {own : Belongings σ ν ω} {arrangements : Arrangements σ ν}
  {builders others between : Builders σ ν} {world other after : World σ ν} {bound : Nat}
  {events : List (Event ν)} {data : UserData}

/-- The wrapper is built from its builder. Alone, it gets the first slot and the first handle. -/
theorem BuildStage.Reached.build_recurs {number : Nat}
    (attached : .attached own.slot own.handle data ∈ events)
    (reached : (BuildStage.ahead (some number)).Reached own builders world others other)
    (completes : (Command.build number .stepping : Command σ ν ρ).exec
      (attending arrangements own.handle own.slot bound) builders world =
        .ok (.built own.handle, between) after)
    (told : after.history = world.history ++ events) :
    Entry.Recurs own bound
      (⟨.build number .stepping, .built .first, events.map .rehome⟩ : Entry σ ν ρ)
      others other .built between after := by
  cases reached.stands with
  | opened unbuilt present presentToo same =>
    obtain ⟨builder, found, isErased, built | refused⟩ :=
      (Command.build_stepping_ensures _ _ _ _).of_completed completes
    · cases present.symm.trans found
      obtain ⟨littleEndian, -, rfl⟩ := built
      have isErased : between = builders.erase _ := isErased
      subst isErased
      obtain ⟨slot, handle, -⟩ := (World.attached_stepping told).1 attached
      refine ⟨_, _, unbuilt.handle ▸ Command.build_exec presentToo (same.options ▸ littleEndian),
        World.told_stepping unbuilt same slot.symm told,
        .stepping_own reached.toAlone unbuilt same slot.symm handle.symm fun any found isFound => ?_⟩
      rw [Registry.get?_erase] at isFound
      split at isFound
      · cases isFound
      · rename_i different
        exact reached.foreign any found (fun isOpen => different (Option.some.inj isOpen).symm) isFound
    · obtain ⟨⟨_, isRefused⟩, -⟩ := refused
      cases isRefused

/-- The wrapper is built by a foreign constructor. Its builder is never open under a number, so no
stage speaks of it before. -/
theorem BuildStage.Reached.construct_recurs {userData : UserData} {callbacks copy : CallbackTable σ ν}
    {pages pagesToo : Option (PageTable σ)}
    {coprocessors copies : Option (Vector (WireOption (CoprocessorTable σ ν)) coprocessorCount)}
    (callbacksAlone : callbacks.Alone own copy) (pagesAlone : PageTable.Alone own pages pagesToo)
    (alone : CoprocessorTables.Alone own (Command.arrayTables coprocessors) (Command.arrayTables copies))
    (attached : .attached own.slot own.handle userData ∈ events)
    (reached : (BuildStage.ahead none).Reached own builders world others other)
    (completes : (Command.construct userData callbacks pages coprocessors .stepping :
      Command σ ν ρ).exec (attending arrangements own.handle own.slot bound) builders world =
        .ok (.built own.handle, between) after)
    (told : after.history = world.history ++ events) :
    Entry.Recurs own bound
      (⟨.construct userData copy pagesToo copies .stepping, .built .first, events.map .rehome⟩ :
        Entry σ ν ρ) others other .built between after := by
  cases reached.stands with
  | unopened unbuilt unused =>
    rw [Command.construct_exec] at completes
    obtain ⟨result, rfl⟩ := EStateM.Result.ok.inj completes
    obtain ⟨-, rfl⟩ := Prod.mk.inj result
    obtain ⟨slot, handle, -⟩ := (World.attached_stepping told).1 attached
    have same := Builder.Alone.foreign userData callbacksAlone pagesAlone alone
    exact ⟨_, _, unbuilt.handle ▸ Command.construct_exec _ _ _ _,
      World.told_stepping unbuilt same slot.symm told,
      .stepping_own reached.toAlone unbuilt same slot.symm handle.symm fun any found =>
        reached.foreign any found (Option.some_ne_none any).symm⟩

/-- The wrapper is deleted. -/
theorem BuildStage.Reached.delete_recurs
    (reached : BuildStage.built.Reached own builders world others other)
    (completes : (Command.delete own.handle : Command σ ν ρ).exec
      (attending arrangements own.handle own.slot bound) builders world = .ok (.done, between) after)
    (told : after.history = world.history ++ events) :
    Entry.Recurs own bound (⟨.delete .first, .done, events.map .rehome⟩ : Entry σ ν ρ) others other
      .built between after := by
  cases Command.completes_of_plain completes trivial with
  | delete present =>
    have wrappers := reached.wrapper
    rw [present] at wrappers
    cases foundToo : other.wrappers.get? .first with
    | none =>
      rw [foundToo] at wrappers
      cases wrappers
    | some copy =>
      rw [foundToo] at wrappers
      cases wrappers with
      | some alone =>
        rw [alone.userData, alone.engine.configuration.releases] at told
        exact ⟨_, _, (Command.Completes.delete foundToo).exec trivial,
          World.told_plain (Command.deleting_plain copy) told, reached.removeOwn _ _⟩

end

/-- What is left of a command that is about the wrapper completes where the wrapper is alone. It
yields the same and is told in the same way. -/
theorem Entry.Kept.reached {own : Belongings σ ν ω} {arrangements : Arrangements σ ν}
    (counted : own.actions = true) (avoid : arrangements.Avoid own) {stage later : BuildStage}
    {entry copied : Entry σ ν ρ} {builders others between : Builders σ ν}
    {world other after : World σ ν} {bound : Nat} (kept : Entry.Kept own stage entry copied later)
    (reached : stage.Reached own builders world others other)
    (completes : entry.command.exec (attending arrangements own.handle own.slot bound) builders world =
      .ok (entry.outcome, between) after)
    (told : after.history = world.history ++ entry.events) :
    copied.Recurs own bound others other later between after := by
  cases kept with
  | openBuilder alone =>
    cases Command.completes_of_plain completes trivial
    cases reached.stands with
    | unopened unbuilt unused =>
      exact ⟨_, _, Command.open_exec (unused _) _ _ _, (List.append_nil _).symm,
        reached.openOwn alone _ _⟩
  | usePageTable alone =>
    cases reached.stands with
    | opened unbuilt present presentToo same =>
      cases Command.completes_of_plain completes trivial with
      | usePageTable found =>
        -- The builder that the command finds is the one that the stage speaks of.
        cases present.symm.trans found
        have changed := reached.changeOwn (same.withPageTable alone) [] []
        exact ⟨_, _, (Command.Completes.usePageTable presentToo).exec trivial,
          World.told_nothing told, changed⟩
  | @useOptions number options =>
    cases reached.stands with
    | opened unbuilt present presentToo same =>
      cases Command.completes_of_plain completes trivial with
      | useOptions found =>
        cases present.symm.trans found
        have changed := reached.changeOwn (same.withOptions options) [] []
        exact ⟨_, _, (Command.Completes.useOptions presentToo).exec trivial,
          World.told_nothing told, changed⟩
  | installCoprocessor alone =>
    cases reached.stands with
    | opened unbuilt present presentToo same =>
      cases Command.completes_of_plain completes trivial with
      | install found inRange =>
        cases present.symm.trans found
        rw [same.replaces inRange] at told
        exact ⟨_, _, (Command.Completes.install presentToo inRange).exec trivial,
          World.told_plain (CoprocessorTable.replaces_plain _ _) told,
          reached.changeOwn (same.install inRange alone) _ _⟩
  | installCoprocessors alone =>
    cases reached.stands with
    | opened unbuilt present presentToo same =>
      cases Command.completes_of_plain completes trivial with
      | installAll found =>
        cases present.symm.trans found
        rw [same.releases] at told
        exact ⟨_, _, (Command.Completes.installAll presentToo).exec trivial,
          World.told_plain (Builder.releases_plain _) told,
          reached.changeOwn (same.installAll alone) _ _⟩
  | build attached => exact reached.build_recurs attached completes told
  | construct attached callbacksAlone pagesAlone alone =>
    exact reached.construct_recurs callbacksAlone pagesAlone alone attached completes told
  | delete => exact reached.delete_recurs completes told
  | call alone =>
    obtain ⟨answer, middle, ends, finishes⟩ := Exec.of_bind_ok completes
    cases finishes
    obtain ⟨_, final, ended, rfl, shadows, reachedToo⟩ := reached.call counted avoid alone ends
    refine ⟨others, final, Exec.bind_of_ok ended, ?_, reachedToo⟩
    obtain ⟨events, history, -, historyToo⟩ := shadows.told
    rw [historyToo, List.append_cancel_left (history.symm.trans told)]

/-! ### Whole sessions -/

/-- What is left of a chronicle is the chronicle of a session in which the wrapper is alone. -/
theorem Reduces.chronicle {own : Belongings σ ν ω} {arrangements : Arrangements σ ν}
    (counted : own.actions = true) (avoid : arrangements.Avoid own) {bound : Nat} {stage : BuildStage}
    {entries copies : List (Entry σ ν ρ)} (reduces : Reduces own stage entries copies)
    {builders others remaining : Builders σ ν} {world other after : World σ ν}
    (chronicle : Chronicle (attending arrangements own.handle own.slot bound) builders world entries
      remaining after)
    (reached : stage.Reached own builders world others other) :
    ∃ remainingToo final, Chronicle (performPresent bound) others other copies remainingToo final ∧
      after.Alone own final := by
  induction reduces generalizing builders others world other with
  | nil =>
    cases chronicle
    exact ⟨_, _, .nil, reached.toAlone⟩
  | keep kept rest ih =>
    cases chronicle with
    | cons completes told further =>
      obtain ⟨_, _, completesToo, toldToo, reachedToo⟩ := kept.reached counted avoid reached completes told
      obtain ⟨remainingToo, final, furtherToo, alone⟩ := ih further reachedToo
      exact ⟨remainingToo, final, .cons completesToo toldToo furtherToo, alone⟩
  | leave foreign spares apart rest ih =>
    cases chronicle with
    | cons completes told further =>
      exact ih further (foreign.stays counted avoid reached spares apart completes told)

end RecompilerAdapter
