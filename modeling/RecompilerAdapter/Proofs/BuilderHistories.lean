/-
Module: RecompilerAdapter.Proofs.BuilderHistories
Purpose: What a builder has been called with. The history of a builder is the list of the calls that have
  changed it since it was opened; what the builder holds, and what an engine that is built from it is
  configured with, is read off the last call about each part. The commands of a session tell the history
  of each open builder, and which history each wrapper was built from.
Trusted boundary: none
Main exports: BuilderCall, BuilderHistory, BuilderHistory.builder, Command.track, Command.BuiltFrom,
  Wrapper.IsBuiltFrom, Session.isBuiltFrom
-/
import RecompilerAdapter.Proofs.HandleIdentity

namespace RecompilerAdapter

variable {σ ν ρ α β γ : Type} {world after : World σ ν} {handle : Handle}

/-! ### Calls and histories -/

/-- A call that changes a builder. Each constructor is one method of the builder, with its
arguments. -/
inductive BuilderCall (σ ν : Type) where
  | usePageTable (pageTable : Option (PageTable σ))
  | useOptions (options : Options)
  | install (slot : Nat) (table : CoprocessorTable σ ν)
  | installAll (tables : CoprocessorTables σ ν)

namespace BuilderCall

/-- A builder does not reject the call. Only a table for a slot that does not exist is rejected. -/
def InRange : BuilderCall σ ν → Prop
  | install slot _ => slot < coprocessorCount
  | _ => True

/-- What the call makes of the contents of a slot, if it is about the slot. A call that installs all
tables is about every slot, and it may leave a slot empty. -/
def contents? (slot : Nat) : BuilderCall σ ν → Option (Option (CoprocessorTable σ ν))
  | install filled table => if filled = slot then some (some table) else none
  | installAll tables => some tables[slot]?.join
  | _ => none

/-- The table that the call installs in a slot on its own. -/
def installed? (slot : Nat) : BuilderCall σ ν → Option (CoprocessorTable σ ν)
  | install filled table => if filled = slot then some table else none
  | _ => none

/-- The tables with which the call replaces those of all slots. -/
def replacement? : BuilderCall σ ν → Option (CoprocessorTables σ ν)
  | installAll tables => some tables
  | _ => none

/-- The page table, or none, that the call asks for, if it is about page tables. -/
def pageTable? : BuilderCall σ ν → Option (Option (PageTable σ))
  | usePageTable pageTable => some pageTable
  | _ => none

/-- The tunables that the call asks for. -/
def options? : BuilderCall σ ν → Option Options
  | useOptions options => some options
  | _ => none

/-- What the call makes of a builder. -/
def apply : BuilderCall σ ν → Builder σ ν → Builder σ ν
  | usePageTable pageTable, builder => builder.withPageTable pageTable
  | useOptions options, builder => builder.withOptions options
  | install slot table, builder =>
    { builder with coprocessors := builder.coprocessors.setIfInBounds slot (some table) }
  | installAll tables, builder => { builder with coprocessors := tables }

/-- The command that makes the call on the builder of a number. The caller's code knows builders by
number only. -/
def command (number : Nat) : BuilderCall σ ν → Command σ ν ρ
  | usePageTable pageTable => .usePageTable number pageTable
  | useOptions options => .useOptions number options
  | install slot table => .installCoprocessor number slot table
  | installAll tables => .installCoprocessors number tables

end BuilderCall

/-- How a builder was opened and what it has been called with since then, the oldest call first. -/
structure BuilderHistory (σ ν : Type) where
  userData : UserData
  callbacks : CallbackTable σ ν
  calls : List (BuilderCall σ ν)

namespace BuilderHistory

/-- A builder was opened. -/
def new (userData : UserData) (callbacks : CallbackTable σ ν) : BuilderHistory σ ν :=
  ⟨userData, callbacks, []⟩

/-- One more call was made. -/
def push (call : BuilderCall σ ν) (history : BuilderHistory σ ν) : BuilderHistory σ ν :=
  { history with calls := history.calls ++ [call] }

/-- The table in a slot: what the last call about the slot has made of its contents. -/
def table (history : BuilderHistory σ ν) (slot : Nat) : Option (CoprocessorTable σ ν) :=
  (history.calls.filterMap (BuilderCall.contents? slot)).getLast?.join

/-- The page table of the last call about page tables. -/
def pageTable (history : BuilderHistory σ ν) : Option (PageTable σ) :=
  (history.calls.filterMap BuilderCall.pageTable?).getLast?.join

/-- The tunables of the last call about tunables, or the default ones. -/
def options (history : BuilderHistory σ ν) : Options :=
  (history.calls.filterMap BuilderCall.options?).getLast?.getD .default

/-- The populated slots with their tables, ascending. -/
def holdings (history : BuilderHistory σ ν) : List (Nat × CoprocessorTable σ ν) :=
  (List.range coprocessorCount).filterMap fun slot => (history.table slot).map fun table => (slot, table)

/-- The numbers of the populated slots, ascending. -/
def populated (history : BuilderHistory σ ν) : List Nat :=
  history.holdings.map Prod.fst

/-- The builder with this history. It is put together from what the last calls asked for, without
carrying out any of the others. -/
def builder (history : BuilderHistory σ ν) : Builder σ ν where
  userData := history.userData
  callbacks := history.callbacks
  pageTable := history.pageTable
  coprocessors := Vector.ofFn fun slot => history.table slot.val
  options := history.options

/-- What an engine that is built after this history is constructed with, its bridges sharing a
handle slot. -/
def configuration (history : BuilderHistory σ ν) (slot : HandleSlot) : EngineConfiguration σ ν where
  callbacks := ⟨history.callbacks, slot⟩
  pageTable := history.pageTable
  coprocessors := Vector.ofFn fun index =>
    (history.table index.val).map fun table => ⟨index.val, table, slot⟩
  options := history.options

variable (history : BuilderHistory σ ν)

/-- What is in a slot after one more call. -/
theorem table_push (call : BuilderCall σ ν) (slot : Nat) :
    (history.push call).table slot = (call.contents? slot).getD (history.table slot) := by
  unfold table push
  rw [List.filterMap_append, List.getLast?_append]
  cases about : call.contents? slot with
  | none => simp [about]
  | some contents => simp [about]

/-- The last call about the page table decides. -/
theorem pageTable_push (call : BuilderCall σ ν) :
    (history.push call).pageTable = call.pageTable?.getD history.pageTable := by
  unfold pageTable push
  rw [List.filterMap_append, List.getLast?_append]
  cases about : call.pageTable? with
  | none => simp [about]
  | some pageTable => simp [about]

/-- The last call about the options decides. -/
theorem options_push (call : BuilderCall σ ν) :
    (history.push call).options = call.options?.getD history.options := by
  unfold options push
  rw [List.filterMap_append, List.getLast?_append]
  cases about : call.options? with
  | none => simp [about]
  | some options => simp [about]

/-- A builder that nothing was done to is a new one. -/
theorem builder_new (userData : UserData) (callbacks : CallbackTable σ ν) :
    (new userData callbacks).builder = Builder.new userData callbacks := by
  have empty : (Vector.ofFn fun slot : Fin coprocessorCount => (new userData callbacks).table slot.val) =
      Vector.replicate coprocessorCount none := by
    apply Vector.ext
    intro slot inRange
    rw [Vector.getElem_ofFn, Vector.getElem_replicate]
    rfl
  unfold builder Builder.new
  rw [empty]
  rfl

/-- A call changes the builder as it changes its history. -/
theorem builder_push (call : BuilderCall σ ν) :
    (history.push call).builder = call.apply history.builder := by
  have tables : (Vector.ofFn fun slot : Fin coprocessorCount => (history.push call).table slot.val) =
      (call.apply history.builder).coprocessors := by
    apply Vector.ext
    intro slot inRange
    rw [Vector.getElem_ofFn, table_push]
    cases call with
    | install filled table =>
      by_cases same : filled = slot
      · subst same
        simp [BuilderCall.apply, BuilderCall.contents?]
      · simp [BuilderCall.apply, BuilderCall.contents?, same, builder]
    | installAll tables =>
      simp [BuilderCall.apply, BuilderCall.contents?, getElem?_pos tables slot inRange]
    | usePageTable | useOptions =>
      simp [BuilderCall.apply, BuilderCall.contents?, builder, Builder.withPageTable,
        Builder.withOptions]
  unfold builder
  rw [tables, pageTable_push, options_push]
  cases call <;> rfl

/-- The table in a slot since all tables were replaced the last time: the one that was installed
last after that, or the one that came with the others. -/
theorem table_of_replaced {earlier later : List (BuilderCall σ ν)} {tables : CoprocessorTables σ ν}
    (calls : history.calls = earlier ++ .installAll tables :: later)
    (last : ∀ call ∈ later, call.replacement? = none) (slot : Nat) :
    history.table slot =
      (later.filterMap (BuilderCall.installed? slot)).getLast?.or tables[slot]?.join := by
  induction later using List.reverseRecOn generalizing history with
  | nil =>
    unfold table
    rw [calls, List.filterMap_append]
    simp [BuilderCall.contents?]
  | append_singleton later call ih =>
    let before : BuilderHistory σ ν :=
      { history with calls := earlier ++ .installAll tables :: later }
    have pushed : history = before.push call := by
      unfold push
      simp only [before]
      rw [List.append_assoc, List.cons_append, ← calls]
    have same := ih before rfl fun call isLater => last call (List.mem_append_left _ isLater)
    rw [pushed, table_push, same, List.filterMap_append, List.getLast?_append]
    have single := last call (by simp)
    cases call with
    | install filled table =>
      by_cases isSlot : filled = slot <;> simp [BuilderCall.contents?, BuilderCall.installed?, isSlot]
    | installAll => cases single
    | usePageTable | useOptions => simp [BuilderCall.contents?, BuilderCall.installed?]

/-- The table in a slot when all tables were never replaced. -/
theorem table_of_unreplaced (never : ∀ call ∈ history.calls, call.replacement? = none) (slot : Nat) :
    history.table slot = (history.calls.filterMap (BuilderCall.installed? slot)).getLast? := by
  let none : CoprocessorTables σ ν := Vector.replicate coprocessorCount Option.none
  let emptied : BuilderHistory σ ν := { history with calls := .installAll none :: history.calls }
  have isNone : none[slot]?.join = Option.none := by
    by_cases inRange : slot < coprocessorCount
    · rw [getElem?_pos none slot inRange, Vector.getElem_replicate]
      rfl
    · rw [getElem?_neg none slot inRange]
      rfl
  have same : emptied.table slot = history.table slot := by
    unfold table
    simp only [emptied, List.filterMap_cons, BuilderCall.contents?]
    rw [List.getLast?_cons]
    cases (history.calls.filterMap (BuilderCall.contents? slot)).getLast? <;> simp [isNone]
  have calls : emptied.calls = [] ++ .installAll none :: history.calls := rfl
  rw [← same, emptied.table_of_replaced calls never slot, isNone, Option.or_none]

/-! ### Configurations -/

/-- The configuration that is read off the history is the one that the builder hands to the
constructor. -/
theorem configuration_eq (slot : HandleSlot) :
    history.builder.configuration slot = history.configuration slot := by
  have tables : (history.builder.configuration slot).coprocessors =
      (history.configuration slot).coprocessors := by
    apply Vector.ext
    intro index inRange
    simp [Builder.configuration, builder, configuration]
  exact congrArg (EngineConfiguration.mk ⟨history.callbacks, slot⟩ history.pageTable · history.options)
    tables

/-- The bridge in a slot carries the table that the history says, and the slot's number. -/
theorem getElem_configuration (slot : HandleSlot) {index : Nat} (inRange : index < coprocessorCount) :
    (history.configuration slot).coprocessors[index] =
      (history.table index).map fun table => ⟨index, table, slot⟩ := by
  simp [configuration]

/-- The tables that the history says the builder holds. -/
theorem mem_holdings {slot : Nat} {table : CoprocessorTable σ ν} :
    (slot, table) ∈ history.holdings ↔ slot < coprocessorCount ∧ history.table slot = some table := by
  simp only [holdings, List.mem_filterMap, List.mem_range, Option.map_eq_some_iff, Prod.mk.injEq]
  constructor
  · rintro ⟨index, inRange, found, isTable, rfl, rfl⟩
    exact ⟨inRange, isTable⟩
  · rintro ⟨inRange, isTable⟩
    exact ⟨slot, inRange, table, isTable, rfl, rfl⟩

/-- Populated slots are listed in ascending order. -/
theorem populated_ascending : history.populated.Pairwise (· < ·) := by
  have selected : history.populated =
      (List.range coprocessorCount).filter fun slot => (history.table slot).isSome := by
    unfold populated holdings
    rw [List.map_filterMap, ← List.filterMap_eq_filter]
    refine List.filterMap_congr fun slot _ => ?_
    cases found : history.table slot <;> simp [Option.guard, found]
  rw [selected]
  exact List.pairwise_lt_range.filter _

/-- A slot is populated if the history says that it has a table. -/
theorem mem_populated {slot : Nat} :
    slot ∈ history.populated ↔ slot < coprocessorCount ∧ (history.table slot).isSome := by
  unfold populated
  rw [List.mem_map]
  constructor
  · rintro ⟨⟨index, table⟩, isHeld, rfl⟩
    obtain ⟨inRange, isTable⟩ := history.mem_holdings.1 isHeld
    exact ⟨inRange, by rw [isTable]; rfl⟩
  · rintro ⟨inRange, isSome⟩
    obtain ⟨table, isTable⟩ := Option.isSome_iff_exists.1 isSome
    exact ⟨(slot, table), history.mem_holdings.2 ⟨inRange, isTable⟩, rfl⟩

end BuilderHistory

/-- The places of a list with what stands there are those of its indices. -/
theorem zipIdx_eq_map_range (entries : List (Option α)) :
    entries.zipIdx = (List.range entries.length).map fun index => (entries[index]?.join, index) := by
  apply List.ext_getElem
  · simp
  · intro index inZip inRange
    rw [List.length_map, List.length_range] at inRange
    simp [inRange]

/-- Slot by slot, the builder has what the history says. -/
theorem BuilderHistory.zipIdx_builder (history : BuilderHistory σ ν) :
    history.builder.coprocessors.toList.zipIdx =
      (List.range coprocessorCount).map fun slot => (history.table slot, slot) := by
  rw [zipIdx_eq_map_range]
  simp only [Vector.length_toList]
  apply List.map_congr_left
  intro slot inRange
  rw [List.mem_range] at inRange
  simp [builder, inRange]

/-! ### Builders of a session -/

/-- Installing a table in an existing slot is one call among others. -/
theorem BuilderCall.apply_install (builder : Builder σ ν) {slot : Nat} (inRange : slot < coprocessorCount)
    (table : CoprocessorTable σ ν) : { builder with
      coprocessors := builder.coprocessors.set slot (some table) } =
        (BuilderCall.install slot table).apply builder := by
  unfold apply
  congr 1
  apply Vector.ext
  intro index bounded
  rw [Vector.getElem_set, Vector.getElem_setIfInBounds]

namespace Command

variable {builders remaining : Builders σ ν} {command : Command σ ν ρ} {outcome : Outcome ρ}

/-- What is kept of the builder of a number after a command. Opening it creates something anew, a
call changes it, and it is lost when a slot number is rejected and when the builder is dropped or
built from. -/
def track (number : Nat) (create : UserData → CallbackTable σ ν → β) (change : BuilderCall σ ν → β → β)
    (latest : Option β) : Command σ ν ρ → Option β
  | .openBuilder other userData callbacks =>
    if other = number then some (create userData callbacks) else latest
  | .usePageTable other pageTable =>
    if other = number then latest.map (change (.usePageTable pageTable)) else latest
  | .useOptions other options =>
    if other = number then latest.map (change (.useOptions options)) else latest
  | .installCoprocessor other slot table =>
    if other = number then
      if slot < coprocessorCount then latest.map (change (.install slot table)) else none
    else latest
  | .installCoprocessors other tables =>
    if other = number then latest.map (change (.installAll tables)) else latest
  | .dropBuilder other | .build other _ => if other = number then none else latest
  | .construct .. | .delete _ | .call _ => latest

/-- The history of the builder that commands have left open under a number. Opening a builder under
a number that is taken replaces the old one; building or dropping it closes it, and so does a slot
number that it rejects. -/
def opened (number : Nat) (commands : List (Command σ ν ρ)) : Option (BuilderHistory σ ν) :=
  commands.foldl (track number .new .push) none

/-- The history of the builder of a foreign constructor. Both arguments are handed over in any case,
so each counts as a call even if it is null. -/
def foreignHistory (userData : UserData) (callbacks : CallbackTable σ ν)
    (pageTable : Option (PageTable σ))
    (coprocessors : Option (Vector (WireOption (CoprocessorTable σ ν)) coprocessorCount)) :
    BuilderHistory σ ν :=
  ⟨userData, callbacks, [.usePageTable pageTable, .installAll (arrayTables coprocessors)]⟩

/-- The history that a command builds from, after earlier commands. -/
def source (earlier : List (Command σ ν ρ)) : Command σ ν ρ → Option (BuilderHistory σ ν)
  | .build number _ => opened number earlier
  | .construct userData callbacks pageTable coprocessors _ =>
    some (foreignHistory userData callbacks pageTable coprocessors)
  | _ => none

/-- The command that has yielded a handle has built from a history. Commands and outcomes are in
step, so its place among them tells what came before it. -/
def BuiltFrom (commands : List (Command σ ν ρ)) (outcomes : List (Outcome ρ)) (handle : Handle)
    (history : BuilderHistory σ ν) : Prop :=
  ∃ (index : Nat) (command : Command σ ν ρ), commands[index]? = some command ∧
    outcomes[index]? = some (.built handle) ∧ command.source (commands.take index) = some history

/-- What is tracked about a builder through a session may be translated before or after. -/
theorem map_track {number : Nat} {create : UserData → CallbackTable σ ν → β}
    {change : BuilderCall σ ν → β → β} {createImage : UserData → CallbackTable σ ν → γ}
    {changeImage : BuilderCall σ ν → γ → γ} {image : β → γ}
    (creates : ∀ userData callbacks, image (create userData callbacks) = createImage userData callbacks)
    (changes : ∀ call kept, image (change call kept) = changeImage call (image kept))
    (latest : Option β) (command : Command σ ν ρ) :
    (command.track number create change latest).map image =
      command.track number createImage changeImage (latest.map image) := by
  cases command with
  | openBuilder =>
    simp only [track]
    split <;> simp [creates]
  | installCoprocessor =>
    simp only [track]
    split
    · split <;> cases latest <;> simp [changes]
    · rfl
  | usePageTable | useOptions | installCoprocessors | dropBuilder | build =>
    simp only [track]
    split <;> cases latest <;> simp [changes]
  | construct | delete | call => rfl

/-- The history of a builder grows with each command that is about it. -/
theorem opened_snoc (number : Nat) (commands : List (Command σ ν ρ)) (command : Command σ ν ρ) :
    opened number (commands ++ [command]) =
      command.track number .new .push (opened number commands) := by
  rw [opened, List.foldl_append]
  rfl

/-- The builder of a number is kept just as its history is. -/
theorem map_opened (number : Nat) (commands : List (Command σ ν ρ)) :
    (opened number commands).map BuilderHistory.builder =
      commands.foldl (track number .new BuilderCall.apply) none := by
  induction commands using List.reverseRecOn with
  | nil => rfl
  | append_singleton commands command ih =>
    rw [opened_snoc, List.foldl_append, ← ih]
    exact map_track BuilderHistory.builder_new (fun call history => history.builder_push call) _ _

/-- The foreign surface builds from a history of its own: a page table and all tables at once. -/
theorem foreignBuilder_eq (userData : UserData) (callbacks : CallbackTable σ ν)
    (pageTable : Option (PageTable σ))
    (coprocessors : Option (Vector (WireOption (CoprocessorTable σ ν)) coprocessorCount)) :
    foreignBuilder userData callbacks pageTable coprocessors =
      (foreignHistory userData callbacks pageTable coprocessors).builder := by
  have pushed : foreignHistory userData callbacks pageTable coprocessors =
      ((BuilderHistory.new userData callbacks).push (.usePageTable pageTable)).push
        (.installAll (arrayTables coprocessors)) := rfl
  rw [pushed, BuilderHistory.builder_push, BuilderHistory.builder_push, BuilderHistory.builder_new]
  rfl

/-- A command that completes leaves the builder of each number as it is kept. Commands on other
numbers and on no builder leave it as it was. -/
theorem Completes.tracked (completes : Completes builders world command outcome remaining after)
    (number : Nat) :
    remaining.get? number = command.track number .new BuilderCall.apply (builders.get? number) := by
  cases completes with
  | openBuilder =>
    simp only [track, Registry.get?_insert, eq_comm]
  | @usePageTable other pageTable builder present | @useOptions other options builder present
    | @installAll other tables builder present =>
    rw [Registry.get?_insert]
    by_cases same : number = other
    · subst same
      simp [track, present, BuilderCall.apply]
    · simp [track, same, Ne.symm same]
  | @install other slot table builder present inRange =>
    rw [Registry.get?_insert]
    by_cases same : number = other
    · subst same
      simp [track, present, inRange, BuilderCall.apply_install]
    · simp [track, same, Ne.symm same]
  | @reject other slot table builder present outOfRange =>
    rw [Registry.get?_erase]
    by_cases same : number = other
    · simp [track, same, outOfRange]
    · simp [track, same, Ne.symm same]
  | dropBuilder | build | refuse =>
    simp only [track, Registry.get?_erase, eq_comm]
  | construct | delete | call => rfl

end Command

/-- The builders of a session are those with the histories that its commands tell. -/
theorem Session.opened {own : σ} {commands : List (Command σ ν ρ)} {outcomes : List (Outcome ρ)}
    {builders : Builders σ ν} (session : Session own commands outcomes builders world) (number : Nat) :
    builders.get? number = (Command.opened number commands).map BuilderHistory.builder := by
  induction session with
  | nil => rfl
  | snoc session completes ih =>
    rw [completes.tracked, ih, Command.map_opened, Command.map_opened, List.foldl_append]
    rfl

/-- So a builder that has been opened is found, as its history has made it. -/
theorem Session.found {own : σ} {commands : List (Command σ ν ρ)} {outcomes : List (Outcome ρ)}
    {builders : Builders σ ν} (session : Session own commands outcomes builders world) {number : Nat}
    {history : BuilderHistory σ ν} (opened : Command.opened number commands = some history) :
    builders.get? number = some history.builder := by
  rw [session.opened number, opened, Option.map_some]

/-! ### Wrappers of a session -/

/-- The wrapper is what building from a history makes. -/
structure Wrapper.IsBuiltFrom (wrapper : Wrapper σ ν) (history : BuilderHistory σ ν) : Prop where
  userData : wrapper.userData = history.userData
  configuration : wrapper.engine.configuration =
    history.configuration wrapper.engine.configuration.callbacks.slot

/-- A wrapper is built from the same history for its whole life. -/
theorem Wrapper.IsBuiltFrom.later {wrapper later : Wrapper σ ν} {history : BuilderHistory σ ν}
    (built : wrapper.IsBuiltFrom history) (same : later.fixed = wrapper.fixed) :
    later.IsBuiltFrom history := by
  have sameData : later.userData = wrapper.userData := congrArg (·.1) same
  have sameConfiguration : later.engine.configuration = wrapper.engine.configuration :=
    congrArg (·.2.1) same
  constructor
  · rw [sameData, built.userData]
  · rw [sameConfiguration]
    exact built.configuration

/-- A wrapper that is there after building was there before, or has been built. -/
theorem Builder.Builds.origin {history : BuilderHistory σ ν} {result : Except EngineError Handle}
    {later : Wrapper σ ν} (builds : history.builder.Builds world result after)
    (found : after.wrappers.get? handle = some later) :
    (∃ wrapper, world.wrappers.get? handle = some wrapper ∧ later.fixed = wrapper.fixed) ∨
      result = .ok handle ∧ later.IsBuiltFrom history := by
  cases builds with
  | @built probed engine reaches configured =>
    rcases Coherent.wrapper_attached found with ⟨rfl, rfl⟩ | there
    · right
      have sameBuilt : probed.built = world.built := reaches.steady.built
      rw [history.configuration_eq] at configured
      refine ⟨by rw [sameBuilt], rfl, ?_⟩
      rw [configured]
      rfl
    · exact .inl (reaches.steady.findBefore there)
  | refused reaches =>
    rw [World.wrappers_recordAll] at found
    exact .inl (reaches.steady.findBefore found)

/-- Each wrapper that is built gets the next handle. -/
theorem Builder.Builds.counted {builder : Builder σ ν} {result : Except EngineError Handle}
    (builds : builder.Builds world result after) : world.built ≤ after.built ∧
      ∀ built, result = .ok built → built = ⟨world.built + 1⟩ ∧ after.built = world.built + 1 := by
  cases builds with
  | @built probed engine reaches =>
    have sameBuilt : probed.built = world.built := reaches.steady.built
    have counts : (probed.attached world.slots.allocate.1 builder.userData engine).built =
        world.built + 1 := by
      rw [← sameBuilt]
      rfl
    rw [counts]
    refine ⟨Nat.le_succ _, ?_⟩
    rintro _ ⟨rfl⟩
    exact ⟨rfl, rfl⟩
  | @refused probed error reaches =>
    have sameBuilt : probed.built = world.built := reaches.steady.built
    rw [World.built_recordAll, sameBuilt]
    exact ⟨Nat.le_refl _, by simp⟩

namespace Command

variable {builders remaining : Builders σ ν} {command : Command σ ν ρ} {outcome : Outcome ρ}
  {commands : List (Command σ ν ρ)} {outcomes : List (Outcome ρ)} {history : BuilderHistory σ ν}

/-- A wrapper that is there after a command was there before, or the command has built it. In the
first case nothing of what it was built from has changed. -/
theorem Completes.origin (completes : Completes builders world command outcome remaining after)
    (kept : ∀ number, builders.get? number = (opened number commands).map BuilderHistory.builder)
    {later : Wrapper σ ν} (found : after.wrappers.get? handle = some later) :
    (∃ wrapper, world.wrappers.get? handle = some wrapper ∧ later.fixed = wrapper.fixed) ∨
      ∃ history, outcome = .built handle ∧ command.source commands = some history ∧
        later.IsBuiltFrom history := by
  have still (events : List (Event ν))
      (there : (world.recordAll events).wrappers.get? handle = some later) :
      ∃ wrapper, world.wrappers.get? handle = some wrapper ∧ later.fixed = wrapper.fixed := by
    rw [World.wrappers_recordAll] at there
    exact ⟨later, there, rfl⟩
  -- Only building adds a wrapper. Deleting takes one away, and what remains was there before.
  cases completes with
  | usePageTable | useOptions => exact .inl ⟨later, found, rfl⟩
  | openBuilder | install | reject | installAll | dropBuilder => exact .inl (still _ found)
  | @build number engine builder built _ present builds =>
    rw [kept, Option.map_eq_some_iff] at present
    obtain ⟨history, isOpen, rfl⟩ := present
    rcases builds.origin found with earlier | ⟨⟨rfl⟩, isBuilt⟩
    · exact .inl earlier
    · exact .inr ⟨history, rfl, isOpen, isBuilt⟩
  | @refuse number engine builder error _ present builds =>
    rw [kept, Option.map_eq_some_iff] at present
    obtain ⟨history, isOpen, rfl⟩ := present
    rcases builds.origin found with earlier | ⟨⟨⟩, isBuilt⟩
    exact .inl earlier
  | construct builds =>
    rw [foreignBuilder_eq] at builds
    rcases builds.origin found with earlier | ⟨⟨rfl⟩, isBuilt⟩
    · exact .inl earlier
    · exact .inr ⟨_, rfl, rfl, isBuilt⟩
  | @delete target wrapper present =>
    simp only [World.remove, Registry.get?_erase] at found
    split at found
    · cases found
    · exact .inl (still _ found)
  | call reaches => exact .inl (reaches.steady.findBefore found)

/-- Each wrapper that is built is counted, and has the next address. -/
theorem Completes.counted (completes : Completes builders world command outcome remaining after) :
    world.built ≤ after.built ∧ ∀ built, outcome = .built built →
      built = ⟨world.built + 1⟩ ∧ after.built = world.built + 1 := by
  cases completes with
  | build present builds | construct builds =>
    obtain ⟨grows, counts⟩ := builds.counted
    refine ⟨grows, ?_⟩
    rintro _ ⟨rfl⟩
    exact counts _ rfl
  | refuse present builds => exact ⟨builds.counted.1, by simp⟩
  | call reaches => exact ⟨Nat.le_of_eq reaches.steady.built.symm, by simp⟩
  | delete =>
    simp only [World.remove, World.built_recordAll]
    exact ⟨Nat.le_refl _, by simp⟩
  | _ => simp

/-- A handle was built by an earlier command or by the last one. This is the step from which
inductions on the commands of a session are made. -/
theorem builtFrom_snoc (same : outcomes.length = commands.length) :
    BuiltFrom (commands ++ [command]) (outcomes ++ [outcome]) handle history ↔
      BuiltFrom commands outcomes handle history ∨
        outcome = .built handle ∧ command.source commands = some history := by
  constructor
  · rintro ⟨index, found, isFound, yields, isSource⟩
    have inside : index < (commands ++ [command]).length := (List.getElem?_eq_some_iff.1 isFound).1
    rw [List.length_append, List.length_singleton] at inside
    -- Commands and outcomes are equally long, so the last command goes with the last outcome.
    by_cases last : index = commands.length
    · subst last
      rw [List.getElem?_concat_length] at isFound
      rw [← same, List.getElem?_concat_length] at yields
      rw [List.take_left] at isSource
      cases isFound
      cases yields
      exact .inr ⟨rfl, isSource⟩
    · have before : index < commands.length := by omega
      rw [List.getElem?_append_left before] at isFound
      rw [List.getElem?_append_left (same ▸ before)] at yields
      rw [List.take_append_of_le_length (Nat.le_of_lt before)] at isSource
      exact .inl ⟨index, found, isFound, yields, isSource⟩
  · rintro (⟨index, found, isFound, yields, isSource⟩ | ⟨rfl, isSource⟩)
    · have before : index < commands.length := (List.getElem?_eq_some_iff.1 isFound).1
      refine ⟨index, found, ?_, ?_, ?_⟩
      · rw [List.getElem?_append_left before, isFound]
      · rw [List.getElem?_append_left (same ▸ before), yields]
      · rw [List.take_append_of_le_length (Nat.le_of_lt before), isSource]
    · refine ⟨commands.length, command, ?_, ?_, ?_⟩
      · rw [List.getElem?_concat_length]
      · rw [← same, List.getElem?_concat_length]
      · rw [List.take_left, isSource]

end Command

namespace Session

variable {own : σ} {commands : List (Command σ ν ρ)} {outcomes : List (Outcome ρ)}
  {builders : Builders σ ν} {history : BuilderHistory σ ν} {wrapper : Wrapper σ ν}

/-- Handles that were yielded have been counted. -/
theorem counted (session : Session own commands outcomes builders world)
    (built : Command.BuiltFrom commands outcomes handle history) : handle.address ≤ world.built := by
  induction session with
  | nil =>
    obtain ⟨index, command, isFound, -⟩ := built
    cases isFound
  | snoc session completes ih =>
    rcases (Command.builtFrom_snoc session.placed.1).1 built with earlier | ⟨yields, -⟩
    · exact Nat.le_trans (ih earlier) completes.counted.1
    · obtain ⟨rfl, counts⟩ := completes.counted.2 _ yields
      exact Nat.le_of_eq counts.symm

/-- Every living wrapper was built from a history. -/
theorem origin (session : Session own commands outcomes builders world)
    (present : world.wrappers.get? handle = some wrapper) :
    ∃ history, Command.BuiltFrom commands outcomes handle history ∧ wrapper.IsBuiltFrom history := by
  induction session generalizing wrapper with
  | nil => cases present
  | snoc session completes ih =>
    rcases completes.origin session.opened present with ⟨earlier, found, same⟩ | isNew
    · obtain ⟨history, built, isBuilt⟩ := ih found
      exact ⟨history, (Command.builtFrom_snoc session.placed.1).2 (.inl built), isBuilt.later same⟩
    · obtain ⟨history, yields, isSource, isBuilt⟩ := isNew
      exact ⟨history, (Command.builtFrom_snoc session.placed.1).2 (.inr ⟨yields, isSource⟩), isBuilt⟩

/-- A handle is yielded once, so a living wrapper is what building from that history makes. -/
theorem isBuiltFrom (session : Session own commands outcomes builders world)
    (present : world.wrappers.get? handle = some wrapper)
    (built : Command.BuiltFrom commands outcomes handle history) : wrapper.IsBuiltFrom history := by
  induction session generalizing wrapper with
  | nil => cases present
  | @snoc _ _ _ _ world after _ outcome session completes ih =>
    have fresh (yields : outcome = .built handle) : handle.address = world.built + 1 := by
      rw [(completes.counted.2 _ yields).1]
    rcases (Command.builtFrom_snoc session.placed.1).1 built with earlier | ⟨yields, isSource⟩
    · have counted := session.counted earlier
      rcases completes.origin session.opened present with ⟨before, found, same⟩ | ⟨_, yields, -⟩
      · exact (ih found earlier).later same
      · have isFresh := fresh yields
        omega
    · rcases completes.origin session.opened present with ⟨before, found, same⟩ | isNew
      · have attached := session.coherent.own handle before found
        have counted := (session.coherent.numbered _ _ _ attached).2
        have isFresh := fresh yields
        omega
      · obtain ⟨other, -, otherSource, isBuilt⟩ := isNew
        rw [isSource, Option.some.injEq] at otherSource
        rw [otherSource]
        exact isBuilt

end Session

end RecompilerAdapter
