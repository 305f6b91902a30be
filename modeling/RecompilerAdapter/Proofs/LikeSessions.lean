/-
Module: RecompilerAdapter.Proofs.LikeSessions
Purpose: Sessions that are alike. Two worlds are alike if they differ in callbacks and coprocessors that
  are alike, and in histories that a relation allows. Building, deleting and all other commands keep two
  worlds alike, so whole sessions of commands that are alike end alike.
Trusted boundary: none
Main exports: World.Alike, HistoryRelation.Closed, Command.Alike, World.Alike.commands
-/
import Mathlib.Data.List.Forall2
import RecompilerAdapter.Proofs.LikeEngines
import RecompilerAdapter.Proofs.Sessions

namespace RecompilerAdapter

open Stepping (CompiledAlike)

variable {σ ν ρ α β γ : Type}

/-- A relation between histories. -/
abbrev HistoryRelation (ν : Type) : Type :=
  List (Event ν) → List (Event ν) → Prop

/-- Two worlds differ in callbacks and coprocessors that are alike, and in their histories. How
histories may differ is a parameter, since each comparison omits something else. -/
structure World.Alike (bodies : BodyRelation σ ν) (histories : HistoryRelation ν)
    (first second : World σ ν) : Prop where
  shared : first.shared = second.shared
  slots : first.slots = second.slots
  built : first.built = second.built
  script : first.script = second.script
  wrappers : ∀ handle, Option.Rel bodies.Wrappers (first.wrappers.get? handle)
    (second.wrappers.get? handle)
  history : histories first.history second.history

/-- Histories stay related when the same event is added to both. Builders and commands tell of
nothing else, so this is all that they ask of a relation. -/
def HistoryRelation.Closed (histories : HistoryRelation ν) : Prop :=
  ∀ history other event, histories history other → histories (history ++ [event]) (other ++ [event])

namespace World.Alike

variable {bodies : BodyRelation σ ν} {histories : HistoryRelation ν} {first second : World σ ν}

/-- Two events may be told, one on each side, if the histories are still related with them. -/
theorem record_of_history (alike : first.Alike bodies histories second) {event other : Event ν}
    (extended : histories (first.history ++ [event]) (second.history ++ [other])) :
    (first.record event).Alike bodies histories (second.record other) := by
  refine { alike with history := ?_ }
  rw [history_record, history_record]
  exact extended

/-- The same event may be told on both sides. -/
theorem record (alike : first.Alike bodies histories second) (closed : histories.Closed)
    (event : Event ν) : (first.record event).Alike bodies histories (second.record event) :=
  alike.record_of_history (closed _ _ _ alike.history)

/-- Wrappers that are alike may be put in place on both sides, behind the same handle. -/
theorem place (alike : first.Alike bodies histories second) (handle : Handle)
    {wrapper other : Wrapper σ ν} (wrappers : bodies.Wrappers wrapper other) :
    (first.place handle wrapper).Alike bodies histories (second.place handle other) := by
  refine { alike with wrappers := fun any => ?_ }
  rw [get?_place, get?_place]
  split
  · exact .some wrappers
  · exact alike.wrappers any

/-- Callers may change their own state in the same way. -/
theorem share (alike : first.Alike bodies histories second) (update : Shared σ → Shared σ) :
    ({ first with shared := update first.shared } : World σ ν).Alike bodies histories
      { second with shared := update second.shared } :=
  { alike with shared := congrArg update alike.shared }

end World.Alike

/-- From worlds that are alike, two computations end alike. -/
abbrev Exec.EndAlike (bodies : BodyRelation σ ν) (histories : HistoryRelation ν)
    (agree : α → β → Prop) (computation : Exec σ ν α) (counterpart : Exec σ ν β) : Prop :=
  Exec.Corresponds (World.Alike bodies histories) (World.Alike bodies histories)
    (World.Alike bodies histories) agree computation counterpart

/-- Two results are the same error, or what they hold agrees. Errors say nothing about callbacks, so
they cannot merely be alike. -/
inductive ResultsAlike {ε : Type} (agree : α → β → Prop) : Except ε α → Except ε β → Prop where
  | ok {answer : α} {other : β} (agrees : agree answer other) :
      ResultsAlike agree (.ok answer) (.ok other)
  | error (reason : ε) : ResultsAlike agree (.error reason) (.error reason)

/-! ### Tables of all slots -/

namespace BodyRelation

variable (bodies : BodyRelation σ ν)

/-- The coprocessor tables of all slots are alike. -/
structure AllCoprocessors (tables others : CoprocessorTables σ ν) : Prop where
  slots : ∀ slot : Fin 16, Option.Rel bodies.Coprocessors tables[slot] others[slot]

/-- Two builders differ in callbacks and coprocessors that are alike. -/
structure Builders (builder other : Builder σ ν) : Prop where
  userData : builder.userData = other.userData
  callbacks : bodies.Tables builder.callbacks other.callbacks
  pageTable : builder.pageTable = other.pageTable
  coprocessors : bodies.AllCoprocessors builder.coprocessors other.coprocessors
  options : builder.options = other.options

variable {bodies}

/-- Vectors that are related slot by slot are related as lists. -/
theorem forall₂_toList {rel : α → β → Prop} {items : Vector α 16} {others : Vector β 16}
    (related : ∀ slot : Fin 16, rel items[slot] others[slot]) :
    List.Forall₂ rel items.toList others.toList := by
  rw [List.forall₂_iff_get]
  refine ⟨by rw [Vector.length_toList, Vector.length_toList], fun index inside insideToo => ?_⟩
  have below : index < 16 := by rwa [Vector.length_toList] at inside
  simpa using related ⟨index, below⟩

/-- Lists that are alike entry by entry are alike with the positions of their entries. -/
theorem forall₂_zipIdx {rel : α → β → Prop} {items : List α} {others : List β}
    (related : List.Forall₂ rel items others) (start : Nat) :
    List.Forall₂ (fun item other => rel item.1 other.1 ∧ item.2 = other.2) (items.zipIdx start)
      (others.zipIdx start) := by
  induction related generalizing start with
  | nil => exact .nil
  | cons head _ ih => exact .cons ⟨head, rfl⟩ (ih (start + 1))

/-- What is gathered from entries that are alike is the same. This carries whatever is read off all
the slots of a builder or an engine. -/
theorem flatMap_eq_of_forall₂ {rel : α → β → Prop} {image : α → List γ} {copy : β → List γ}
    {items : List α} {others : List β} (related : List.Forall₂ rel items others)
    (same : ∀ item other, rel item other → image item = copy other) :
    items.flatMap image = others.flatMap copy := by
  induction related with
  | nil => rfl
  | cons head _ ih => rw [List.flatMap_cons, List.flatMap_cons, same _ _ head, ih]

/-- The same for what only some entries yield. -/
theorem filterMap_eq_of_forall₂ {rel : α → β → Prop} {image : α → Option γ} {copy : β → Option γ}
    {items : List α} {others : List β} (related : List.Forall₂ rel items others)
    (same : ∀ item other, rel item other → image item = copy other) :
    items.filterMap image = others.filterMap copy := by
  induction related with
  | nil => rfl
  | cons head _ ih => rw [List.filterMap_cons, List.filterMap_cons, same _ _ head, ih]

/-- Builders that are alike configure engines alike, apart from what their coprocessors do. -/
theorem Builders.configuration {builder other : Builder σ ν} (builders : bodies.Builders builder other)
    (slot : HandleSlot) :
    bodies.Configurations (builder.configuration slot) (other.configuration slot) where
  slot := rfl
  table := builders.callbacks
  pageTable := builders.pageTable
  coprocessors index := by
    have tables := builders.coprocessors.slots index
    have equipped (builder : Builder σ ν) : (builder.configuration slot).coprocessors[index] =
        builder.coprocessors[index].map fun table => ⟨index, table, slot⟩ := by
      simp [Builder.configuration]
    rw [equipped, equipped]
    generalize builder.coprocessors[index] = table at tables ⊢
    generalize other.coprocessors[index] = copy at tables ⊢
    cases tables with
    | none => exact .none
    | some same => exact .some ⟨rfl, rfl, same⟩
  options := builders.options

/-- A new builder has empty slots, whatever its callbacks are. -/
theorem Builders.new (userData : UserData) {callbacks other : CallbackTable σ ν}
    (tables : bodies.Tables callbacks other) :
    bodies.Builders (.new userData callbacks) (.new userData other) where
  userData := rfl
  callbacks := tables
  pageTable := rfl
  coprocessors := .mk fun slot => by
    simp only [Builder.new, Fin.getElem_fin, Vector.getElem_replicate]
    exact .none
  options := rfl

/-- Builders that are alike release the same contexts in the same order, as each context is part of
what is alike about two tables. -/
theorem Builders.releases {builder other : Builder σ ν} (builders : bodies.Builders builder other) :
    builder.releases = other.releases := by
  refine flatMap_eq_of_forall₂ (forall₂_zipIdx (forall₂_toList builders.coprocessors.slots) 0) ?_
  rintro ⟨table, slot⟩ ⟨copy, _⟩ ⟨tables, rfl⟩
  cases tables with
  | none => rfl
  | some same =>
    dsimp only
    rw [same.context]

/-- So do engines whose configurations are alike. -/
theorem Configurations.releases {configuration other : EngineConfiguration σ ν}
    (configurations : bodies.Configurations configuration other) :
    configuration.releases = other.releases := by
  refine flatMap_eq_of_forall₂ (forall₂_toList configurations.coprocessors) ?_
  rintro bridge copy bridges
  cases bridges with
  | none => rfl
  | some same =>
    dsimp only
    rw [same.index, same.table.context]

/-- The same slots are populated. -/
theorem Configurations.populated {configuration other : EngineConfiguration σ ν}
    (configurations : bodies.Configurations configuration other) :
    configuration.populated = other.populated := by
  refine filterMap_eq_of_forall₂ (forall₂_zipIdx (forall₂_toList configurations.coprocessors) 0) ?_
  rintro ⟨bridge, index⟩ ⟨copy, _⟩ ⟨bridges, rfl⟩
  cases bridges <;> rfl

/-- So what is told of a configuration is the same. -/
theorem Configurations.summary {configuration other : EngineConfiguration σ ν}
    (configurations : bodies.Configurations configuration other) :
    configuration.summary = other.summary := by
  unfold EngineConfiguration.summary
  rw [configurations.pageTable, configurations.populated, configurations.options]

end BodyRelation

/-- Two commands differ in callbacks, coprocessors and code of the caller that are alike. Numbers,
handles, page tables and options are the same. -/
inductive Command.Alike (bodies : BodyRelation σ ν) : Command σ ν ρ → Command σ ν ρ → Prop where
  | openBuilder (number : Nat) (userData : UserData) {callbacks other : CallbackTable σ ν}
      (tables : bodies.Tables callbacks other) :
      Alike bodies (.openBuilder number userData callbacks) (.openBuilder number userData other)
  | usePageTable (number : Nat) (pageTable : Option (PageTable σ)) :
      Alike bodies (.usePageTable number pageTable) (.usePageTable number pageTable)
  | useOptions (number : Nat) (options : Options) :
      Alike bodies (.useOptions number options) (.useOptions number options)
  | installCoprocessor (number slot : Nat) {table other : CoprocessorTable σ ν}
      (tables : bodies.Coprocessors table other) :
      Alike bodies (.installCoprocessor number slot table) (.installCoprocessor number slot other)
  | installCoprocessors (number : Nat) {tables others : CoprocessorTables σ ν}
      (alike : bodies.AllCoprocessors tables others) :
      Alike bodies (.installCoprocessors number tables) (.installCoprocessors number others)
  | dropBuilder (number : Nat) : Alike bodies (.dropBuilder number) (.dropBuilder number)
  | build (number : Nat) (engine : EngineChoice) :
      Alike bodies (.build number engine) (.build number engine)
  | construct (userData : UserData) {callbacks other : CallbackTable σ ν}
      (tables : bodies.Tables callbacks other) (pageTable : Option (PageTable σ))
      {coprocessors others : Option (Vector (WireOption (CoprocessorTable σ ν)) coprocessorCount)}
      (alike : bodies.AllCoprocessors (arrayTables coprocessors) (arrayTables others))
      (engine : EngineChoice) :
      Alike bodies (.construct userData callbacks pageTable coprocessors engine)
        (.construct userData other pageTable others engine)
  | delete (handle : Handle) : Alike bodies (.delete handle) (.delete handle)
  | call {body other : Activity σ ν ρ} (alike : bodies (· = ·) body other) :
      Alike bodies (.call body) (.call other)

/-! ### Building -/

namespace World.Alike

variable {bodies : BodyRelation σ ν} {histories : HistoryRelation ν}
  {perform counterpart : Performer σ ν}

/-- Worlds that are alike are so behind all handles. -/
theorem likeness (closed : histories.Closed)
    (exec : ∀ ⦃α β : Type⦄ (agree : α → β → Prop) body copy, bodies agree body copy →
      Exec.EndAlike bodies histories agree (body.exec perform) (copy.exec counterpart)) :
    Likeness (World.Alike bodies histories) (World.Alike bodies histories) perform counterpart bodies
      fun _ => True where
  stops _ _ alike := alike
  record event _ _ _ alike := alike.record closed event
  slots _ _ alike := alike.slots
  shared _ _ alike := alike.shared
  storeWord location word _ _ alike := alike.share fun shared =>
    { shared with words := shared.words.store location word }
  script _ _ alike := alike.script
  setScript _ _ _ alike := { alike with script := rfl }
  wrappers handle _ _ _ alike := alike.wrappers handle
  place handle _ _ _ alike _ _ wrappers := alike.place handle wrappers
  exec := exec

/-- Callers may look at their own state and change it. -/
theorem accessShared (update : Shared σ → Shared σ) :
    Exec.EndAlike bodies histories (· = ·) (Exec.accessShared update)
      (Exec.accessShared update) :=
  fun _ _ alike => ⟨alike.shared, alike.share update⟩

/-- Both sides may stop for the same reason. -/
theorem throw {agree : α → β → Prop} (stop : Stop) :
    Exec.EndAlike bodies histories agree (MonadExcept.throw stop) (MonadExcept.throw stop) :=
  .throw fun _ _ => id

section

variable (closed : histories.Closed)

include closed

/-- Both sides may tell of the same event. -/
theorem emit (event : Event ν) :
    Exec.EndAlike bodies histories (· = ·) (Exec.emit event) (Exec.emit event) :=
  .emit fun _ _ alike => alike.record closed event

/-- Recording the same events. -/
theorem records {computation counterpart : Exec σ ν Unit} {events : List (Event ν)}
    (first : Exec.Records computation events) (second : Exec.Records counterpart events) :
    Exec.EndAlike bodies histories (· = ·) computation counterpart := by
  intro world other alike
  rw [first, second]
  refine ⟨rfl, ?_⟩
  clear first second
  induction events generalizing world other with
  | nil => exact alike
  | cons event events ih => exact ih _ _ (alike.record closed event)

/-- A builder is dropped on both sides, with the same events. -/
theorem release {builder other : Builder σ ν} (builders : bodies.Builders builder other) :
    Exec.EndAlike bodies histories (· = ·) builder.release other.release :=
  records closed builder.release_records (builders.releases ▸ other.release_records)

/-- So is a configuration whose engine could not be constructed. -/
theorem drop {configuration other : EngineConfiguration σ ν}
    (configurations : bodies.Configurations configuration other) :
    Exec.EndAlike bodies histories (· = ·) configuration.drop other.drop :=
  records closed configuration.drop_records (configurations.releases ▸ other.drop_records)

omit closed in
/-- A new slot has the same number on both sides. -/
theorem allocateSlot :
    Exec.EndAlike bodies histories (· = ·) Exec.allocateSlot Exec.allocateSlot := by
  intro world other alike
  have slots : world.slots.allocate = other.slots.allocate := by rw [alike.slots]
  refine ⟨congrArg (·.1) slots, { alike with slots := congrArg (·.2) slots }⟩

omit closed in
/-- It is bound to the same handle. -/
theorem bindSlot (slot : HandleSlot) (handle : Handle) :
    Exec.EndAlike bodies histories (· = ·) (Exec.bindSlot slot handle)
      (Exec.bindSlot slot handle) := by
  apply Exec.Corresponds.get_bind
  intro world other alike
  rw [alike.slots]
  cases other.slots.bind? slot handle with
  | none => exact ⟨rfl, alike⟩
  | some slots => exact ⟨rfl, { alike with slots := rfl }⟩

/-- A slot gets tables that are alike, or is rejected on both sides. What was there before is
released, and the contexts are the same. -/
theorem withCoprocessor {builder other : Builder σ ν} (builders : bodies.Builders builder other)
    (slot : Nat) {table copy : CoprocessorTable σ ν} (tables : bodies.Coprocessors table copy) :
    Exec.EndAlike bodies histories (ResultsAlike bodies.Builders)
      (builder.withCoprocessor slot table) (other.withCoprocessor slot copy) := by
  unfold Builder.withCoprocessor CoprocessorTable.release
  split
  · rename_i inRange
    have installed : bodies.Builders
        { builder with coprocessors := builder.coprocessors.set slot (some table) }
        { other with coprocessors := other.coprocessors.set slot (some copy) } := by
      refine { builders with coprocessors := .mk fun index => ?_ }
      simp only [Fin.getElem_fin, Vector.getElem_set]
      split
      · exact .some tables
      · exact builders.coprocessors.slots index
    have replaced := builders.coprocessors.slots ⟨slot, inRange⟩
    simp only [Fin.getElem_fin] at replaced
    -- Whether a table is replaced is the same on both sides, since the slots are alike; only then
    -- the two matches can be split at once.
    generalize builder.coprocessors[slot] = previous at replaced ⊢
    generalize other.coprocessors[slot] = previousToo at replaced ⊢
    cases replaced with
    | none => exact .pure (.ok installed)
    | some same =>
      dsimp only
      rw [same.context]
      apply (emit closed _).bind_same
      intro _
      exact (emit closed _).bind_same fun _ => .pure (.ok installed)
  · rw [tables.context]
    apply (emit closed _).bind_same
    intro _
    exact (release closed builders).bind_same fun _ => .pure (.error _)

/-- All slots get tables that are alike, after all that was there is released. -/
theorem withCoprocessors {builder other : Builder σ ν} (builders : bodies.Builders builder other)
    {tables others : CoprocessorTables σ ν} (alike : bodies.AllCoprocessors tables others) :
    Exec.EndAlike bodies histories bodies.Builders (builder.withCoprocessors tables)
      (other.withCoprocessors others) :=
  (release closed builders).bind fun _ _ _ => .pure { builders with coprocessors := alike }

/-- A wrapper is put in place on both sides behind the same handle, since the same number of
wrappers was built before. -/
theorem attach {builder other : Builder σ ν} (builders : bodies.Builders builder other)
    (slot : HandleSlot) {engine copy : Engine σ ν} (engines : bodies.Engines engine copy) :
    Exec.EndAlike bodies histories (· = ·) (builder.attach slot engine) (other.attach slot copy) := by
  unfold Builder.attach
  rw [builders.userData]
  have placed : Exec.EndAlike bodies histories (· = ·)
      (modifyGet fun world => (⟨world.built + 1⟩, { world with
        wrappers := world.wrappers.insert ⟨world.built + 1⟩ ⟨other.userData, .constructed, engine⟩
        built := world.built + 1 }) : Exec σ ν Handle)
      (modifyGet fun world => (⟨world.built + 1⟩, { world with
        wrappers := world.wrappers.insert ⟨world.built + 1⟩ ⟨other.userData, .constructed, copy⟩
        built := world.built + 1 }) : Exec σ ν Handle) := by
    intro world counterpart alike
    have wrappers : bodies.Wrappers ⟨other.userData, .constructed, engine⟩
        ⟨other.userData, .constructed, copy⟩ := ⟨rfl, rfl, engines⟩
    have places := alike.place ⟨world.built + 1⟩ wrappers
    refine ⟨congrArg (fun built => Handle.mk (built + 1)) alike.built, ?_⟩
    refine { places with built := congrArg (· + 1) alike.built, wrappers := fun handle => ?_ }
    rw [← alike.built]
    exact places.wrappers handle
  apply placed.bind_same
  intro handle
  apply (bindSlot slot handle).bind_same
  intro _
  exact (emit closed _).bind_same fun _ => .pure rfl

omit closed in
/-- A wrapper is removed on both sides. -/
theorem delete_wrapper (handle : Handle) :
    Exec.EndAlike bodies histories (· = ·)
      (modify fun world => { world with wrappers := world.wrappers.erase handle })
      (modify fun world => { world with wrappers := world.wrappers.erase handle }) := by
  intro world other alike
  refine ⟨rfl, { alike with wrappers := fun any => ?_ }⟩
  rw [Registry.get?_erase, Registry.get?_erase]
  split
  · exact .none
  · exact alike.wrappers any

end

section

variable (likeness : Likeness (World.Alike bodies histories) (World.Alike bodies histories) perform
  counterpart bodies fun _ => True) (closed : histories.Closed)

include likeness

/-- Engines are constructed alike, or both constructors refuse. A scripted engine calls entries
meanwhile, so this needs that bodies which are alike end alike. -/
theorem construct {configuration other : EngineConfiguration σ ν}
    (configurations : bodies.Configurations configuration other) (choice : EngineChoice) :
    Exec.EndAlike bodies histories (ResultsAlike bodies.Engines)
      (choice.construct perform configuration) (choice.construct counterpart other) := by
  cases choice with
  | stepping =>
    simp only [EngineChoice.construct, configurations.options]
    split
    · exact .pure (.ok ⟨configurations, rfl, rfl, rfl, rfl, rfl, .stepping []⟩)
    · exact .pure (.error _)
  | scripted operations =>
    simp only [EngineChoice.construct, configurations.summary]
    refine .bind_same (likeness.emit trivial) fun _ => ?_
    apply (likeness.probe configurations .none operations).bind
    intro last lastToo lasts
    exact .pure (.ok ⟨configurations, rfl, rfl, rfl, rfl, rfl, .scripted lasts⟩)
  | refusing reason operations =>
    simp only [EngineChoice.construct, configurations.summary]
    refine .bind_same (likeness.emit trivial) fun _ => ?_
    exact (likeness.probe configurations .none operations).bind fun _ _ _ => .pure (.error _)

include closed

/-- So building ends alike. -/
theorem build {builder other : Builder σ ν} (builders : bodies.Builders builder other)
    (choice : EngineChoice) :
    Exec.EndAlike bodies histories (· = ·) (builder.build perform choice)
      (other.build counterpart choice) := by
  apply allocateSlot.bind_same
  intro slot
  have configurations := builders.configuration slot
  dsimp only
  rw [configurations.populated, configurations.pageTable]
  refine .bind_same (likeness.emit trivial) fun _ => ?_
  apply (construct likeness configurations choice).bind
  intro result resultToo results
  cases results with
  | ok engines => exact (attach closed builders slot engines).bind_same fun _ => .pure rfl
  | error reason => exact (drop closed configurations).bind_same fun _ => .pure rfl

/-- On the foreign surface tables come in an array, and a constructor that refuses ends everything
on both sides. -/
theorem wrapperConstruct (userData : UserData) {callbacks other : CallbackTable σ ν}
    (tables : bodies.Tables callbacks other) (pageTable : Option (PageTable σ))
    {coprocessors others : Option (Vector (WireOption (CoprocessorTable σ ν)) coprocessorCount)}
    (alike : bodies.AllCoprocessors (Command.arrayTables coprocessors) (Command.arrayTables others))
    (choice : EngineChoice) :
    Exec.EndAlike bodies histories (· = ·)
      (Wrapper.construct perform userData callbacks pageTable coprocessors choice)
      (Wrapper.construct counterpart userData other pageTable others choice) := by
  rw [Command.construct_eq, Command.construct_eq]
  have builders : bodies.Builders (Command.foreignBuilder userData callbacks pageTable coprocessors)
      (Command.foreignBuilder userData other pageTable others) :=
    { BodyRelation.Builders.new userData tables with pageTable := rfl, coprocessors := alike }
  apply (build likeness closed builders choice).bind_same
  intro result
  cases result with
  | ok handle => exact .pure rfl
  | error reason => exact .bind_same (likeness.emit trivial) fun _ => throw _

/-- Deleting drops what the wrapper's engine holds, which is alike. -/
theorem delete (handle : Handle) :
    Exec.EndAlike bodies histories (· = ·) (Wrapper.delete handle) (Wrapper.delete handle) := by
  apply (likeness.wrapper trivial).bind
  intro wrapper other wrappers
  rw [wrappers.userData]
  refine .bind_same (likeness.emit trivial) fun _ => ?_
  apply (drop closed wrappers.engine.configuration).bind_same
  intro _
  exact delete_wrapper handle

end

end World.Alike

/-! ### Commands -/

namespace World.Alike

variable {bodies : BodyRelation σ ν} {histories : HistoryRelation ν}
  {perform counterpart : Performer σ ν} {builders others : Builders σ ν}

/-- Two registries hold builders that are alike under the same numbers, so every command that names
a number finds a builder on both sides or on none. -/
abbrev SameNumbers (bodies : BodyRelation σ ν) (builders others : Builders σ ν) : Prop :=
  ∀ number, Option.Rel bodies.Builders (builders.get? number) (others.get? number)

namespace SameNumbers

/-- A builder may be kept under a number on both sides. -/
theorem insert (same : SameNumbers bodies builders others) (number : Nat) {builder other : Builder σ ν}
    (alike : bodies.Builders builder other) :
    SameNumbers bodies (builders.insert number builder) (others.insert number other) := by
  intro any
  rw [Registry.get?_insert, Registry.get?_insert]
  split
  · exact .some alike
  · exact same any

/-- A builder may be given up on both sides. -/
theorem erase (same : SameNumbers bodies builders others) (number : Nat) :
    SameNumbers bodies (builders.erase number) (others.erase number) := by
  intro any
  rw [Registry.get?_erase, Registry.get?_erase]
  split
  · exact .none
  · exact same any

end SameNumbers

/-- A number stands for builders that are alike, or for none on both sides. -/
theorem find (same : SameNumbers bodies builders others) (number : Nat) :
    Exec.EndAlike bodies histories bodies.Builders (Command.find builders number)
      (Command.find others number) := by
  have builder := same number
  unfold Command.find
  generalize builders.get? number = found at builder ⊢
  generalize others.get? number = foundToo at builder ⊢
  cases builder with
  | none => exact throw _
  | some alike => exact .pure alike

/-- What two commands yield: the same, and builders that are alike are left. -/
abbrev Yield (bodies : BodyRelation σ ν) {κ : Type} (first second : κ × Builders σ ν) : Prop :=
  first.1 = second.1 ∧ SameNumbers bodies first.2 second.2

variable (likeness : Likeness (World.Alike bodies histories) (World.Alike bodies histories) perform
  counterpart bodies fun _ => True) (closed : histories.Closed)

include likeness closed

/-- Every command ends alike. What it yields is the same, and the builders that are left have the
same numbers. -/
theorem command (same : SameNumbers bodies builders others) {command other : Command σ ν ρ}
    (alike : command.Alike bodies other) :
    Exec.EndAlike bodies histories (Yield bodies) (command.exec perform builders)
      (other.exec counterpart others) := by
  cases alike with
  | openBuilder number userData tables =>
    have released : Exec.EndAlike bodies histories (· = ·)
        ((builders.get? number).forM Builder.release) ((others.get? number).forM Builder.release) := by
      have builder := same number
      generalize builders.get? number = found at builder ⊢
      generalize others.get? number = foundToo at builder ⊢
      cases builder with
      | none => exact .pure rfl
      | some alike => exact release closed alike
    exact released.bind_same fun _ => .pure ⟨rfl, same.insert number (.new userData tables)⟩
  | usePageTable number pageTable =>
    exact (find same number).bind fun _ _ alike =>
      .pure ⟨rfl, same.insert number { alike with pageTable := rfl }⟩
  | useOptions number options =>
    exact (find same number).bind fun _ _ alike =>
      .pure ⟨rfl, same.insert number { alike with options := rfl }⟩
  | installCoprocessor number slot tables =>
    apply (find same number).bind
    intro builder copy alike
    apply (withCoprocessor closed alike slot tables).bind
    intro result resultToo results
    cases results with
    | ok installed => exact .pure ⟨rfl, same.insert number installed⟩
    | error reason => exact .pure ⟨rfl, same.erase number⟩
  | installCoprocessors number tables =>
    apply (find same number).bind
    intro builder copy alike
    exact (withCoprocessors closed alike tables).bind fun _ _ replaced =>
      .pure ⟨rfl, same.insert number replaced⟩
  | dropBuilder number =>
    apply (find same number).bind
    intro builder copy alike
    exact (release closed alike).bind_same fun _ => .pure ⟨rfl, same.erase number⟩
  | build number engine =>
    apply (find same number).bind
    intro builder copy alike
    apply (build likeness closed alike engine).bind_same
    intro result
    cases result with
    | ok handle => exact .pure ⟨rfl, same.erase number⟩
    | error reason => exact .pure ⟨rfl, same.erase number⟩
  | construct userData tables pageTable alike engine =>
    exact (wrapperConstruct likeness closed userData tables pageTable alike engine).bind_same
      fun _ => .pure ⟨rfl, same⟩
  | delete handle =>
    exact (delete likeness closed handle).bind_same fun _ => .pure ⟨rfl, same⟩
  | call bodiesAlike =>
    exact (likeness.exec _ _ _ bodiesAlike).bind_same fun _ => .pure ⟨rfl, same⟩

/-- Sessions of commands that are alike end alike. -/
theorem commands {list other : List (Command σ ν ρ)}
    (alike : List.Forall₂ (Command.Alike bodies) list other) {builders others : Builders σ ν}
    (same : SameNumbers bodies builders others) :
    Exec.EndAlike bodies histories (Yield bodies) (Command.execAll perform builders list)
      (Command.execAll counterpart others other) := by
  induction alike generalizing builders others with
  | nil => exact .pure ⟨rfl, same⟩
  | cons head _ ih =>
    apply (command likeness closed same head).bind
    rintro ⟨outcome, builders⟩ ⟨_, others⟩ ⟨rfl, same⟩
    apply (ih same).bind
    rintro ⟨outcomes, builders⟩ ⟨_, others⟩ ⟨rfl, same⟩
    exact .pure ⟨rfl, same⟩

end World.Alike

end RecompilerAdapter
