/-
Module: RecompilerAdapter.Proofs.Ownership
Purpose: Every table that was handed over is in exactly one place: with a builder, with the engine of a
  living wrapper, or released. So no table is missed and none is released twice, however a session goes,
  and the compile entries of a table that was released are not called any more.
Trusted boundary: none
Main exports: Balanced, Spending, Ownership, Command.Completes.balanced, Command.sessionWorld_balanced
-/
import RecompilerAdapter.Proofs.Holdings
import RecompilerAdapter.Proofs.SessionCoherence

namespace RecompilerAdapter

variable {σ ν ρ : Type} {world before after : World σ ν} {handed kept : List Context}

/-! ### Places are balanced -/

/-- A compile entry is called only while its table has not been released as often as it was handed
over. -/
def Spares (handed : List Context) (history : List (Event ν)) : Event ν → Prop
  | .compiling _ _ context _ => (released history).count context < handed.count context
  | _ => True

/-- What was handed over is kept, with engines of living wrappers, or released, and the numbers add
up for each context. `kept` is what builders hold and what a command has in its hands. -/
structure Balanced (handed kept : List Context) (world : World σ ν) : Prop where
  distinct : world.wrappers.keys.Nodup
  balance : ∀ context, handed.count context =
    kept.count context + (engaged world).count context + (released world.history).count context
  spares : EveryEvent (Spares handed) world.history

/-- What moves record: no release, and compile calls only of tables that engines have. The second
part needs that these tables have not been released, which the balance provides. -/
structure Spending (before after : World σ ν) (events : List (Event ν)) : Prop where
  history : after.history = before.history ++ events
  releases : released events = []
  spares : ∀ handed : List Context, (∀ context ∈ engaged before,
    (released before.history).count context < handed.count context) →
    Continues (Spares handed) before.history events

/-- An engine at work holds the contexts of its coprocessors. -/
theorem engaged_of_atWork {worker : Handle} {configuration : EngineConfiguration σ ν}
    {bridge : CoprocessorBridge σ ν} (distinct : world.wrappers.keys.Nodup)
    (work : AtWork world worker configuration) (employed : some bridge ∈ configuration.coprocessors) :
    bridge.table.context ∈ engaged world := by
  obtain ⟨wrapper, present, rfl⟩ := work.employed
  refine List.mem_flatMap.2 ⟨(worker, wrapper), ?_, EngineConfiguration.context_mem employed⟩
  exact (Registry.get?_eq_some_iff distinct).1 present

/-- Among the events that may be told on their own are no releases, and the compile calls among them
are those of an engine at work. -/
theorem Admissible.spending {event : Event ν} (distinct : before.wrappers.keys.Nodup)
    (admissible : Admissible before event) : Spending before (before.record event) [event] := by
  refine ⟨by simp, ?_, fun handed spared => ⟨?_, trivial⟩⟩
  · cases event <;> first | rfl | exact admissible.elim
  · cases event with
    | compiling slot index context request =>
      obtain ⟨worker, configuration, bridge, work, employed, -, -, rfl⟩ := admissible
      exact spared _ (engaged_of_atWork distinct work employed)
    | _ => trivial

/-- So a move releases nothing, and calls only entries of tables that are held. -/
theorem Move.spending (move : Move before after) (distinct : before.wrappers.keys.Nodup) :
    ∃ events, Spending before after events := by
  cases move with
  | record admissible => exact ⟨_, admissible.spending distinct⟩
  | access | script | tune => exact ⟨[], (List.append_nil _).symm, rfl, fun _ _ => trivial⟩
  | request | observe | adjust =>
    exact ⟨_, World.history_recordAll _ _, rfl, fun _ _ => ⟨trivial, trivial, trivial⟩⟩
  | leave =>
    exact ⟨_, World.history_recordAll _ _, rfl, fun _ _ => ⟨trivial, trivial, trivial, trivial⟩⟩
  | reject =>
    refine ⟨_, (World.history_recordAll _ _).trans (congrArg (· ++ _) ?_), rfl, fun _ _ =>
      ⟨trivial, trivial, trivial⟩⟩
    exact World.scheduled_history _ _
  | enter =>
    refine ⟨_, (World.history_recordAll _ _).trans (congrArg (· ++ _) ?_), rfl, fun _ _ =>
      ⟨trivial, trivial, trivial, trivial⟩⟩
    exact World.scheduled_history _ _
  | keep => exact ⟨_, World.history_record _ _, rfl, fun _ _ => ⟨trivial, trivial⟩⟩

/-- No move puts a wrapper behind a handle that is taken. -/
theorem Move.distinct (move : Move before after) (distinct : before.wrappers.keys.Nodup) :
    after.wrappers.keys.Nodup := by
  cases move with
  | record | request | access | observe | reject | script => simpa using distinct
  | adjust | enter | leave | tune | keep =>
    simpa [World.place] using Registry.nodup_insert distinct _ _

/-- Nor do any number of moves. -/
theorem Moves.distinct (moves : Moves before after) (distinct : before.wrappers.keys.Nodup) :
    after.wrappers.keys.Nodup := by
  induction moves with
  | refl => exact distinct
  | tail _ move ih => exact move.distinct ih

/-- So what was released stays as it is while wrappers are run and changed. -/
theorem Moves.released_eq (moves : Moves before after) (distinct : before.wrappers.keys.Nodup) :
    released after.history = released before.history := by
  induction moves with
  | refl => rfl
  | tail moves move ih =>
    obtain ⟨events, spending⟩ := move.spending (Moves.distinct moves distinct)
    rw [spending.history, released_append, spending.releases, List.append_nil, ih]

/-- What engines hold stays the same, up to order, where no wrapper is built or deleted. -/
theorem engaged_perm (steady : Steady before after) (distinct : before.wrappers.keys.Nodup)
    (afterDistinct : after.wrappers.keys.Nodup) : (engaged after).Perm (engaged before) := by
  apply Registry.gather_perm afterDistinct distinct
  intro handle
  have same := congrArg (Option.map fun parts => parts.2.1.contexts) (steady.wrappers handle)
  rwa [Option.map_map, Option.map_map] at same

/-- Events that call no compile entry may be told after any release. -/
theorem continues_plain {events : List (Event ν)} (plain : ∀ event ∈ events, event.Plain)
    (history : List (Event ν)) : Continues (Spares handed) history events := by
  induction events generalizing history with
  | nil => trivial
  | cons event events ih =>
    refine ⟨?_, ih (fun later isLater => plain later (List.mem_cons_of_mem event isLater)) _⟩
    have isPlain := plain event List.mem_cons_self
    cases event <;> trivial

namespace Balanced

/-- A table that an engine has is not released as often as it was handed over. -/
theorem spared (balanced : Balanced handed kept world) {context : Context}
    (isEngaged : context ∈ engaged world) :
    (released world.history).count context < handed.count context := by
  have positive := List.count_pos_iff.2 isEngaged
  have balance := balanced.balance context
  omega

/-- Places stay balanced where nothing is released and engines hold the same. -/
theorem spend {events : List (Event ν)} (balanced : Balanced handed kept before)
    (spending : Spending before after events) (distinct : after.wrappers.keys.Nodup)
    (same : (engaged after).Perm (engaged before)) : Balanced handed kept after := by
  refine ⟨distinct, fun context => ?_, ?_⟩
  · rw [spending.history, released_append, spending.releases, List.append_nil, same.count_eq]
    exact balanced.balance context
  · rw [spending.history]
    exact balanced.spares.append (spending.spares handed fun _ => balanced.spared)

/-- A move keeps places balanced. -/
theorem move (balanced : Balanced handed kept before) (move : Move before after) :
    Balanced handed kept after := by
  obtain ⟨events, spending⟩ := move.spending balanced.distinct
  have distinct := move.distinct balanced.distinct
  exact balanced.spend spending distinct (engaged_perm move.steady balanced.distinct distinct)

/-- So do any number of moves. -/
theorem moves (balanced : Balanced handed kept before) (moves : Moves before after) :
    Balanced handed kept after := by
  induction moves with
  | refl => exact balanced
  | tail _ move ih => exact ih.move move

/-- More tables are handed over, and kept. -/
theorem handOver (balanced : Balanced handed kept world) (more : List Context) :
    Balanced (handed ++ more) (kept ++ more) world := by
  refine ⟨balanced.distinct, fun context => ?_, fun before event rest split => ?_⟩
  · have balance := balanced.balance context
    simp only [List.count_append]
    omega
  · have spares := balanced.spares before event rest split
    cases event with
    | compiling slot index context request =>
      simp only [Spares, List.count_append] at spares ⊢
      omega
    | _ => trivial

/-- Some of the tables that are kept are released. -/
theorem release {rest : List Context} {events : List (Event ν)}
    (balanced : Balanced handed kept world) (plain : ∀ event ∈ events, event.Plain)
    (releases : ∀ context, kept.count context =
      rest.count context + (released events).count context) :
    Balanced handed rest (world.recordAll events) := by
  refine ⟨by simpa using balanced.distinct, fun context => ?_, ?_⟩
  · have balance := balanced.balance context
    have isReleased := releases context
    have same : engaged (world.recordAll events) = engaged world := by simp [engaged]
    rw [same, World.history_recordAll, released_append, List.count_append]
    omega
  · rw [World.history_recordAll]
    exact balanced.spares.append (continues_plain plain _)

/-- Where tables are kept does not matter. -/
theorem rearrange {rest : List Context} (balanced : Balanced handed kept world)
    (same : ∀ context, kept.count context = rest.count context) : Balanced handed rest world :=
  ⟨balanced.distinct, fun context => same context ▸ balanced.balance context, balanced.spares⟩

/-- Opening a slot for a new wrapper moves no table. -/
theorem prepared (balanced : Balanced handed kept world) (builder : Builder σ ν) :
    Balanced handed kept (world.prepared builder) := by
  have allocated : Balanced handed kept { world with slots := world.slots.allocate.2 } :=
    ⟨balanced.distinct, balanced.balance, balanced.spares⟩
  show Balanced handed kept
    (World.recordAll { world with slots := world.slots.allocate.2 } [.log (.constructing _ _)])
  exact allocated.release (by simp [Event.Plain]) fun _ => rfl

/-- An engine that gets its wrapper takes the tables that it has been given out of keeping. -/
theorem attached {rest : List Context} {slot : HandleSlot} {data : UserData} {engine : Engine σ ν}
    (balanced : Balanced handed kept world)
    (unnamed : world.wrappers.get? ⟨world.built + 1⟩ = none)
    (taken : ∀ context, kept.count context =
      rest.count context + engine.configuration.contexts.count context) :
    Balanced handed rest (world.attached slot data engine) := by
  have history := world.history_attached slot data engine
  have places : engaged (world.attached slot data engine) =
      engine.configuration.contexts ++ engaged world := by
    show Registry.gather _ (world.wrappers.insert _ _) = _
    rw [Registry.gather_insert, Registry.erase_of_get?_eq_none unnamed]
    rfl
  refine ⟨Registry.nodup_insert balanced.distinct _ _, fun context => ?_, ?_⟩
  · have balance := balanced.balance context
    have isTaken := taken context
    rw [history, places, released_append, List.count_append, List.count_append]
    simp only [released, List.filterMap_cons, Event.release?, List.filterMap_nil, List.count_nil]
    simp only [released] at balance
    omega
  · rw [history]
    exact balanced.spares.append ⟨trivial, trivial⟩

/-- Deleting a wrapper releases the tables of its engine. They leave the wrapper and are told to be
released in the same command. -/
theorem remove {handle : Handle} {wrapper : Wrapper σ ν} (balanced : Balanced handed kept world)
    (present : world.wrappers.get? handle = some wrapper) :
    Balanced handed kept (World.remove handle (world.recordAll
      (.log (.destroyingEngine wrapper.userData) :: wrapper.engine.configuration.releases))) := by
  have history : (World.remove handle (world.recordAll (.log (.destroyingEngine wrapper.userData) ::
      wrapper.engine.configuration.releases))).history = world.history ++
        (.log (.destroyingEngine wrapper.userData) :: wrapper.engine.configuration.releases) :=
    World.history_recordAll _ _
  have wrappers : (World.remove handle (world.recordAll (.log (.destroyingEngine wrapper.userData) ::
      wrapper.engine.configuration.releases))).wrappers = world.wrappers.erase handle :=
    congrArg (Registry.erase · handle) (World.wrappers_recordAll _ _)
  have released : released (Event.log (ν := ν) (.destroyingEngine wrapper.userData) ::
      wrapper.engine.configuration.releases) = wrapper.engine.configuration.contexts :=
    EngineConfiguration.released_releases _
  refine ⟨?_, fun context => ?_, ?_⟩
  · rw [wrappers]
    exact Registry.nodup_erase balanced.distinct handle
  · have balance := balanced.balance context
    have places : (engaged world).count context = (wrapper.engine.configuration.contexts ++
        (world.wrappers.erase handle).gather _).count context :=
      (Registry.gather_found balanced.distinct present).count_eq context
    rw [List.count_append] at places
    rw [history, released_append, List.count_append, released, engaged, wrappers]
    omega
  · rw [history]
    exact balanced.spares.append (continues_plain (Command.deleting_plain wrapper) _)

end Balanced

/-! ### Sessions -/

/-- What a builder holds, apart from what the others hold. -/
theorem count_held {builders : Builders σ ν} {number : Nat} {builder : Builder σ ν}
    (nodup : builders.keys.Nodup) (present : builders.get? number = some builder)
    (context : Context) : (held builders).count context =
      builder.coprocessors.contexts.count context +
        (held (builders.erase number)).count context := by
  have places : (held builders).count context =
      (builder.coprocessors.contexts ++ held (builders.erase number)).count context :=
    (Registry.gather_found nodup present).count_eq context
  rwa [List.count_append] at places

/-- A number that is given to a builder counts for that builder alone, since what was there before
is gone. -/
theorem count_held_insert (builders : Builders σ ν) (number : Nat) (builder : Builder σ ν)
    (context : Context) : (held (builders.insert number builder)).count context =
      builder.coprocessors.contexts.count context +
        (held (builders.erase number)).count context := by
  rw [held, Registry.gather_insert, List.count_append]
  rfl

/-- A new builder holds nothing. -/
theorem Builder.contexts_new (userData : UserData) (callbacks : CallbackTable σ ν) :
    (Builder.new userData callbacks).coprocessors.contexts = [] := by
  simp [Builder.new, CoprocessorTables.contexts]

namespace Balanced

/-- Building puts what the builder held with the engine of the new wrapper, or releases it. -/
theorem builds {rest : List Context} {builder : Builder σ ν} {result : Except EngineError Handle}
    (balanced : Balanced handed kept world) (coherent : Coherent none world)
    (builds : builder.Builds world result after)
    (taken : ∀ context, kept.count context =
      rest.count context + builder.coprocessors.contexts.count context) :
    Balanced handed rest after := by
  cases builds with
  | @built probed engine reaches configured fresh =>
    have constructed := (balanced.prepared builder).moves reaches.moves
    refine constructed.attached ?_ fun context => ?_
    · have stillCoherent := reaches.moves.coherent (coherent.prepared builder)
      by_contra named
      obtain ⟨wrapper, present⟩ := Option.ne_none_iff_exists'.1 named
      exact stillCoherent.next_unattached _ _ (stillCoherent.own _ wrapper present)
    · rw [configured, builder.contexts_configuration]
      exact taken context
  | refused reaches =>
    apply ((balanced.prepared builder).moves reaches.moves).release
      (EngineConfiguration.releases_plain _)
    intro context
    rw [EngineConfiguration.released_releases, builder.contexts_configuration]
    exact taken context

end Balanced

namespace Command

variable {builders remaining : Builders σ ν} {command : Command σ ν ρ} {outcome : Outcome ρ}

/-- Each number stands for one builder at a time. -/
theorem Completes.nodup (completes : Completes builders world command outcome remaining after)
    (nodup : builders.keys.Nodup) : remaining.keys.Nodup := by
  cases completes with
  | openBuilder | usePageTable | useOptions | install | installAll =>
    exact Registry.nodup_insert nodup _ _
  | reject | dropBuilder | build | refuse => exact Registry.nodup_erase nodup _
  | construct | delete | call => exact nodup

/-- After a command, what it handed over is in its place, too. It is held by a builder, engaged by a
wrapper, or released. -/
theorem Completes.balanced (completes : Completes builders world command outcome remaining after)
    (coherent : Coherent none world) (nodup : builders.keys.Nodup)
    (balanced : Balanced handed (held builders) world) :
    Balanced (handed ++ command.handedOver) (held remaining) after := by
  have handedOver := balanced.handOver command.handedOver
  -- Commands on a builder move tables between its slots, so they only count anew what is held.
  -- Building moves them to a wrapper or releases them, which has its own lemma.
  cases completes with
  | @openBuilder number userData callbacks =>
    apply handedOver.release (opening_plain _)
    intro context
    rw [count_held_insert, Builder.contexts_new]
    cases present : builders.get? number with
    | none => simp [Registry.erase_of_get?_eq_none present, Command.handedOver, released]
    | some builder =>
      have places := count_held nodup present context
      simp only [Command.handedOver, List.append_nil, Option.map_some, Option.getD_some,
        Builder.released_releases, List.count_nil]
      omega
  | usePageTable present | useOptions present =>
    apply handedOver.rearrange
    intro context
    have places := count_held nodup present context
    rw [count_held_insert]
    simp only [Command.handedOver, List.append_nil]
    exact places
  | @install number slot table builder present inRange =>
    apply handedOver.release (CoprocessorTable.replaces_plain _ _)
    intro context
    have places := count_held nodup present context
    have replaced := builder.coprocessors.count_set (ν := ν) inRange table context
    rw [count_held_insert, List.count_append]
    simp only [Command.handedOver]
    omega
  | @reject number slot table builder present outOfRange =>
    apply handedOver.release (rejecting_plain _ _)
    intro context
    have places := count_held nodup present context
    have released : released (Event.destroyed table.context :: builder.releases) =
        [table.context] ++ builder.coprocessors.contexts :=
      congrArg ([table.context] ++ ·) builder.released_releases
    rw [released, List.count_append, List.count_append]
    simp only [Command.handedOver]
    omega
  | @installAll number tables builder present =>
    apply handedOver.release builder.releases_plain
    intro context
    have places := count_held nodup present context
    rw [count_held_insert, List.count_append, builder.released_releases]
    simp only [Command.handedOver]
    omega
  | @dropBuilder number builder present =>
    apply handedOver.release builder.releases_plain
    intro context
    have places := count_held nodup present context
    rw [List.count_append, builder.released_releases]
    simp only [Command.handedOver, List.count_nil]
    omega
  | build present builds | refuse present builds =>
    apply handedOver.builds coherent builds
    intro context
    have places := count_held nodup present context
    rw [List.count_append]
    simp only [Command.handedOver, List.count_nil]
    omega
  | construct builds =>
    exact handedOver.builds coherent builds fun context => List.count_append
  | delete present =>
    apply (handedOver.remove present).rearrange
    intro context
    simp [Command.handedOver]
  | call reaches =>
    apply (handedOver.moves reaches.moves).rearrange
    intro context
    simp [Command.handedOver]

end Command

/-- All contexts of tables that commands hand over. -/
def Command.allHandedOver (commands : List (Command σ ν ρ)) : List Context :=
  commands.flatMap Command.handedOver

/-- By induction on the commands of a session, places are balanced when all of them have
completed. -/
theorem Session.balanced {own : σ} {commands : List (Command σ ν ρ)} {outcomes : List (Outcome ρ)}
    {builders : Builders σ ν} (session : Session own commands outcomes builders world) :
    builders.keys.Nodup ∧
      Balanced (Command.allHandedOver commands) (held builders) world := by
  induction session with
  | nil => exact ⟨.nil, .nil, fun _ => rfl, .nil⟩
  | @snoc commands outcomes builders remaining world after command outcome session completes ih =>
    obtain ⟨nodup, balanced⟩ := ih
    refine ⟨completes.nodup nodup, ?_⟩
    rw [Command.allHandedOver, List.flatMap_append, List.flatMap_singleton]
    exact completes.balanced session.coherent nodup balanced

/-! ### Sessions that stop -/

/-- The last event of a session that ends for good leaves the wrappers alone. -/
theorem Final.wrappers {stop : Stop} (final : Final before stop after) :
    after.wrappers = before.wrappers := by
  cases final with
  | dangling | reentrant => simp
  | _ => rfl

/-- It releases nothing either. -/
theorem Final.spending {stop : Stop} (final : Final before stop after) :
    ∃ events, Spending before after events := by
  cases final with
  | stuck => exact ⟨[], (List.append_nil _).symm, rfl, fun _ _ => trivial⟩
  | dangling | reentrant =>
    refine ⟨_, (World.history_record _ _).trans (congrArg (· ++ _) ?_), rfl, fun _ _ =>
      ⟨trivial, trivial⟩⟩
    exact World.scheduled_history _ _
  | unarranged | unboundRequest | unboundCompile | fallback =>
    exact ⟨_, World.history_record _ _, rfl, fun _ _ => ⟨trivial, trivial⟩⟩

namespace Balanced

variable {stop : Stop}

/-- So places are still balanced where a call stops. -/
theorem halts (balanced : Balanced handed kept before) (halts : Halts before stop after) :
    Balanced handed kept after := by
  obtain ⟨last, moves, final⟩ := halts
  have there := balanced.moves moves
  obtain ⟨events, spending⟩ := final.spending
  apply there.spend spending (final.wrappers ▸ there.distinct)
  rw [engaged, final.wrappers]
  exact .refl _

/-- An event that releases nothing is recorded. -/
theorem record {event : Event ν} (balanced : Balanced handed kept world)
    (releases : event.release? = none) (spares : Spares handed world.history event) :
    Balanced handed kept (world.record event) := by
  have same : released (world.history ++ [event]) = released world.history := by
    simp [released, releases]
  refine ⟨balanced.distinct, fun other => ?_, ?_⟩
  · rw [World.history_record, same]
    exact balanced.balance other
  · rw [World.history_record]
    exact balanced.spares.append ⟨spares, trivial⟩

/-- The compile entries of a table that is kept may be called. -/
theorem compiling (balanced : Balanced handed kept world) {bridge : HandleSlot} {slot : Nat}
    {context : Context} {request : CompileRequest} (isKept : context ∈ kept) :
    Balanced handed kept (world.record (.compiling bridge slot context request)) := by
  have positive := List.count_pos_iff.2 isKept
  have balance := balanced.balance context
  apply balanced.record rfl
  simp only [Spares]
  omega

/-- And where constructing an engine stops, with its tables still counted as the builder's. -/
theorem probing {builder : Builder σ ν} {slot : HandleSlot} (balanced : Balanced handed kept before)
    (isKept : ∀ context ∈ builder.coprocessors.contexts, context ∈ kept)
    (halts : Scripted.HaltsProbing (builder.configuration slot) before stop after) :
    Balanced handed kept after := by
  rcases halts with halts | ⟨middle, bridge, request, moves, employed, halts⟩
  · exact balanced.halts halts
  · refine ((balanced.moves moves).compiling (isKept _ ?_)).halts halts
    rw [← builder.contexts_configuration slot]
    exact EngineConfiguration.context_mem employed

end Balanced

/-- A command that stops keeps what it hands over, unless it is a foreign constructor whose engine
was refused. -/
theorem Command.Stops.balanced {builders : Builders σ ν} {command : Command σ ν ρ} {stop : Stop}
    (stops : Command.Stops builders world command stop after) (coherent : Coherent none world)
    (nodup : builders.keys.Nodup) (balanced : Balanced handed (held builders) world) :
    Balanced (handed ++ command.handedOver)
      (held builders ++ if stop = .fatal .constructionFailed then [] else command.handedOver)
      after := by
  have handedOver := balanced.handOver command.handedOver
  cases stops with
  | stuck harmless =>
    rw [if_neg (harmless _)]
    exact handedOver
  | @build number engine builder stop after present halts =>
    rw [if_neg halts.ne_constructionFailed]
    refine (handedOver.prepared builder).probing (fun context isHeld => ?_) halts
    refine List.mem_append_left _ (List.count_pos_iff.1 ?_)
    have positive := List.count_pos_iff.2 isHeld
    have places := count_held nodup present context
    omega
  | construct halts =>
    rw [if_neg halts.ne_constructionFailed]
    exact (handedOver.prepared _).probing (fun _ => List.mem_append_right _) halts
  | fail builds =>
    rw [if_pos rfl]
    have refused := handedOver.builds coherent builds fun _ => List.count_append
    rw [List.append_nil]
    exact refused.record rfl trivial
  | call halts =>
    rw [if_neg halts.ne_constructionFailed]
    exact handedOver.halts halts

/-- Where a call stops, engines hold what they held when it began. -/
theorem Halts.engaged_perm {stop : Stop} (halts : Halts before stop after)
    (distinct : before.wrappers.keys.Nodup) : (engaged after).Perm (engaged before) := by
  obtain ⟨last, moves, final⟩ := halts
  rw [engaged, final.wrappers]
  exact RecompilerAdapter.engaged_perm moves.steady distinct (Moves.distinct moves distinct)

/-- The same where constructing an engine stops. -/
theorem HaltsProbing.engaged_perm {configuration : EngineConfiguration σ ν} {stop : Stop}
    (halts : Scripted.HaltsProbing configuration before stop after)
    (distinct : before.wrappers.keys.Nodup) : (engaged after).Perm (engaged before) := by
  rcases halts with halts | ⟨middle, bridge, request, moves, -, halts⟩
  · exact halts.engaged_perm distinct
  · have still := Moves.distinct moves distinct
    have probed := RecompilerAdapter.engaged_perm moves.steady distinct still
    have compiled := halts.engaged_perm still
    exact compiled.trans probed

/-- Living wrappers keep what they have when a command stops. -/
theorem Command.Stops.engaged_perm {builders : Builders σ ν} {command : Command σ ν ρ} {stop : Stop}
    (stops : Command.Stops builders world command stop after)
    (distinct : world.wrappers.keys.Nodup) : (engaged after).Perm (engaged world) := by
  cases stops with
  | stuck => exact .refl _
  | build _ halts | construct halts =>
    have same := HaltsProbing.engaged_perm halts distinct
    exact same
  | call halts => exact halts.engaged_perm distinct
  | fail builds =>
    cases builds with
    | refused reaches =>
      have still := Moves.distinct reaches.moves distinct
      have same := RecompilerAdapter.engaged_perm reaches.steady distinct still
      simp only [engaged, World.wrappers_record, World.wrappers_recordAll]
      exact same

namespace Command

variable {bound : Nat} {own : σ} {commands : List (Command σ ν ρ)}

/-- All that was handed over comes from the commands that have completed, the one that stopped, and
those that were never reached. -/
theorem allHandedOver_split (completed rest : List (Command σ ν ρ)) (command : Command σ ν ρ) :
    allHandedOver (completed ++ command :: rest) =
      allHandedOver completed ++ command.handedOver ++ allHandedOver rest := by
  simp [allHandedOver]

/-- Wherever a session ends, places are balanced for what was handed over until then. -/
theorem sessionWorld_balanced (bound : Nat) (own : σ) (commands : List (Command σ ν ρ)) :
    ∃ handed kept, Balanced handed kept (sessionWorld bound own commands) ∧
      ∀ context, handed.count context ≤ (allHandedOver commands).count context := by
  cases ends : sessionEnd bound own commands with
  | ok result after =>
    rw [sessionWorld_of_ok ends]
    exact ⟨_, _, (session_of_end ends).balanced.2, fun _ => Nat.le_refl _⟩
  | error stop after =>
    rw [sessionWorld_of_error ends]
    obtain ⟨completed, command, rest, outcomes, builders, world, rfl, -, session, -, stops⟩ :=
      stopsAmong_of_end ends
    obtain ⟨nodup, balanced⟩ := session.balanced
    refine ⟨_, _, stops.balanced session.coherent nodup balanced, fun context => ?_⟩
    rw [allHandedOver_split]
    exact (List.sublist_append_left _ (allHandedOver rest)).count_le context

end Command

/-- Each table that is handed over in a session is in one place for each time: with a builder, with
the engine of a living wrapper, or released. This is said of every moment, of completed sessions and
of those that stop. -/
structure Ownership (bound : Nat) (own : σ) (commands : List (Command σ ν ρ)) : Prop where
  /-- After the last command, it is with a builder, with the engine of a living wrapper, or
  released. -/
  settled : ∀ outcomes builders world,
    Command.sessionEnd bound own commands = .ok (outcomes, builders) world →
    (Command.allHandedOver commands).Perm
      (held builders ++ engaged world ++ released world.history)
  /-- It stays there at every moment at which code of a caller or an engine behind a wrapper is at
  work next. -/
  meanwhile : ∀ outcomes builders between world,
    Command.sessionEnd bound own commands = .ok (outcomes, builders) between →
    Moves between world →
    (Command.allHandedOver commands).Perm
      (held builders ++ engaged world ++ released world.history) ∧
    (engaged world).Perm (engaged between) ∧ released world.history = released between.history
  /-- When no builder is left and no wrapper lives, it is released. -/
  closed : ∀ outcomes builders world,
    Command.sessionEnd bound own commands = .ok (outcomes, builders) world →
    (∀ number, builders.get? number = none) → (∀ handle, world.wrappers.get? handle = none) →
    (Command.allHandedOver commands).Perm (released world.history)
  /-- When a command stops, living wrappers have what they had. What the command brings along has
  not been released, unless it is a foreign constructor whose engine was refused: that has released
  all of it. Code of a caller may stop its command wherever it is called, so this is also said of
  every moment at which it is called. -/
  stopped : ∀ stop after, Command.sessionEnd bound own commands = .error stop after →
    ∃ completed command rest outcomes builders world, commands = completed ++ command :: rest ∧
      Command.sessionEnd bound own completed = .ok (outcomes, builders) world ∧
      (engaged after).Perm (engaged world) ∧
      (Command.allHandedOver completed ++
          if stop = .fatal .constructionFailed then command.handedOver else []).Perm
        (held builders ++ engaged after ++ released after.history)
  /-- At no time it is released once too often. -/
  once : ∀ before rest context,
    (Command.sessionWorld bound own commands).history = before ++ rest →
    (released before).count context ≤ (Command.allHandedOver commands).count context
  /-- Its compile entries are called only while it has been released less often than it was handed
  over. Of the commands up to a call, this says that what is called was handed over by then. -/
  spared : EveryEvent (Spares (Command.allHandedOver commands))
    (Command.sessionWorld bound own commands).history

/-- Each table that was handed over is in exactly one place, wherever a session ends. The fields
count the contexts of the same balance, at the end of the session or at any moment of it. -/
theorem ownership (bound : Nat) (own : σ) (commands : List (Command σ ν ρ)) :
    Ownership bound own commands where
  settled outcomes builders world ends := by
    apply List.perm_iff_count.2
    intro context
    rw [List.count_append, List.count_append]
    exact (Command.session_of_end ends).balanced.2.balance context
  meanwhile outcomes builders between world ends moves := by
    obtain ⟨nodup, balanced⟩ := (Command.session_of_end ends).balanced
    have later := balanced.moves moves
    refine ⟨List.perm_iff_count.2 fun context => ?_,
      engaged_perm (Moves.steady moves) balanced.distinct later.distinct,
      Moves.released_eq moves balanced.distinct⟩
    rw [List.count_append, List.count_append]
    exact later.balance context
  closed outcomes builders world ends noBuilder noWrapper := by
    obtain ⟨nodup, balanced⟩ := (Command.session_of_end ends).balanced
    have none : held builders = [] := Registry.gather_eq_nil nodup noBuilder
    have nobody : engaged world = [] := Registry.gather_eq_nil balanced.distinct noWrapper
    apply List.perm_iff_count.2
    intro context
    have balance := balanced.balance context
    rw [none, nobody, List.count_nil] at balance
    omega
  stopped stop after ends := by
    obtain ⟨completed, command, rest, outcomes, builders, world, rfl, ran, session, -, stops⟩ :=
      Command.stopsAmong_of_end ends
    obtain ⟨nodup, balanced⟩ := session.balanced
    refine ⟨completed, command, rest, outcomes, builders, world, rfl, ran,
      stops.engaged_perm balanced.distinct, List.perm_iff_count.2 fun context => ?_⟩
    have balance := (stops.balanced session.coherent nodup balanced).balance context
    -- Only a foreign constructor that fails has released what was handed over with it; every other
    -- stop finds the tables where they were.
    by_cases failed : stop = .fatal .constructionFailed
    · simp only [if_pos failed, List.count_append, List.count_nil] at balance ⊢
      omega
    · simp only [if_neg failed, List.count_append, List.count_nil] at balance ⊢
      omega
  once before rest context split := by
    obtain ⟨handed, kept, balanced, bounded⟩ :=
      Command.sessionWorld_balanced bound own commands
    have balance := balanced.balance context
    have isBounded := bounded context
    rw [split, released_append, List.count_append] at balance
    omega
  spared before event rest split := by
    obtain ⟨handed, kept, balanced, bounded⟩ :=
      Command.sessionWorld_balanced bound own commands
    have spares := balanced.spares before event rest split
    cases event with
    | compiling slot index context request => exact Nat.lt_of_lt_of_le spares (bounded context)
    | _ => trivial

end RecompilerAdapter
