/-
Module: RecompilerAdapter.Proofs.ReplacedAnswers
Purpose: Coprocessors that defer what others grant. Where one coprocessor grants direct access to words,
  another one answers with a deferred operation that loads or stores the same words; everything else that
  the two do is the same. Two worlds whose engines differ in such coprocessors alone are related, and
  whatever does not ask a coprocessor keeps them related.
Trusted boundary: none
Main exports: ReplacedAnswer, CoprocessorBridge.Replaces, World.Replaces, Exec.Agree
-/
import RecompilerAdapter.Proofs.Correspondence
import RecompilerAdapter.Proofs.CompileEntries
import RecompilerAdapter.Proofs.Move

namespace RecompilerAdapter

variable {σ ν α β : Type}

/-! ### Bodies of one shape -/

/-- Two bodies do the same, and end with answers in a relation. They may not differ in what they
look at, so whatever they find in the same world they go on alike. -/
inductive Activity.Alike (agree : α → β → Prop) : Activity σ ν α → Activity σ ν β → Prop where
  | finish {answer : α} {other : β} (agrees : agree answer other) :
      Alike agree (.finish answer) (.finish other)
  | access {update : Shared σ → Shared σ} {next : Shared σ → Activity σ ν α}
      {onward : Shared σ → Activity σ ν β} (rest : ∀ before, Alike agree (next before) (onward before)) :
      Alike agree (.access update next) (.access update onward)
  | record {note : ν} {next : Activity σ ν α} {onward : Activity σ ν β}
      (rest : Alike agree next onward) : Alike agree (.record note next) (.record note onward)
  | perform {surface : Surface} {target : Handle} {action : Action}
      {next : Reply → Activity σ ν α} {onward : Reply → Activity σ ν β}
      (rest : ∀ reply, Alike agree (next reply) (onward reply)) :
      Alike agree (.perform surface target action next) (.perform surface target action onward)

/-- A body does the same as itself. -/
theorem Activity.Alike.refl {agree : α → α → Prop} (same : ∀ answer, agree answer answer)
    (body : Activity σ ν α) : Alike agree body body := by
  induction body with
  | finish answer => exact .finish (same answer)
  | access update next ih => exact .access ih
  | record note next ih => exact .record ih
  | perform surface target action next ih => exact .perform ih

/-! ### Deferred operations on words -/

namespace Activity

/-- The body yields the word at a location and does nothing else. This is what an engine does by
itself that was granted the word, but for how the word is reported. -/
def LoadsWord (location : Location) (body : Activity σ ν UInt64) : Prop :=
  ∀ perform world, body.exec perform world =
    .ok (world.shared.words.load location).toUInt64 world

/-- The body yields the words at two locations, the low one first, and does nothing else. -/
def LoadsWords (low high : Location) (body : Activity σ ν UInt64) : Prop :=
  ∀ perform world, body.exec perform world = .ok ((world.shared.words.load low).toUInt64 +
    4294967296 * (world.shared.words.load high).toUInt64) world

/-- The body stores a word at a location and does nothing else. -/
def StoresWord (location : Location) (word : UInt32) (body : Activity σ ν UInt64) : Prop :=
  ∀ perform world, ∃ value, body.exec perform world = .ok value { world with
    shared := { world.shared with words := world.shared.words.store location word } }

/-- The body stores two words, the low one first, and does nothing else. -/
def StoresWords (low high : Location) (lowWord highWord : UInt32)
    (body : Activity σ ν UInt64) : Prop :=
  ∀ perform world, ∃ value, body.exec perform world = .ok value { world with
    shared := { world.shared with
      words := (world.shared.words.store low lowWord).store high highWord } }

/-- The plain body that looks up a word and returns it loads that word. -/
theorem loadsWord_get (location : Location) : LoadsWord location (σ := σ) (ν := ν)
    (do return ((← get).words.load location).toUInt64) :=
  fun _ _ => rfl

end Activity

/-- A coprocessor's answer to a request, and what another one may answer in its place: the same, or
a deferred operation on the words that are granted. -/
inductive ReplacedAnswer : CompileRequest → WireCompiled (DeferredFunction σ ν) →
    WireCompiled (DeferredFunction σ ν) → Prop where
  | same {request : CompileRequest} (answer : WireCompiled (DeferredFunction σ ν)) :
      ReplacedAnswer request answer answer
  | getOneWord {two : Bool} {opc1 opc2 : UInt32} {crn crm : CoprocessorRegister}
      {location : Location} {raw : RawCallback (DeferredFunction σ ν)}
      (loads : ∀ handle, (raw.function handle raw.userArgument 0 0).LoadsWord location) :
      ReplacedAnswer (.getOneWord two opc1 crn crm opc2) (.oneWord (.access location))
        (.oneWord (.callback raw))
  | sendOneWord {two : Bool} {opc1 opc2 : UInt32} {crn crm : CoprocessorRegister}
      {location : Location} {raw : RawCallback (DeferredFunction σ ν)}
      (stores : ∀ handle first,
        (raw.function handle raw.userArgument first 0).StoresWord location first) :
      ReplacedAnswer (.sendOneWord two opc1 crn crm opc2) (.oneWord (.access location))
        (.oneWord (.callback raw))
  | getTwoWords {two : Bool} {opc : UInt32} {crm : CoprocessorRegister} {low high : Location}
      {raw : RawCallback (DeferredFunction σ ν)}
      (loads : ∀ handle, (raw.function handle raw.userArgument 0 0).LoadsWords low high) :
      ReplacedAnswer (.getTwoWords two opc crm) (.twoWords (.access (low, high)))
        (.twoWords (.callback raw))
  | sendTwoWords {two : Bool} {opc : UInt32} {crm : CoprocessorRegister} {low high : Location}
      {raw : RawCallback (DeferredFunction σ ν)}
      (stores : ∀ handle first second,
        (raw.function handle raw.userArgument first second).StoresWords low high first second) :
      ReplacedAnswer (.sendTwoWords two opc crm) (.twoWords (.access (low, high)))
        (.twoWords (.callback raw))

/-- A coprocessor in a slot, and one that defers some of what it grants. Both have the same context,
and their entries do the same until they answer. -/
structure CoprocessorBridge.Replaces (first second : CoprocessorBridge σ ν) : Prop where
  index : first.index = second.index
  slot : first.slot = second.slot
  context : first.table.context = second.table.context
  answers : ∀ request, (first.table.answer request).Alike (ReplacedAnswer request)
    (second.table.answer request)

/-- The engine with other coprocessors. Engines that differ in their coprocessors alone are written
in this way, so that everything else about them is the same by definition. -/
def Engine.equip (engine : Engine σ ν)
    (coprocessors : Vector (Option (CoprocessorBridge σ ν)) coprocessorCount) : Engine σ ν :=
  { engine with configuration := { engine.configuration with coprocessors := coprocessors } }

/-- Two stepping engines differ in their coprocessors alone, and those of the second one defer some
of what those of the first one grant. -/
structure Engine.Replaces (first second : Engine σ ν) : Prop where
  equipped : first.equip second.configuration.coprocessors = second
  stepping : first.mode.isStepping = true
  coprocessors : ∀ slot : Fin 16, Option.Rel CoprocessorBridge.Replaces
    first.configuration.coprocessors[slot] second.configuration.coprocessors[slot]

/-- Two wrappers differ in their coprocessors alone. -/
structure Wrapper.Replaces (first second : Wrapper σ ν) : Prop where
  userData : first.userData = second.userData
  state : first.state = second.state
  engine : first.engine.Replaces second.engine

/-- What a guest can tell of an event: that a compile entry has answered, but not what, and nothing
of deferred operations. -/
def Event.visible? : Event ν → Option (Event ν)
  | compiled bridge slot context request _ =>
    some (.compiled bridge slot context request .unsupported)
  | invoked .. => none
  | event => some event

/-- The events of a history as far as a guest can tell them. Calls of deferred operations and the
answers of compile entries are left out, as these are what is replaced. -/
def visible (history : List (Event ν)) : List (Event ν) :=
  history.filterMap Event.visible?

/-- Two worlds differ in the coprocessors of their engines alone, and in what the events tell of
these coprocessors' answers. -/
structure World.Replaces (first second : World σ ν) : Prop where
  shared : first.shared = second.shared
  slots : first.slots = second.slots
  built : first.built = second.built
  script : first.script = second.script
  wrappers : ∀ handle, Option.Rel Wrapper.Replaces (first.wrappers.get? handle)
    (second.wrappers.get? handle)
  events : visible first.history = visible second.history

/-- Two computations end alike in worlds that differ in their coprocessors alone. The worlds in
which they stop are compared, too. -/
abbrev Exec.Agree (agree : α → β → Prop) (computation : Exec σ ν α) (counterpart : Exec σ ν β) : Prop :=
  Exec.Corresponds World.Replaces World.Replaces World.Replaces agree computation counterpart

/-! ### Changes of engines -/

/-- A change of an engine that neither looks at its coprocessors nor touches its configuration or
its kind. -/
structure Engine.Uniform (update : Engine σ ν → Engine σ ν) : Prop where
  equip : ∀ engine coprocessors, update (engine.equip coprocessors) =
    (update engine).equip coprocessors
  configuration : ∀ engine, (update engine).configuration = engine.configuration
  kind : ∀ engine, (update engine).mode.isStepping = engine.mode.isStepping

/-- Engines stay replaced when both are changed in a way that does not depend on their equipment. -/
theorem Engine.Replaces.update {first second : Engine σ ν} {update : Engine σ ν → Engine σ ν}
    (replaces : first.Replaces second) (uniform : Engine.Uniform update) :
    (update first).Replaces (update second) := by
  have same := uniform.configuration second
  refine ⟨?_, ?_, ?_⟩
  · rw [same, ← uniform.equip, replaces.equipped]
  · rw [uniform.kind]
    exact replaces.stepping
  · intro slot
    rw [uniform.configuration, same]
    exact replaces.coprocessors slot

/-- Lending out parts is such a change. -/
theorem Engine.uniform_setLentParts (change : List EnginePart → List EnginePart) :
    Engine.Uniform (σ := σ) (ν := ν) fun engine =>
      Stepping.setLentParts (change (Stepping.lentParts engine)) engine := by
  have moded (lent : List EnginePart) (engine : Engine σ ν) : (Stepping.setLentParts lent engine) =
      { engine with mode := (Stepping.setLentParts lent engine).mode } := by
    unfold Stepping.setLentParts
    split <;> rfl
  refine ⟨fun engine coprocessors => ?_, fun engine => ?_, fun engine => ?_⟩
  · unfold Stepping.setLentParts Stepping.lentParts
    cases isMode : engine.mode <;> simp only [Engine.equip, isMode]
  · rw [moded]
  · unfold Stepping.setLentParts
    split
    · rename_i lent isMode
      rw [isMode]
      rfl
    · rfl

/-- So is what actions do to engines. -/
theorem Action.uniform_adjustment {action : Action} {update : Engine σ ν → Engine σ ν}
    (adjusts : action.adjustment? = some update) : Engine.Uniform update := by
  refine ⟨fun engine coprocessors => ?_, Action.configuration_adjustment adjusts, fun engine => ?_⟩
  · cases action <;> simp only [Action.adjustment?, reduceCtorEq, Option.some.injEq] at adjusts <;>
      subst adjusts <;> rfl
  · rw [Action.mode_adjustment adjusts]

/-! ### What keeps worlds related -/

/-- What is seen of a history is seen of its parts. -/
theorem visible_append (history events : List (Event ν)) :
    visible (history ++ events) = visible history ++ visible events :=
  List.filterMap_append

namespace World.Replaces

variable {first second : World σ ν}

/-- Events may be told on both sides that look the same. The answers of coprocessors do not, and
they are left out of what is seen. -/
theorem record_of_visible (replaces : first.Replaces second) {event other : Event ν}
    (alike : event.visible? = other.visible?) : (first.record event).Replaces (second.record other) := by
  refine { replaces with events := ?_ }
  have last : visible [event] = visible [other] := by
    simp only [visible, List.filterMap_cons, alike]
  rw [history_record, history_record, visible_append, visible_append, replaces.events, last]

/-- The same event may be told on both sides. -/
theorem record (replaces : first.Replaces second) (event : Event ν) :
    (first.record event).Replaces (second.record event) :=
  replaces.record_of_visible rfl

/-- Calls of deferred operations are not visible. -/
theorem record_invoked (replaces : first.Replaces second) (handle : Handle) (argument : UInt64)
    (firstWord secondWord : UInt32) :
    first.Replaces (second.record (.invoked handle argument firstWord secondWord)) := by
  refine { replaces with events := ?_ }
  rw [history_record, visible_append, replaces.events]
  exact (List.append_nil _).symm

/-- Wrappers may be put in place on both sides if one replaces the other. -/
theorem place (replaces : first.Replaces second) (handle : Handle) {wrapper other : Wrapper σ ν}
    (wrappers : wrapper.Replaces other) :
    (first.place handle wrapper).Replaces (second.place handle other) := by
  refine { replaces with wrappers := fun any => ?_ }
  rw [get?_place, get?_place]
  split
  · exact .some wrappers
  · exact replaces.wrappers any

/-- Callers may change their own state on both sides. -/
theorem change (replaces : first.Replaces second) (update : Shared σ → Shared σ) :
    ({ first with shared := update first.shared } : World σ ν).Replaces
      { second with shared := update second.shared } :=
  { replaces with shared := congrArg update replaces.shared }

/-- A script may be handed over on both sides. -/
theorem withScript (replaces : first.Replaces second) (operations : List EngineOperation) :
    ({ first with script := operations } : World σ ν).Replaces { second with script := operations } :=
  { replaces with script := rfl }

end World.Replaces

namespace Exec.Agree

/-- Telling of an event. -/
theorem emit (event : Event ν) :
    Agree (· = ·) (Exec.emit event : Exec σ ν Unit) (Exec.emit event) :=
  Corresponds.emit fun _ _ replaces => replaces.record event

/-- Stopping for the same reason. -/
theorem stop {stop : Stop} {agree : α → β → Prop} :
    Agree (σ := σ) (ν := ν) agree (MonadExcept.throw stop) (MonadExcept.throw stop) :=
  .throw fun _ _ => id

/-- Looking at the caller's state, and changing it. -/
theorem accessShared (update : Shared σ → Shared σ) :
    Agree (· = ·) (Exec.accessShared update : Exec σ ν (Shared σ)) (Exec.accessShared update) :=
  fun _ _ replaces => ⟨replaces.shared, replaces.change update⟩

/-- The same word is loaded on both sides. -/
theorem loadWord (location : Location) :
    Agree (· = ·) (Exec.loadWord location : Exec σ ν UInt32) (Exec.loadWord location) :=
  fun _ _ replaces => ⟨congrArg (·.words.load location) replaces.shared, replaces⟩

/-- The same word is stored on both sides. -/
theorem storeWord (location : Location) (word : UInt32) :
    Agree (· = ·) (Exec.storeWord location word : Exec σ ν Unit) (Exec.storeWord location word) :=
  fun _ _ replaces => ⟨rfl, replaces.change fun shared =>
    { shared with words := shared.words.store location word }⟩

/-- Slots are the same on both sides. -/
theorem boundHandle (slot : HandleSlot) :
    Agree (· = ·) (Exec.boundHandle slot : Exec σ ν Handle) (Exec.boundHandle slot) := by
  apply Corresponds.get_bind
  intro first second replaces
  rw [replaces.slots]
  cases second.slots.get? slot
  · exact ⟨rfl, replaces⟩
  · exact ⟨rfl, replaces⟩

/-- Behind a handle there are wrappers of which one replaces the other, or none on both sides. -/
theorem wrapper (handle : Handle) :
    Agree Wrapper.Replaces (Exec.wrapper handle : Exec σ ν (Wrapper σ ν)) (Exec.wrapper handle) :=
  Corresponds.wrapper handle (fun _ _ replaces => replaces.wrappers handle) fun _ _ replaces => replaces

/-- Both wrappers may be changed, if one replaces the other afterwards. -/
theorem modifyWrapper (handle : Handle) {update : Wrapper σ ν → Wrapper σ ν}
    (keeps : ∀ wrapper other, Wrapper.Replaces wrapper other →
      (update wrapper).Replaces (update other)) :
    Agree (· = ·) (Exec.modifyWrapper handle update) (Exec.modifyWrapper handle update) := by
  apply (wrapper handle).bind
  intro wrapper other alike first second replaces
  exact ⟨rfl, replaces.place handle (keeps wrapper other alike)⟩

/-- So it is for engines. -/
theorem engine (handle : Handle) :
    Agree Engine.Replaces (Exec.engine handle : Exec σ ν (Engine σ ν)) (Exec.engine handle) := by
  apply (wrapper handle).bind
  intro wrapper other alike
  exact .pure alike.engine

/-- An engine may be changed on both sides in a way that does not depend on its equipment. -/
theorem modifyEngine (handle : Handle) {update : Engine σ ν → Engine σ ν}
    (uniform : Engine.Uniform update) :
    Agree (· = ·) (Exec.modifyEngine handle update) (Exec.modifyEngine handle update) := by
  apply modifyWrapper handle
  intro wrapper other alike
  exact { alike with engine := alike.engine.update uniform }

end Exec.Agree

end RecompilerAdapter
