/-
Module: RecompilerAdapter.Proofs.Bridges
Purpose: Calls that cross the boundary. While a wrapper is at work its bridges are bound, so each call
  reaches its entry and comes back, whatever the entry does in between. On an unbound bridge a request of
  the host ends everything before its entry is called, and a compile request once its entry has answered.
Trusted boundary: none
Main exports: Busy, Callback.Reported, Consulted, CoprocessorBridge.consult_unbound
-/
import RecompilerAdapter.Proofs.Reach

namespace RecompilerAdapter

variable {σ ν α β : Type} {perform : Performer σ ν}

/-- A wrapper's engine, which has this configuration, is at work in a run on top of waiting ones.
Calls of its callbacks may start further runs, but come back to this. -/
structure Busy (world : World σ ν) (worker : Handle) (waiting : List Handle)
    (configuration : EngineConfiguration σ ν) : Prop where
  nested : Nested world
  runs : openRuns world.history = worker :: waiting
  employed : ∃ wrapper, world.wrappers.get? worker = some wrapper ∧
    wrapper.engine.configuration = configuration

namespace Busy

variable {world after : World σ ν} {worker : Handle} {waiting others : List Handle}
  {configuration : EngineConfiguration σ ν}

/-- A busy engine is at work. -/
theorem atWork (busy : Busy world worker waiting configuration) :
    AtWork world worker configuration :=
  ⟨by rw [busy.runs, List.head?_cons], busy.employed⟩

/-- A computation that comes back leaves a busy engine busy. -/
theorem later (busy : Busy world worker waiting configuration)
    (reaches : Reaches others world after) : Busy after worker waiting configuration :=
  ⟨reaches.moves.nested busy.nested, reaches.runs.trans busy.runs,
    (reaches.atWork busy.atWork).employed⟩

/-- The wrapper at work does not wait. -/
theorem different (busy : Busy world worker waiting configuration) {other : Handle}
    (waits : other ∈ waiting) : other ≠ worker := by
  have distinct := busy.nested.distinct
  rw [busy.runs, List.nodup_cons] at distinct
  rintro rfl
  exact distinct.1 waits

end Busy

/-- By induction on the body. The wrappers of the open runs wait, since the body is carried out
inside of them. -/
theorem Activity.exec_proceeds (proceeds : perform.Proceeds) (body : Activity σ ν α)
    {world : World σ ν} {waiting : List Handle} (nested : Nested world)
    (runs : openRuns world.history = waiting) :
    (body.exec perform).Proceeds waiting world fun _ _ => True := by
  induction body generalizing world with
  | finish answer => exact .pure trivial
  | access update next ih =>
    have accessed : (Exec.accessShared update).Proceeds waiting world fun _ _ => True :=
      .reaches rfl ⟨.single (.access update), rfl, fun _ _ => rfl⟩ trivial
    apply accessed.bind
    intro before after reaches _
    exact ih before (reaches.moves.nested nested) (reaches.runs.trans runs)
  | record note next ih =>
    have recorded : Reaches waiting world (world.record (.note note)) := .record trivial
    have noted : (Exec.emit (.note note)).Proceeds waiting world fun _ _ => True :=
      .reaches rfl recorded trivial
    apply noted.bind
    intro _ after reaches _
    exact ih (reaches.moves.nested nested) (reaches.runs.trans runs)
  | perform surface target action next ih =>
    have performed := proceeds surface target action world nested
    rw [runs] at performed
    apply performed.bind
    intro reply after reaches _
    exact ih reply (reaches.moves.nested nested) (reaches.runs.trans runs)

/-! ### Requests of the host -/

namespace CallbackTable

/-- Only the read-only query may have no entry. -/
theorem readOnly_of_entry?_eq_none {table : CallbackTable σ ν} {request : HostRequest}
    (missing : table.entry? request = none) : ∃ vaddr, request = .isReadOnly vaddr := by
  unfold entry? at missing
  cases request with
  | isReadOnly vaddr => exact ⟨vaddr, rfl⟩
  | _ => simp at missing

end CallbackTable

namespace CallbackBridge

/-- A request without an entry is answered by the bridge itself. -/
theorem withoutEntry_proceeds {world : World σ ν} {waiting : List Handle}
    (request : HostRequest) :
    (withoutEntry request : Exec σ ν request.Answer).Proceeds waiting world fun _ _ => True := by
  cases request <;> exact .pure trivial

/-- A request of a busy engine reaches its entry, because the slot of its bridge holds its handle.
The entry may do anything, and comes back. -/
theorem forward_proceeds (proceeds : perform.Proceeds) {world : World σ ν} {worker : Handle}
    {waiting : List Handle} {configuration : EngineConfiguration σ ν}
    (busy : Busy world worker waiting configuration) (request : HostRequest) :
    (configuration.callbacks.forward perform request).Proceeds (worker :: waiting) world
      fun _ _ => True := by
  unfold forward
  apply Exec.Ensures.emit_bind
  cases served : configuration.callbacks.table.entry? request with
  | none =>
    obtain ⟨vaddr, isQuery⟩ := CallbackTable.readOnly_of_entry?_eq_none served
    have called : Reaches (worker :: waiting) world
        (world.record (.calling configuration.callbacks.slot request false)) :=
      .record ⟨rfl, vaddr, isQuery⟩
    exact Exec.Proceeds.after called (withoutEntry_proceeds request)
  | some entry =>
    refine Exec.Ensures.boundHandle_bind (fun bound isBound => ?_) fun unbound =>
      .final (.unboundRequest unbound)
    apply Exec.Ensures.emit_bind
    have called : Reaches (worker :: waiting) world (world.recordAll
        [.calling configuration.callbacks.slot request true, .requested bound request]) :=
      ⟨.single (.request busy.atWork (by simp [served]) isBound),
        by simp [openRuns_append, Event.nest], fun _ _ => rfl⟩
    have answering := Activity.exec_proceeds proceeds (entry bound) (busy.later called).nested
      (busy.later called).runs
    apply (answering.after called).bind
    rintro answer middle ⟨reaches, -⟩
    have still : middle.slots.get? configuration.callbacks.slot = some bound := by
      rw [reaches.steady.slots]
      exact isBound
    exact ⟨reaches.trans (.record ⟨worker, configuration, (busy.later reaches).atWork, still⟩),
      trivial⟩

/-- Falling back ends everything, whatever state the engine is in. -/
theorem fallback_halts {world : World σ ν} (bridge : CallbackBridge σ ν) (pc : UInt32)
    (instructions : UInt64) :
    (bridge.fallback pc instructions).Ensures world (fun _ _ => False) (Halts world) :=
  .emit_bind (.final .fallback)

end CallbackBridge

/-! ### Compile requests -/

/-- The deferred operation that a transfer answer holds. -/
def Transfer.callback? {F A : Type} : Transfer F A → Option (Callback F)
  | callback held => some held
  | _ => none

/-- For an answer of one word. -/
@[simp] theorem Scripted.callback?_oneWord {F : Type} (answer : Transfer F Location) :
    callback? (.oneWord answer) = answer.callback? := by
  cases answer <;> rfl

/-- For an answer of two words. -/
@[simp] theorem Scripted.callback?_twoWords {F : Type} (answer : Transfer F (Location × Location)) :
    callback? (.twoWords answer) = answer.callback? := by
  cases answer <;> rfl

/-- A deferred operation is bound to the handle, and its argument is what an answer reports. -/
def Callback.Reported {F : Type} (handle : Handle) (answer : CompileAnswer)
    (callback : Callback F) : Prop :=
  callback.handle = handle ∧ answer = .deferred callback.userArgument

/-- The operation in an answer has the argument that is told of the answer. -/
theorem WireCallback.reported {F : Type} {wire : WireCallback F} {handle : Handle}
    {callback : Callback F} (holds : wire.decode handle = some callback) :
    callback.Reported handle wire.report := by
  cases wire with
  | absent => cases holds
  | present raw =>
    cases holds
    exact ⟨rfl, rfl⟩

/-- So has the operation in a transfer. -/
theorem WireTransfer.reported {F A : Type} {locations : A → List Location}
    {wire : WireTransfer F A} {handle : Handle} {callback : Callback F}
    (holds : (wire.decode handle).callback? = some callback) :
    callback.Reported handle (wire.report locations) := by
  cases wire with
  | callback raw =>
    cases holds
    exact ⟨rfl, rfl⟩
  | absent => cases holds
  | access location => cases holds

/-- A compile request has reached its entry, the entry has just answered, and the answer holds at
most one deferred operation, bound to the handle in the bridge's slot. -/
def Consulted (waiting : List Handle) (before : World σ ν) (bridge : CoprocessorBridge σ ν)
    (request : CompileRequest) (callback : Option (Callback (DeferredFunction σ ν)))
    (after : World σ ν) : Prop :=
  ∃ middle handle answer, Reaches waiting before middle ∧
    middle.slots.get? bridge.slot = some handle ∧
    after = middle.record
      (.compiled bridge.slot bridge.index bridge.table.context request answer) ∧
    ∀ held, callback = some held → held.Reported handle answer

namespace CoprocessorBridge

variable {bridge : CoprocessorBridge σ ν} {world : World σ ν} {worker : Handle}
  {waiting : List Handle} {configuration : EngineConfiguration σ ν} {request : CompileRequest}
  {entry : Activity σ ν α} {report : α → CompileAnswer} {decode : α → Handle → β}
  {callback? : β → Option (Callback (DeferredFunction σ ν))}

/-- A compile request of a busy engine calls the entry and comes back. The deferred operation in the
answer is bound to the engine's handle, and it is told to be the last answer. -/
theorem consult_proceeds (proceeds : perform.Proceeds)
    (busy : Busy world worker waiting configuration)
    (employed : some bridge ∈ configuration.coprocessors)
    (reported : ∀ wire handle held, callback? (decode wire handle) = some held →
      held.Reported handle (report wire)) :
    (bridge.consult perform request entry report decode).Ensures world
      (fun answer => Consulted (worker :: waiting) world bridge request (callback? answer))
      (Halts world) := by
  unfold consult
  apply Exec.Ensures.emit_bind
  have compiling : Reaches (worker :: waiting) world (world.record
      (.compiling bridge.slot bridge.index bridge.table.context request)) :=
    .record ⟨worker, configuration, bridge, busy.atWork, employed, rfl, rfl, rfl⟩
  have answering := Activity.exec_proceeds proceeds entry (busy.later compiling).nested
    (busy.later compiling).runs
  refine (answering.after compiling).bind fun wire middle ⟨reaches, _⟩ => ?_
  refine Exec.Ensures.emit_bind (Exec.Ensures.boundHandle_bind (fun handle isBound => ?_)
    fun unbound => ⟨middle, reaches.moves, .unboundCompile unbound⟩)
  exact ⟨middle, handle, report wire, reaches, isBound, rfl, fun held => reported wire handle held⟩

/-- On an unbound bridge the answer of the entry reaches nobody. -/
theorem consult_unbound (proceeds : perform.Proceeds) (nested : Nested world)
    (unbound : world.slots.get? bridge.slot = none) :
    (bridge.consult perform request entry report decode).Ensures world (fun _ _ => False)
      (Halts (world.record
        (.compiling bridge.slot bridge.index bridge.table.context request))) := by
  unfold consult
  apply Exec.Ensures.emit_bind
  have recorded : Nested (world.record
      (.compiling bridge.slot bridge.index bridge.table.context request)) :=
    nested.record fun _ => rfl
  have answering := Activity.exec_proceeds proceeds entry recorded rfl
  refine Exec.Ensures.bind answering fun wire middle ⟨reaches, _⟩ => ?_
  have still : middle.slots.get? bridge.slot = none := by
    rw [reaches.steady.slots]
    exact unbound
  refine Exec.Ensures.emit_bind (Exec.Ensures.boundHandle_bind (fun handle isBound => ?_)
    fun unbound => ⟨middle, reaches.moves, .unboundCompile unbound⟩)
  rw [World.slots_record, still] at isBound
  cases isBound

/-- The same where the answer is a deferred operation only. -/
theorem consult_operation (proceeds : perform.Proceeds)
    (busy : Busy world worker waiting configuration)
    (employed : some bridge ∈ configuration.coprocessors) (request : CompileRequest)
    (entry : Activity σ ν (WireOperation σ ν)) :
    (bridge.consult perform request entry WireCallback.report WireCallback.decode).Ensures world
      (fun answer => Consulted (worker :: waiting) world bridge request answer) (Halts world) :=
  consult_proceeds proceeds busy employed fun _ _ _ => WireCallback.reported

/-- The same where the answer may be one of a transfer. -/
theorem consult_transfer {A : Type} (proceeds : perform.Proceeds)
    (busy : Busy world worker waiting configuration)
    (employed : some bridge ∈ configuration.coprocessors) (request : CompileRequest)
    (entry : Activity σ ν (WireTransfer (DeferredFunction σ ν) A)) (locations : A → List Location) :
    (bridge.consult perform request entry (WireTransfer.report locations)
      WireTransfer.decode).Ensures world
      (fun answer => Consulted (worker :: waiting) world bridge request answer.callback?)
      (Halts world) :=
  consult_proceeds proceeds busy employed fun _ _ _ => WireTransfer.reported

/-- So all seven forms of compile requests proceed alike. -/
theorem compile_proceeds (proceeds : perform.Proceeds)
    (busy : Busy world worker waiting configuration)
    (employed : some bridge ∈ configuration.coprocessors) (request : CompileRequest) :
    (bridge.compile perform request).Ensures world
      (fun compiled =>
        Consulted (worker :: waiting) world bridge request (Scripted.callback? compiled))
      (Halts world) := by
  cases request with
  | internalOperation | loadWords | storeWords =>
    exact .map (consult_operation proceeds busy employed _ _)
  | sendOneWord | getOneWord | sendTwoWords | getTwoWords =>
    refine .map ((consult_transfer proceeds busy employed _ _ _).mono
      (fun answer after consulted => ?_) fun _ _ halts => halts)
    simpa using consulted

/-- On an unbound bridge each of them calls its entry first, and ends everything then. -/
theorem compile_unbound (proceeds : perform.Proceeds) (nested : Nested world)
    (unbound : world.slots.get? bridge.slot = none) (request : CompileRequest) :
    (bridge.compile perform request).Ensures world (fun _ _ => False)
      (Halts (world.record
        (.compiling bridge.slot bridge.index bridge.table.context request))) := by
  cases request <;> exact .map (consult_unbound proceeds nested unbound)

end CoprocessorBridge

/-- A deferred operation is called with the handle that it was bound to, which is that of the engine
at work. -/
theorem Callback.run_proceeds (proceeds : perform.Proceeds) {world : World σ ν} {worker : Handle}
    {waiting : List Handle} {configuration : EngineConfiguration σ ν}
    {callback : Callback (DeferredFunction σ ν)}
    (busy : Busy world worker waiting configuration)
    (own : AnsweredLast world configuration callback ∨ Keeps world worker callback)
    (first second : UInt32) :
    (callback.run perform first second).Proceeds (worker :: waiting) world fun _ _ => True := by
  unfold run
  apply Exec.Ensures.emit_bind
  have invoked : Reaches (worker :: waiting) world
      (world.record (.invoked callback.handle callback.userArgument first second)) :=
    .record ⟨worker, configuration, callback, busy.atWork, rfl, rfl, own⟩
  exact Exec.Proceeds.after invoked (Activity.exec_proceeds proceeds _ (busy.later invoked).nested
    (busy.later invoked).runs)

/-! ### An engine's own state and the words it shares -/

section

variable {world : World σ ν} {worker : Handle} {waiting others : List Handle}
  {configuration : EngineConfiguration σ ν}

/-- The wrapper at work may give its engine another state. -/
theorem Busy.tune {wrapper : Wrapper σ ν} {engine : Engine σ ν}
    (busy : Busy world worker waiting configuration)
    (present : world.wrappers.get? worker = some wrapper) (tunes : Tunes wrapper.engine engine) :
    Reaches waiting world (world.place worker { wrapper with engine := engine }) := by
  refine ⟨.single (.tune busy.atWork.innermost present tunes), rfl, fun other waits => ?_⟩
  simp [busy.different waits]

/-- An engine may change itself while it is at work. -/
theorem Exec.modifyEngine_proceeds (update : Engine σ ν → Engine σ ν)
    (busy : Busy world worker waiting configuration)
    (tunes : ∀ engine, Tunes engine (update engine)) :
    (Exec.modifyEngine worker update).Proceeds waiting world
      fun _ after => after.history = world.history ∧ after.slots = world.slots := by
  rw [Proceeds, ← bind_pure (modifyEngine worker update)]
  refine Ensures.modifyEngine_bind (fun found present => ?_) fun _ => Halts.unknown worker
  exact ⟨busy.tune present (tunes found.engine), rfl, rfl⟩

/-- It may look at itself, and finds the configuration that it was built with. -/
theorem Exec.engine_proceeds (busy : Busy world worker waiting configuration) :
    (Exec.engine worker : Exec σ ν (Engine σ ν)).Proceeds others world
      fun engine after => after = world ∧ engine.configuration = configuration ∧
        world.mode? worker = some engine.mode := by
  obtain ⟨wrapper, present, same⟩ := busy.employed
  rw [Proceeds, ← bind_pure (engine worker)]
  refine Ensures.engine_bind (fun found isFound => ?_) fun _ => Halts.unknown worker
  rw [present] at isFound
  cases isFound
  exact ⟨.refl others world, rfl, same, by simp [World.mode?, present]⟩

/-- It may load words of the caller. -/
theorem Exec.loadWord_proceeds (location : Location) :
    (Exec.loadWord location : Exec σ ν UInt32).Proceeds waiting world
      fun _ after => after = world :=
  .pure rfl

/-- It may store words of the caller. -/
theorem Exec.storeWord_proceeds (location : Location) (word : UInt32) :
    (Exec.storeWord location word : Exec σ ν Unit).Proceeds waiting world fun _ _ => True :=
  .reaches rfl ⟨.single (.access fun shared =>
    { shared with words := shared.words.store location word }), rfl, fun _ _ => rfl⟩ trivial

end

end RecompilerAdapter
