/-
Module: RecompilerAdapter.Proofs.ScriptedRuns
Purpose: A scripted engine at work, and a scripted engine that is being constructed. At work each
  operation proceeds, and the engine keeps what its coprocessors answered last. Under construction the
  bridges are unbound: what completes is only what needs no handle, and the answer of a compile entry
  reaches nobody.
Trusted boundary: none
Main exports: Scripting, Scripted.Leaves, Scripted.Unbound, Scripted.HaltsProbing
-/
import RecompilerAdapter.Proofs.Bridges

namespace RecompilerAdapter

variable {σ ν α β : Type} {perform : Performer σ ν} {world after : World σ ν} {worker : Handle}
  {waiting : List Handle} {configuration : EngineConfiguration σ ν}

/-! ### Lists of accesses -/

namespace Exec.Proceeds

theorem forM {body : α → Exec σ ν Unit} (items : List α)
    (each : ∀ item world, (body item).Proceeds waiting world fun _ _ => True)
    (world : World σ ν) : (items.forM body).Proceeds waiting world fun _ _ => True := by
  induction items generalizing world with
  | nil => exact .pure trivial
  | cons item items ih => exact (each item world).bind fun _ after _ _ => ih after

theorem mapM {body : α → Exec σ ν β} (items : List α)
    (each : ∀ item world, (body item).Proceeds waiting world fun _ _ => True)
    (world : World σ ν) : (items.mapM body).Proceeds waiting world fun _ _ => True := by
  induction items generalizing world with
  | nil => exact .pure trivial
  | cons item items ih =>
    rw [List.mapM_cons]
    exact (each item world).bind fun _ middle _ _ => (ih middle).bind fun _ _ _ _ => .pure trivial

end Exec.Proceeds

/-- The wrapper at work has a scripted engine, which keeps this answer. -/
structure Scripting (world : World σ ν) (worker : Handle) (waiting : List Handle)
    (configuration : EngineConfiguration σ ν) (last : Scripted.Last σ ν) : Prop
    extends Busy world worker waiting configuration where
  scripted : world.mode? worker = some (.scripted last)

theorem Scripting.later {last : Scripted.Last σ ν}
    (scripting : Scripting world worker waiting configuration last)
    (reaches : Reaches (worker :: waiting) world after) :
    Scripting after worker waiting configuration last :=
  ⟨scripting.toBusy.later reaches,
    (reaches.modes worker List.mem_cons_self).trans scripting.scripted⟩

namespace Scripted

/-! ### At work -/

/-- The answer that the engine has kept is used in one of three ways, and only its own operation is
called. -/
theorem useAnswer_proceeds (proceeds : perform.Proceeds) {last : Last σ ν}
    (scripting : Scripting world worker waiting configuration last) (use : AnswerUse) :
    (useAnswer perform last use).Proceeds (worker :: waiting) world fun _ _ => True := by
  cases use with
  | call first second =>
    unfold useAnswer
    cases held : last.bind callback? with
    | none => exact .pure trivial
    | some callback =>
      obtain ⟨compiled, rfl, isCallback⟩ := Option.bind_eq_some_iff.1 held
      have kept : Keeps world worker callback := ⟨compiled, scripting.scripted, isCallback⟩
      exact (callback.run_proceeds proceeds scripting.toBusy (.inr kept) first second).bind
        fun _ _ _ _ => .pure trivial
  | load =>
    unfold useAnswer
    dsimp only
    split
    · exact .pure trivial
    · refine (Exec.Proceeds.mapM _ (fun location world => ?_) world).bind
        fun _ _ _ _ => .pure trivial
      exact (Exec.loadWord_proceeds location).mono fun _ _ _ _ => trivial
  | store first second =>
    unfold useAnswer
    dsimp only
    split
    · exact .pure trivial
    · exact (Exec.Proceeds.forM _ (fun item world => Exec.storeWord_proceeds item.1 item.2)
        world).bind fun _ _ _ _ => .pure trivial

/-- An operation leaves the last answer as it is, or a coprocessor has just given another one. The
two cases differ in what the next operation may call. -/
def Leaves (worker : Handle) (waiting : List Handle) (configuration : EngineConfiguration σ ν)
    (before : World σ ν) (last next : Last σ ν) (after : World σ ν) : Prop :=
  (next = last ∧ Reaches (worker :: waiting) before after) ∨
    ∃ bridge request compiled, some bridge ∈ configuration.coprocessors ∧ next = some compiled ∧
      Consulted (worker :: waiting) before bridge request (callback? compiled) after

/-- An operation of a script leaves behind an answer that the engine may keep: the last one of its
coprocessor, or the one that it had. -/
theorem execute_ensures (proceeds : perform.Proceeds) {last : Last σ ν}
    (scripting : Scripting world worker waiting configuration last) (operation : EngineOperation) :
    (execute perform configuration last operation).Ensures world
      (fun outcome => Leaves worker waiting configuration world last outcome.2) (Halts world) := by
  cases operation with
  | request request =>
    refine Exec.Ensures.bind (CallbackBridge.forward_proceeds proceeds scripting.toBusy request)
      fun answer after ⟨reaches, _⟩ => ?_
    exact .inl ⟨rfl, reaches⟩
  | fallback pc instructions =>
    exact Exec.Ensures.bind (configuration.callbacks.fallback_halts pc instructions) nofun
  | compile slot request =>
    simp only [execute]
    cases populated : configuration.coprocessors[slot]?.join with
    | none => exact Exec.Ensures.pure (.inl ⟨rfl, .refl _ world⟩)
    | some bridge =>
      have employed : some bridge ∈ configuration.coprocessors :=
        Vector.mem_of_getElem? (Option.join_eq_some_iff.1 populated)
      apply Exec.Ensures.bind
        (bridge.compile_proceeds proceeds scripting.toBusy employed request)
      intro compiled after consulted
      exact .inr ⟨bridge, request, compiled, employed, rfl, consulted⟩
  | use use =>
    refine Exec.Ensures.bind (useAnswer_proceeds proceeds scripting use)
      fun answer after ⟨reaches, _⟩ => ?_
    exact .inl ⟨rfl, reaches⟩

theorem setLastAnswer_scripted {engine : Engine σ ν} {last : Last σ ν}
    (scripted : engine.mode = .scripted last) (next : Last σ ν) :
    setLastAnswer next engine = { engine with mode := .scripted next } := by
  simp only [setLastAnswer, scripted]

/-- The engine at work keeps the answer that its coprocessor has just given. -/
theorem keep_reaches {last : Last σ ν} {wrapper : Wrapper σ ν} {bridge : CoprocessorBridge σ ν}
    {answer : CompileAnswer} {handle : Handle} {compiled : Compiled (DeferredFunction σ ν)}
    (scripting : Scripting world worker waiting configuration last)
    (present : world.wrappers.get? worker = some wrapper)
    (employed : some bridge ∈ wrapper.engine.configuration.coprocessors)
    (scripted : wrapper.engine.mode = .scripted last)
    (isBound : world.slots.get? bridge.slot = some handle)
    (reported : ∀ held, callback? compiled = some held → held.Reported handle answer)
    (request : CompileRequest) : Reaches waiting world ((world.record
      (.compiled bridge.slot bridge.index bridge.table.context request answer)).place worker
      { wrapper with engine := { wrapper.engine with mode := .scripted (some compiled) } }) := by
  refine ⟨.single (.keep scripting.toBusy.atWork.innermost present employed scripted ?_),
    by simp [Event.nest], fun other waits => ?_⟩
  · intro callback held
    obtain ⟨rfl, reports⟩ := reported callback held
    exact ⟨isBound, reports⟩
  · simp [scripting.toBusy.different waits]

/-- The engine keeps what an operation leaves. Either it has the answer already, or a coprocessor
has just answered, and the answer is kept together with the event that tells of it. -/
theorem setLastAnswer_ensures {last next : Last σ ν}
    (scripting : Scripting world worker waiting configuration last)
    (leaves : Leaves worker waiting configuration world last next after) :
    (Exec.modifyEngine worker (setLastAnswer next)).Ensures after
      (fun _ final => Reaches waiting world final ∧
        Scripting final worker waiting configuration next) (Halts world) := by
  rw [← bind_pure (Exec.modifyEngine worker (setLastAnswer next))]
  rcases leaves with ⟨rfl, reaches⟩ | ⟨bridge, request, compiled, employed, rfl, consulted⟩
  · have later := scripting.later reaches
    refine Exec.Ensures.modifyEngine_bind (fun found present => ?_) fun _ =>
      reaches.halts (Halts.unknown worker)
    -- Nothing was answered: the answer that is written back is the one that is there, so nothing is
    -- kept anew.
    have scripted : found.engine.mode = .scripted next := by
      simpa [World.mode?, present] using later.scripted
    rw [setLastAnswer_scripted scripted]
    have tuned : Reaches waiting after (after.place worker
        { found with engine := { found.engine with mode := .scripted next } }) :=
      later.toBusy.tune present ⟨rfl, .inl scripted.symm⟩
    have onward := (reaches.subset fun _ => List.mem_cons_of_mem worker).trans tuned
    exact ⟨onward, scripting.toBusy.later onward, by simp⟩
  · obtain ⟨middle, handle, answer, reaches, isBound, rfl, reported⟩ := consulted
    have later := scripting.later reaches
    obtain ⟨wrapper, present, same⟩ := later.employed
    have scripted : wrapper.engine.mode = .scripted last := by
      simpa [World.mode?, present] using later.scripted
    refine Exec.Ensures.modifyEngine_bind (fun found isFound => ?_) fun absent => ?_
    · obtain rfl : wrapper = found := Option.some.inj (present.symm.trans isFound)
      rw [setLastAnswer_scripted scripted]
      have kept := keep_reaches later present (same ▸ employed) scripted isBound reported
        request
      have onward := (reaches.subset fun _ => List.mem_cons_of_mem worker).trans kept
      exact ⟨onward, scripting.toBusy.later onward, by simp⟩
    · rw [World.wrappers_record, present] at absent
      cases absent

/-- By induction on the script. Between two operations the engine keeps the last answer, so the
calls that follow are calls of an operation that was answered last or kept. -/
theorem runOperations_proceeds (proceeds : perform.Proceeds) (operations : List EngineOperation)
    {last : Last σ ν} (scripting : Scripting world worker waiting configuration last) :
    (runOperations perform worker operations).Proceeds waiting world fun _ _ => True := by
  induction operations generalizing world last with
  | nil => exact .pure trivial
  | cons operation operations ih =>
    apply (Exec.engine_proceeds scripting.toBusy).bind
    intro engine middle _ same
    obtain ⟨rfl, same, isMode⟩ := same
    have isLast : lastAnswer engine = last := by
      rw [scripting.scripted, Option.some.injEq] at isMode
      rw [lastAnswer, ← isMode]
    split
    · have taken := Exec.modifyEngine_proceeds
        (fun engine => { engine with haltRequested := false }) scripting.toBusy
        fun _ => ⟨rfl, .inl rfl⟩
      exact taken.mono fun _ _ _ _ => trivial
    · rw [same, isLast]
      apply Exec.Ensures.bind (execute_ensures proceeds scripting operation)
      intro outcome after leaves
      refine Exec.Ensures.bind (setLastAnswer_ensures scripting leaves)
        fun _ kept ⟨reaches, scripting⟩ => ?_
      have performed : Reaches (worker :: waiting) kept
          (kept.record (.performed operation outcome.1)) := .record trivial
      have onward := reaches.trans (performed.subset fun _ => List.mem_cons_of_mem worker)
      exact Exec.Ensures.emit_bind (Exec.Proceeds.after onward (ih (scripting.later performed)))

theorem run_proceeds (proceeds : perform.Proceeds) {last : Last σ ν}
    (scripting : Scripting world worker waiting configuration last) :
    (run perform worker).Proceeds waiting world fun _ _ => True := by
  have taken : (Exec.takeScript : Exec σ ν _).Proceeds (worker :: waiting) world
      fun _ _ => True := .reaches rfl ⟨.single (.script []), rfl, fun _ _ => rfl⟩ trivial
  refine Exec.Ensures.bind taken fun operations middle ⟨reaches, _⟩ => ?_
  have onward := reaches.subset fun _ => List.mem_cons_of_mem worker
  exact Exec.Proceeds.after onward
    (runOperations_proceeds proceeds operations (scripting.later reaches))

/-! ### Under construction -/

/-- All bridges of a configuration are unbound, as they are while its engine is under construction.
An engine that uses them then finds no handle. -/
structure Unbound (world : World σ ν) (configuration : EngineConfiguration σ ν) : Prop where
  callbacks : world.slots.get? configuration.callbacks.slot = none
  coprocessors : ∀ bridge, some bridge ∈ configuration.coprocessors →
    world.slots.get? bridge.slot = none

theorem Unbound.later (unbound : Unbound world configuration)
    (reaches : Reaches waiting world after) : Unbound after configuration := by
  refine ⟨?_, fun bridge employed => ?_⟩
  · rw [reaches.steady.slots]
    exact unbound.callbacks
  · rw [reaches.steady.slots]
    exact unbound.coprocessors bridge employed

/-- An engine under construction stops before its constructor returns: on its own account, or in a
compile entry that it has called. -/
def HaltsProbing (configuration : EngineConfiguration σ ν) (before : World σ ν) (stop : Stop)
    (after : World σ ν) : Prop :=
  Halts before stop after ∨ ∃ middle bridge request, Moves before middle ∧
    some bridge ∈ configuration.coprocessors ∧
    Halts (middle.record (.compiling bridge.slot bridge.index bridge.table.context request)) stop
      after

/-- Whatever stops the construction of an engine, it is not the refusal of its constructor, which is
reported. -/
theorem HaltsProbing.ne_constructionFailed {stop : Stop}
    (halts : HaltsProbing configuration world stop after) : stop ≠ .fatal .constructionFailed := by
  rcases halts with halts | ⟨_, _, _, _, _, halts⟩
  · exact halts.ne_constructionFailed
  · exact halts.ne_constructionFailed

theorem HaltsProbing.from {middle : World σ ν} {stop : Stop} (moves : Moves world middle)
    (halts : HaltsProbing configuration middle stop after) :
    HaltsProbing configuration world stop after := by
  rcases halts with ⟨last, onward, final⟩ | ⟨last, bridge, request, onward, employed, halts⟩
  · exact .inl ⟨last, moves.trans onward, final⟩
  · exact .inr ⟨last, bridge, request, moves.trans onward, employed, halts⟩

/-- A request of the host on an unbound bridge is answered by the bridge itself, or ends everything
before its entry is called. -/
theorem forward_unbound {request : HostRequest} (unbound : Unbound world configuration) :
    (configuration.callbacks.forward perform request).Proceeds waiting world fun _ _ => True := by
  unfold CallbackBridge.forward
  apply Exec.Ensures.emit_bind
  cases served : configuration.callbacks.table.entry? request with
  | none =>
    obtain ⟨vaddr, isQuery⟩ := CallbackTable.readOnly_of_entry?_eq_none served
    have called : Reaches waiting world
        (world.record (.calling configuration.callbacks.slot request false)) :=
      .record ⟨rfl, vaddr, isQuery⟩
    exact Exec.Proceeds.after called (CallbackBridge.withoutEntry_proceeds request)
  | some entry =>
    refine Exec.Ensures.boundHandle_bind (fun bound isBound => ?_) fun _ =>
      .final (.unboundRequest unbound.callbacks)
    exact nomatch unbound.callbacks.symm.trans isBound

/-- While the engine is being constructed, an operation completes only if it needs no handle; then
there is no answer to keep, since fetching the handle would have ended everything. -/
theorem execute_unbound (proceeds : perform.Proceeds) (nested : Nested world)
    (unbound : Unbound world configuration) (operation : EngineOperation) :
    (execute perform configuration none operation).Ensures world
      (fun outcome after => outcome.2 = none ∧ Reaches (openRuns world.history) world after)
      (HaltsProbing configuration world) := by
  cases operation with
  | request request =>
    have forwarded : (configuration.callbacks.forward perform request).Proceeds
        (openRuns world.history) world fun _ _ => True := forward_unbound unbound
    refine Exec.Ensures.bind (Exec.Ensures.mono forwarded (fun _ _ holds => holds)
      fun _ _ halts => .inl halts) fun answer after ⟨reaches, _⟩ => ?_
    exact ⟨rfl, reaches⟩
  | fallback pc instructions =>
    refine Exec.Ensures.bind ((configuration.callbacks.fallback_halts pc instructions).mono
      (fun _ _ holds => holds) fun _ _ halts => .inl halts) nofun
  | compile slot request =>
    simp only [execute]
    cases populated : configuration.coprocessors[slot]?.join with
    | none => exact Exec.Ensures.pure ⟨rfl, .refl _ world⟩
    | some bridge =>
      have employed : some bridge ∈ configuration.coprocessors :=
        Vector.mem_of_getElem? (Option.join_eq_some_iff.1 populated)
      refine Exec.Ensures.bind ((bridge.compile_unbound proceeds nested
        (unbound.coprocessors bridge employed) request).mono (fun _ _ holds => holds)
        fun _ _ halts => .inr ⟨world, bridge, request, .refl, employed, halts⟩) nofun
  | use use => cases use <;> exact Exec.Ensures.pure ⟨rfl, .refl _ world⟩

/-- No answer reaches an engine under construction. -/
theorem probe_ensures (proceeds : perform.Proceeds) (operations : List EngineOperation)
    (nested : Nested world) (unbound : Unbound world configuration) :
    (probe perform configuration none operations).Ensures world
      (fun last after => last = none ∧ Reaches (openRuns world.history) world after)
      (HaltsProbing configuration world) := by
  induction operations generalizing world with
  | nil => exact ⟨rfl, .refl _ world⟩
  | cons operation operations ih =>
    refine Exec.Ensures.bind (execute_unbound proceeds nested unbound operation)
      fun outcome middle ⟨isNone, reaches⟩ => ?_
    obtain ⟨result, last⟩ := outcome
    subst isNone
    apply Exec.Ensures.emit_bind
    have performed : Reaches (openRuns world.history) middle
        (middle.record (.performed operation result)) := .record trivial
    have onward := reaches.trans performed
    refine (ih (onward.moves.nested nested) (unbound.later onward)).mono ?_ fun _ _ halts =>
      halts.from onward.moves
    rintro answer final ⟨isNone, further⟩
    rw [onward.runs] at further
    exact ⟨isNone, onward.trans further⟩

end Scripted

end RecompilerAdapter
