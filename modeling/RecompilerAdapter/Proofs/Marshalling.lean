/-
Module: RecompilerAdapter.Proofs.Marshalling
Purpose: Marshalling between an engine and coprocessor objects. A compile request passes the bridge, the
  flat table and the object's method; its answer passes the wire encoding and the bridge. Nothing is lost
  on the way there, and nothing on the way back but the tag, which tells how the rest is to be read.
Trusted boundary: none
Main exports: CoprocessorObjects, HandleSlots.given?, WireCompiled.receive, CoprocessorObjects.answerAll,
  LosslessMarshalling
-/
import RecompilerAdapter.Adapter.Builder
import RecompilerAdapter.Proofs.CompileEntries
import RecompilerAdapter.Wire.Image

namespace RecompilerAdapter

variable {σ ν F A : Type} {perform : Performer σ ν}

/-! ### The way there -/

/-- The coprocessor objects of all slots, each with the context word that its table carries. A slot
may be empty. -/
abbrev CoprocessorObjects (σ ν : Type) : Type :=
  Vector (Option (HostCoprocessor σ ν × Context)) coprocessorCount

/-- The tables that are handed over for coprocessor objects. -/
def CoprocessorObjects.tables (objects : CoprocessorObjects σ ν) : CoprocessorTables σ ν :=
  objects.map fun object => object.map fun (host, self) => host.table self

/-- An engine makes compile requests, one after the other, each of the coprocessor in some slot;
`none` for a slot that is empty. -/
def EngineConfiguration.compileAll (perform : Performer σ ν)
    (configuration : EngineConfiguration σ ν) (requests : List (Fin coprocessorCount × CompileRequest)) :
    Exec σ ν (List (Option (Compiled (DeferredFunction σ ν)))) :=
  requests.mapM fun (slot, request) =>
    match configuration.coprocessors[slot] with
    | some bridge => some <$> bridge.compile perform request
    | none => return none

/-- What a slot has been given, read off the list of all bindings. Null stands there until the slot
is bound. -/
def HandleSlots.given? (slots : HandleSlots) (slot : HandleSlot) : Option Handle :=
  slots.bindings[slot.index]?.filter fun handle => handle ≠ .null

/-- A slot that holds the null handle counts as unbound. -/
theorem HandleSlots.get?_eq_given? (slots : HandleSlots) (slot : HandleSlot) :
    slots.get? slot = slots.given? slot := by
  unfold get? isBound binding given? Handle.isNull
  cases slots.bindings[slot.index]? with
  | none => rfl
  | some handle => cases handle with | mk address => simp [Handle.null, Option.filter_some]

/-- Receives an answer through a slot: an operation in it is bound to the handle that the slot has
been given. Through a slot that has been given none nothing is received, and everything ends. -/
def WireCompiled.receive (wire : WireCompiled F) (slot : HandleSlot) : Exec σ ν (Compiled F) := do
  match (← get).slots.given? slot with
  | some handle => return wire.decode handle
  | none => throw (.fatal .unboundHandle)

/-- The methods of the objects are called for compile requests, one after the other, with no table
in between. Each answer is received as the slot stands by then. -/
def CoprocessorObjects.answerAll (perform : Performer σ ν) (objects : CoprocessorObjects σ ν)
    (bridge : HandleSlot) (requests : List (Fin coprocessorCount × CompileRequest)) :
    Exec σ ν (List (Option (Compiled (DeferredFunction σ ν)))) :=
  requests.mapM fun (slot, request) =>
    match objects[slot] with
    | some (host, self) => do
      Exec.emit (.compiling bridge slot self request)
      let wire ← (host.answer self request).exec perform
      Exec.emit (.compiled bridge slot self request wire.report)
      some <$> wire.receive bridge
    | none => return none

/-- Fetching the handle of a slot and binding an answer to it is receiving the answer through the
slot. -/
theorem WireCompiled.decode_boundHandle (wire : WireCompiled F) (slot : HandleSlot) :
    (wire.decode <$> Exec.boundHandle slot : Exec σ ν (Compiled F)) = wire.receive slot := by
  simp only [Exec.boundHandle, receive, HandleSlots.get?_eq_given?, map_bind]
  refine bind_congr fun world => ?_
  cases world.slots.given? slot with
  | none => rfl
  | some handle => exact map_pure wire.decode handle

/-- What an engine gets from the builder's coprocessors, request after request, is what the objects
answer, with the handle that the slot was given. By induction on the requests. -/
theorem Builder.compileAll_eq (builder : Builder σ ν) (objects : CoprocessorObjects σ ν)
    (bridge : HandleSlot) (requests : List (Fin coprocessorCount × CompileRequest)) :
    ({ builder with coprocessors := objects.tables }.configuration bridge).compileAll perform
      requests = objects.answerAll perform bridge requests := by
  unfold EngineConfiguration.compileAll CoprocessorObjects.answerAll
  congr 1
  funext ⟨slot, request⟩
  dsimp only
  have bridges : ({ builder with coprocessors := objects.tables }.configuration
      bridge).coprocessors[slot] =
        objects[slot].map fun (host, self) => ⟨slot, host.table self, bridge⟩ := by
    simp only [Builder.configuration, CoprocessorObjects.tables, Fin.getElem_fin,
      Vector.getElem_mapIdx, Vector.getElem_map, Option.map_map]
    rfl
  rw [bridges]
  cases objects[slot] with
  | none => rfl
  | some object =>
    simp only [Option.map_some, CoprocessorBridge.compile_eq, CoprocessorBridge.consult,
      HostCoprocessor.answer_table, bind_pure_comp, WireCompiled.decode_boundHandle, map_bind]
    rfl

/-! ### The way back -/

namespace WireCallback

variable {wire : WireCallback F} {handle : Handle}

/-- Only the absent answer is received as none. -/
theorem decode_eq_none_iff : wire.decode handle = none ↔ wire = .absent := by
  cases wire <;> simp [decode]

/-- A deferred operation is received with the function and the argument that were sent, and with the
handle. -/
theorem decode_eq_some_iff {callback : Callback F} :
    wire.decode handle = some callback ↔
      wire = .present ⟨callback.function, callback.userArgument⟩ ∧ callback.handle = handle := by
  cases wire with
  | absent => simp [decode]
  | present raw =>
    simp only [decode, Option.some.injEq, present.injEq]
    constructor
    · rintro rfl
      exact ⟨rfl, rfl⟩
    · rintro ⟨rfl, rfl⟩
      rfl

end WireCallback

namespace WireTransfer

variable {wire : WireTransfer F A} {handle : Handle}

/-- Only the absent transfer is received as unsupported. -/
theorem decode_eq_unsupported_iff : wire.decode handle = .unsupported ↔ wire = .absent := by
  cases wire <;> simp [decode]

/-- A deferred operation is received as one, with nothing of it changed. -/
theorem decode_eq_callback_iff {callback : Callback F} :
    wire.decode handle = .callback callback ↔
      wire = .callback ⟨callback.function, callback.userArgument⟩ ∧ callback.handle = handle := by
  cases wire with
  | absent => simp [decode]
  | access location => simp [decode]
  | callback raw =>
    simp only [decode, Transfer.callback.injEq, WireTransfer.callback.injEq]
    constructor
    · rintro rfl
      exact ⟨rfl, rfl⟩
    · rintro ⟨rfl, rfl⟩
      rfl

/-- A direct access is received with the locations that were sent. -/
theorem decode_eq_access_iff {location : A} :
    wire.decode handle = .access location ↔ wire = .access location := by
  cases wire <;> simp [decode]

end WireTransfer

/-! ### Images -/

namespace WireImage

/-- The payload words that the tag of an optional deferred operation calls for. A word that no tag
calls for may hold anything, and nothing reads it. -/
def callbackPayload (image : WireImage) : List UInt64 :=
  if image.tag = OptionTag.present.code then [image.first, image.second] else []

/-- The payload words that the tag of a one-word answer calls for. -/
def oneWordPayload (image : WireImage) : List UInt64 :=
  if image.tag = AccessTag.callback.code then [image.first, image.second]
  else if image.tag = AccessTag.access.code then [image.first]
  else []

/-- The payload words that the tag of a two-word answer calls for. -/
def twoWordsPayload (image : WireImage) : List UInt64 :=
  if image.tag = AccessTag.callback.code ∨ image.tag = AccessTag.access.code then
    [image.first, image.second]
  else []

variable {image other : WireImage}

/-- The image of a deferred operation is read back, whatever is in the payload words that its tag
does not call for. -/
theorem toCallback?_ofCallback (filler : UInt64 × UInt64) (wire : WireCallback UInt64) :
    (ofCallback filler wire).toCallback? = some wire := by
  cases wire <;> rfl

/-- So is the image of a transfer of one word. -/
theorem toOneWord?_ofOneWord (filler : UInt64 × UInt64) (wire : WireTransfer UInt64 UInt64) :
    (ofOneWord filler wire).toOneWord? = some wire := by
  cases wire <;> rfl

/-- So is the image of a transfer of two words. -/
theorem toTwoWords?_ofTwoWords (filler : UInt64 × UInt64)
    (wire : WireTransfer UInt64 (UInt64 × UInt64)) :
    (ofTwoWords filler wire).toTwoWords? = some wire := by
  cases wire <;> rfl

/-- Only the payload that the tag calls for is read. -/
theorem toCallback?_congr (tags : image.tag = other.tag)
    (payloads : image.callbackPayload = other.callbackPayload) :
    image.toCallback? = other.toCallback? := by
  unfold callbackPayload at payloads
  unfold toCallback?
  rw [tags] at payloads ⊢
  by_cases present : other.tag = OptionTag.present.code
  · simp only [if_pos present, List.cons.injEq, and_true] at payloads
    rw [payloads.1, payloads.2]
  · simp only [if_neg present]

/-- So it is for one word. -/
theorem toOneWord?_congr (tags : image.tag = other.tag)
    (payloads : image.oneWordPayload = other.oneWordPayload) :
    image.toOneWord? = other.toOneWord? := by
  unfold oneWordPayload at payloads
  unfold toOneWord?
  rw [tags] at payloads ⊢
  by_cases callback : other.tag = AccessTag.callback.code
  · simp only [if_pos callback, List.cons.injEq, and_true] at payloads
    rw [payloads.1, payloads.2]
  · simp only [if_neg callback] at payloads ⊢
    by_cases access : other.tag = AccessTag.access.code
    · simp only [if_pos access, List.cons.injEq, and_true] at payloads
      rw [payloads]
    · simp only [if_neg access]

/-- So it is for two words. -/
theorem toTwoWords?_congr (tags : image.tag = other.tag)
    (payloads : image.twoWordsPayload = other.twoWordsPayload) :
    image.toTwoWords? = other.toTwoWords? := by
  unfold twoWordsPayload at payloads
  unfold toTwoWords?
  rw [tags] at payloads ⊢
  by_cases read : other.tag = AccessTag.callback.code ∨ other.tag = AccessTag.access.code
  · simp only [if_pos read, List.cons.injEq, and_true] at payloads
    rw [payloads.1, payloads.2]
  · rw [not_or] at read
    simp only [if_neg read.1, if_neg read.2]

end WireImage

/-! ### The whole way -/

/-- Nothing is lost between an engine and the coprocessor objects of a caller. -/
structure LosslessMarshalling (σ ν : Type) : Prop where
  /-- Whatever requests an engine makes of the bridges in its slots, the methods of the objects are
  called instead of their tables, with the same operands, once for each request. What the engine
  receives is what the object answered, with any operation bound to the handle that the slot of the
  bridges has been given. -/
  requested : ∀ (perform : Performer σ ν) (builder : Builder σ ν) (objects : CoprocessorObjects σ ν)
    bridge requests,
    ({ builder with coprocessors := objects.tables }.configuration bridge).compileAll perform
      requests = objects.answerAll perform bridge requests
  /-- The engine receives no operation exactly if the object answers with none. -/
  noOperation : ∀ (wire : WireOperation σ ν) handle, wire.decode handle = none ↔ wire = .absent
  /-- It receives an operation exactly if the object answers with its function and argument. -/
  operation : ∀ (wire : WireOperation σ ν) handle callback, wire.decode handle = some callback ↔
    wire = .present ⟨callback.function, callback.userArgument⟩ ∧ callback.handle = handle
  /-- A transfer of one or two words is unsupported exactly if the object answers so. -/
  unsupported : ∀ {A : Type} (wire : WireTransfer (DeferredFunction σ ν) A) handle,
    wire.decode handle = .unsupported ↔ wire = .absent
  /-- It is deferred exactly if the object answers with the function and the argument. -/
  deferred : ∀ {A : Type} (wire : WireTransfer (DeferredFunction σ ν) A) handle callback,
    wire.decode handle = .callback callback ↔
      wire = .callback ⟨callback.function, callback.userArgument⟩ ∧ callback.handle = handle
  /-- It is direct exactly if the object answers with the same location, or pair of locations. -/
  direct : ∀ {A : Type} (wire : WireTransfer (DeferredFunction σ ν) A) handle location,
    wire.decode handle = .access location ↔ wire = .access location
  /-- Calling what was received calls the object's function. -/
  called : ∀ (perform : Performer σ ν) (callback : Callback (DeferredFunction σ ν)) first second,
    callback.run perform first second = (do
      Exec.emit (.invoked callback.handle callback.userArgument first second)
      (callback.function callback.handle callback.userArgument first second).exec perform)
  /-- Reading an image yields what was written. -/
  read : ∀ filler, (∀ wire, (WireImage.ofCallback filler wire).toCallback? = some wire) ∧
    (∀ wire, (WireImage.ofOneWord filler wire).toOneWord? = some wire) ∧
    ∀ wire, (WireImage.ofTwoWords filler wire).toTwoWords? = some wire
  /-- Images with one tag that agree in the payload words that the tag calls for read the same. -/
  active : ∀ image other : WireImage, image.tag = other.tag →
    (image.callbackPayload = other.callbackPayload → image.toCallback? = other.toCallback?) ∧
    (image.oneWordPayload = other.oneWordPayload → image.toOneWord? = other.toOneWord?) ∧
    (image.twoWordsPayload = other.twoWordsPayload → image.toTwoWords? = other.toTwoWords?)

/-- Nothing is lost or mixed up between a coprocessor object and the engine that asks it. -/
theorem losslessMarshalling (σ ν : Type) : LosslessMarshalling σ ν where
  requested _ builder objects bridge requests := builder.compileAll_eq objects bridge requests
  noOperation _ _ := WireCallback.decode_eq_none_iff
  operation _ _ _ := WireCallback.decode_eq_some_iff
  unsupported _ _ := WireTransfer.decode_eq_unsupported_iff
  deferred _ _ _ := WireTransfer.decode_eq_callback_iff
  direct _ _ _ := WireTransfer.decode_eq_access_iff
  called _ _ _ _ := rfl
  read filler := ⟨WireImage.toCallback?_ofCallback filler, WireImage.toOneWord?_ofOneWord filler,
    WireImage.toTwoWords?_ofTwoWords filler⟩
  active _ _ tags := ⟨WireImage.toCallback?_congr tags, WireImage.toOneWord?_congr tags,
    WireImage.toTwoWords?_congr tags⟩

end RecompilerAdapter
