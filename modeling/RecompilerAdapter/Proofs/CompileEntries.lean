/-
Module: RecompilerAdapter.Proofs.CompileEntries
Purpose: One view of the seven forms of compile requests. Each form has an entry of its own, with operands
  of its own and an answer of one of three types; here the entry is found by the request, and the answer
  is one of three kinds. A stepping engine makes the request of an instruction and then uses the answer,
  whatever its form.
Trusted boundary: none
Main exports: WireCompiled, CoprocessorTable.answer, CoprocessorBridge.compile_eq, Stepping.useCompiled,
  Stepping.coprocessor_eq
-/
import RecompilerAdapter.Coprocessor.Host
import RecompilerAdapter.Coprocessor.Bridge
import RecompilerAdapter.Engine.Stepping

namespace RecompilerAdapter

variable {σ ν α β F : Type} {perform : Performer σ ν}

/-! ### Answers of all forms -/

/-- The answer to a compile request on the wire. The seven entries answer in one of three types,
which this puts into one, so that there is one lemma for all entries. -/
inductive WireCompiled (F : Type) where
  | operation (answer : WireCallback F)
  | oneWord (answer : WireTransfer F Location)
  | twoWords (answer : WireTransfer F (Location × Location))

namespace WireCompiled

/-- What the answer says without its function. -/
def report : WireCompiled F → CompileAnswer
  | operation answer => answer.report
  | oneWord answer => answer.report fun location => [location]
  | twoWords answer => answer.report fun (low, high) => [low, high]

/-- The engine's form, with any deferred operation bound to `handle`. -/
def decode : WireCompiled F → Handle → Compiled F
  | operation answer, handle => .operation (answer.decode handle)
  | oneWord answer, handle => .oneWord (answer.decode handle)
  | twoWords answer, handle => .twoWords (answer.decode handle)

end WireCompiled

namespace Compiled

/-- The answer to a request for an operation; `none` if it answers something else. -/
def operation? : Compiled F → Option (Option (Callback F))
  | operation answer => some answer
  | _ => none

/-- The answer to a request for a transfer of one word; `none` if it answers something else. -/
def oneWord? : Compiled F → Option (Transfer F Location)
  | oneWord answer => some answer
  | _ => none

/-- The answer to a request for a transfer of two words; `none` if it answers something else. -/
def twoWords? : Compiled F → Option (Transfer F (Location × Location))
  | twoWords answer => some answer
  | _ => none

end Compiled

/-! ### Entries of all forms -/

/-- Calls the entry for a request with the table's own context. Each operand goes to the parameter
of its role; that the seven entries do the same with theirs is what makes one lemma enough. -/
def CoprocessorTable.answer (table : CoprocessorTable σ ν) :
    CompileRequest → Activity σ ν (WireCompiled (DeferredFunction σ ν))
  | .internalOperation two opc1 crd crn crm opc2 =>
    .operation <$> table.internalOperation table.context two opc1 crd crn crm opc2
  | .sendOneWord two opc1 crn crm opc2 =>
    .oneWord <$> table.sendOneWord table.context two opc1 crn crm opc2
  | .sendTwoWords two opc crm => .twoWords <$> table.sendTwoWords table.context two opc crm
  | .getOneWord two opc1 crn crm opc2 =>
    .oneWord <$> table.getOneWord table.context two opc1 crn crm opc2
  | .getTwoWords two opc crm => .twoWords <$> table.getTwoWords table.context two opc crm
  | .loadWords two long crd option =>
    .operation <$> table.loadWords table.context two long crd (.ofOption option)
  | .storeWords two long crd option =>
    .operation <$> table.storeWords table.context two long crd (.ofOption option)

/-- Calls the method of an object for a request. The table of the object calls the same method for
each entry, and nothing in between. -/
def HostCoprocessor.answer (host : HostCoprocessor σ ν) (self : Context) :
    CompileRequest → Activity σ ν (WireCompiled (DeferredFunction σ ν))
  | .internalOperation two opc1 crd crn crm opc2 =>
    .operation <$> host.internalOperation self two opc1 crd crn crm opc2
  | .sendOneWord two opc1 crn crm opc2 => .oneWord <$> host.sendOneWord self two opc1 crn crm opc2
  | .sendTwoWords two opc crm => .twoWords <$> host.sendTwoWords self two opc crm
  | .getOneWord two opc1 crn crm opc2 => .oneWord <$> host.getOneWord self two opc1 crn crm opc2
  | .getTwoWords two opc crm => .twoWords <$> host.getTwoWords self two opc crm
  | .loadWords two long crd option => .operation <$> host.loadWords self two long crd option
  | .storeWords two long crd option => .operation <$> host.storeWords self two long crd option

/-- The entries of the table for an object call the object's methods. -/
theorem HostCoprocessor.answer_table (host : HostCoprocessor σ ν) (self : Context)
    (request : CompileRequest) : (host.table self).answer request = host.answer self request := by
  cases request with
  | loadWords | storeWords =>
    simp only [CoprocessorTable.answer, answer, table, WireOption.toOption_ofOption]
  | _ => rfl

theorem Activity.exec_map (perform : Performer σ ν) (image : α → β) (body : Activity σ ν α) :
    (image <$> body).exec perform = image <$> body.exec perform := by
  rw [← bind_pure_comp, ← bind_pure_comp, exec_bind]
  rfl

namespace CoprocessorBridge

/-- An answer may be read first as one of its type and then as one of its kind, or at once. -/
theorem map_consult {γ δ : Type} (bridge : CoprocessorBridge σ ν) (request : CompileRequest)
    (entry : Activity σ ν α) {report : α → CompileAnswer} {decode : α → Handle → β}
    {kind : α → γ} {image : β → δ} {reportKind : γ → CompileAnswer} {decodeKind : γ → Handle → δ}
    (reports : ∀ wire, reportKind (kind wire) = report wire)
    (decodes : ∀ wire handle, decodeKind (kind wire) handle = image (decode wire handle)) :
    image <$> bridge.consult perform request entry report decode =
      bridge.consult perform request (kind <$> entry) reportKind decodeKind := by
  unfold consult
  simp only [Activity.exec_map, map_bind, bind_map_left, reports, decodes, map_pure]

/-- Forwarding a compile request is calling its entry once and reading the answer. -/
theorem compile_eq (bridge : CoprocessorBridge σ ν) (request : CompileRequest) :
    bridge.compile perform request = bridge.consult perform request (bridge.table.answer request)
      WireCompiled.report WireCompiled.decode := by
  cases request <;> exact bridge.map_consult _ _ (fun _ => rfl) fun _ _ => rfl

end CoprocessorBridge

/-! ### Instructions of all forms -/

namespace Stepping

/-- What a coprocessor instruction does with the answer to its request; false if the instruction is
not implemented. -/
def useCompiled (perform : Performer σ ν) (handle : Handle) (instruction : CoprocessorInstruction)
    (compiled : Option (Compiled (DeferredFunction σ ν))) : Exec σ ν Bool :=
  match instruction with
  | .internalOperation .. =>
    runOperation perform (compiled.bind Compiled.operation?) (pure 0) (pure 0)
  | .sendOneWord _ _ _ _ _ source =>
    sendOneWord perform handle source (compiled.bind Compiled.oneWord?)
  | .getOneWord _ _ _ _ _ target =>
    getOneWord perform handle target (compiled.bind Compiled.oneWord?)
  | .sendTwoWords _ _ _ low high =>
    sendTwoWords perform handle low high (compiled.bind Compiled.twoWords?)
  | .getTwoWords _ _ _ low high =>
    getTwoWords perform handle low high (compiled.bind Compiled.twoWords?)
  | .loadWords _ _ _ _ base | .storeWords _ _ _ _ base =>
    runOperation perform (compiled.bind Compiled.operation?) (readRegister handle base) (pure 0)

theorem map_lending (handle : Handle) (part : EnginePart) (image : α → β) (body : Exec σ ν α) :
    image <$> lending handle part body = lending handle part (image <$> body) := by
  unfold lending
  rw [map_bind]
  refine bind_congr fun engine => ?_
  dsimp only
  split <;> simp only [map_bind, bind_map_left, map_pure]

theorem map_withCoprocessor (handle : Handle) (slot : Fin 16) (image : α → β)
    (compile : CoprocessorBridge σ ν → Exec σ ν α) :
    Option.map image <$> withCoprocessor handle slot compile =
      withCoprocessor handle slot fun bridge => image <$> compile bridge := by
  unfold withCoprocessor
  rw [map_lending]
  simp only [map_bind]
  congr 1
  refine bind_congr fun engine => ?_
  split <;> simp only [map_bind, bind_map_left, map_pure, Option.map_some, Option.map_none]

/-- A coprocessor instruction asks the coprocessor in its slot once, and uses the answer. -/
theorem coprocessor_eq (handle : Handle) (slot : Fin 16) (instruction : CoprocessorInstruction) :
    coprocessor perform handle slot instruction = (do
      let compiled ← withCoprocessor handle slot fun bridge =>
        bridge.compile perform instruction.request
      useCompiled perform handle instruction compiled) := by
  cases instruction <;>
    simp only [coprocessor, useCompiled, CoprocessorInstruction.request, CoprocessorBridge.compile,
      ← map_withCoprocessor, bind_map_left] <;>
    refine bind_congr fun compiled => ?_ <;> cases compiled <;> rfl

end Stepping

end RecompilerAdapter
