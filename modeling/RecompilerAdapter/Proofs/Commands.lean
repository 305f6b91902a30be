/-
Module: RecompilerAdapter.Proofs.Commands
Purpose: What commands do, whatever they are given: how each one completes, and how each one stops.
Trusted boundary: none
Main exports: Command.Completes, Command.Stops, Command.exec_ensures, Command.Completes.exec
-/
import RecompilerAdapter.Proofs.Building

namespace RecompilerAdapter

variable {σ ν ρ : Type} {perform : Performer σ ν} {world : World σ ν}

namespace Command

/-- The tables of a foreign constructor's array, which may be missing. -/
def arrayTables :
    Option (Vector (WireOption (CoprocessorTable σ ν)) coprocessorCount) → CoprocessorTables σ ν
  | some tables => tables.map WireOption.toOption
  | none => Vector.replicate coprocessorCount none

/-- What a wrapper is built from on the foreign surface. It has no options of its own, so the engine
gets the defaults. -/
def foreignBuilder (userData : UserData) (callbacks : CallbackTable σ ν)
    (pageTable : Option (PageTable σ))
    (coprocessors : Option (Vector (WireOption (CoprocessorTable σ ν)) coprocessorCount)) :
    Builder σ ν :=
  { (Builder.new userData callbacks).withPageTable pageTable with
    coprocessors := arrayTables coprocessors }

/-- How a command completes, with the builders and the world that it leaves. Everything but the work
of engines and callbacks is told exactly; of that it is told that it is made of moves. -/
inductive Completes (builders : Builders σ ν) (world : World σ ν) :
    Command σ ν ρ → Outcome ρ → Builders σ ν → World σ ν → Prop where
  | openBuilder {number : Nat} {userData : UserData} {callbacks : CallbackTable σ ν} :
      Completes builders world (.openBuilder number userData callbacks) .done
        (builders.insert number (.new userData callbacks))
        (world.recordAll (((builders.get? number).map Builder.releases).getD []))
  | usePageTable {number : Nat} {pageTable : Option (PageTable σ)} {builder : Builder σ ν}
      (present : builders.get? number = some builder) :
      Completes builders world (.usePageTable number pageTable) .done
        (builders.insert number (builder.withPageTable pageTable)) world
  | useOptions {number : Nat} {options : Options} {builder : Builder σ ν}
      (present : builders.get? number = some builder) :
      Completes builders world (.useOptions number options) .done
        (builders.insert number (builder.withOptions options)) world
  | install {number slot : Nat} {table : CoprocessorTable σ ν} {builder : Builder σ ν}
      (present : builders.get? number = some builder) (inRange : slot < coprocessorCount) :
      Completes builders world (.installCoprocessor number slot table) .done
        (builders.insert number
          { builder with coprocessors := builder.coprocessors.set slot (some table) })
        (world.recordAll (CoprocessorTable.replaces slot builder.coprocessors[slot]))
  | reject {number slot : Nat} {table : CoprocessorTable σ ν} {builder : Builder σ ν}
      (present : builders.get? number = some builder) (outOfRange : ¬ slot < coprocessorCount) :
      Completes builders world (.installCoprocessor number slot table)
        (.refused (.invalidCoprocessorSlot slot)) (builders.erase number)
        (world.recordAll (.destroyed table.context :: builder.releases))
  | installAll {number : Nat} {tables : CoprocessorTables σ ν} {builder : Builder σ ν}
      (present : builders.get? number = some builder) :
      Completes builders world (.installCoprocessors number tables) .done
        (builders.insert number { builder with coprocessors := tables })
        (world.recordAll builder.releases)
  | dropBuilder {number : Nat} {builder : Builder σ ν}
      (present : builders.get? number = some builder) :
      Completes builders world (.dropBuilder number) .done (builders.erase number)
        (world.recordAll builder.releases)
  | build {number : Nat} {engine : EngineChoice} {builder : Builder σ ν} {handle : Handle}
      {after : World σ ν} (present : builders.get? number = some builder)
      (builds : builder.Builds world (.ok handle) after) :
      Completes builders world (.build number engine) (.built handle) (builders.erase number) after
  | refuse {number : Nat} {engine : EngineChoice} {builder : Builder σ ν} {error : EngineError}
      {after : World σ ν} (present : builders.get? number = some builder)
      (builds : builder.Builds world (.error error) after) :
      Completes builders world (.build number engine) (.refused (.engineConstruction error))
        (builders.erase number) after
  | construct {userData : UserData} {callbacks : CallbackTable σ ν}
      {pageTable : Option (PageTable σ)}
      {coprocessors : Option (Vector (WireOption (CoprocessorTable σ ν)) coprocessorCount)}
      {engine : EngineChoice} {handle : Handle} {after : World σ ν}
      (builds : (foreignBuilder userData callbacks pageTable coprocessors).Builds world (.ok handle)
        after) :
      Completes builders world (.construct userData callbacks pageTable coprocessors engine)
        (.built handle) builders after
  | delete {handle : Handle} {wrapper : Wrapper σ ν}
      (present : world.wrappers.get? handle = some wrapper) :
      Completes builders world (.delete handle) .done builders
        (World.remove handle (world.recordAll
          (.log (.destroyingEngine wrapper.userData) :: wrapper.engine.configuration.releases)))
  | call {body : Activity σ ν ρ} {answer : ρ} {after : World σ ν}
      (reaches : Reaches [] world after) :
      Completes builders world (.call body) (.answered answer) builders after

/-- How a command stops, with the world that it leaves. The builders are lost then, so nothing is
said of them. -/
inductive Stops (builders : Builders σ ν) (world : World σ ν) :
    Command σ ν ρ → Stop → World σ ν → Prop where
  | stuck {command : Command σ ν ρ} {stop : Stop} (harmless : ∀ reason, stop ≠ .fatal reason) :
      Stops builders world command stop world
  | build {number : Nat} {engine : EngineChoice} {builder : Builder σ ν} {stop : Stop}
      {after : World σ ν} (present : builders.get? number = some builder)
      (halts : Scripted.HaltsProbing (builder.configuration world.slots.allocate.1)
        (world.prepared builder) stop after) :
      Stops builders world (.build number engine) stop after
  | construct {userData : UserData} {callbacks : CallbackTable σ ν}
      {pageTable : Option (PageTable σ)}
      {coprocessors : Option (Vector (WireOption (CoprocessorTable σ ν)) coprocessorCount)}
      {engine : EngineChoice} {stop : Stop} {after : World σ ν}
      (halts : Scripted.HaltsProbing
        ((foreignBuilder userData callbacks pageTable coprocessors).configuration
          world.slots.allocate.1)
        (world.prepared (foreignBuilder userData callbacks pageTable coprocessors)) stop after) :
      Stops builders world (.construct userData callbacks pageTable coprocessors engine) stop after
  | fail {userData : UserData} {callbacks : CallbackTable σ ν} {pageTable : Option (PageTable σ)}
      {coprocessors : Option (Vector (WireOption (CoprocessorTable σ ν)) coprocessorCount)}
      {engine : EngineChoice} {error : EngineError} {failed : World σ ν}
      (builds : (foreignBuilder userData callbacks pageTable coprocessors).Builds world
        (.error error) failed) :
      Stops builders world (.construct userData callbacks pageTable coprocessors engine)
        (.fatal .constructionFailed)
        (failed.record (.log (.constructorFailed (.engineConstruction error))))
  | call {body : Activity σ ν ρ} {stop : Stop} {after : World σ ν}
      (halts : Halts world stop after) : Stops builders world (.call body) stop after

theorem find_ensures {builders : Builders σ ν} {number : Nat} {command : Command σ ν ρ} :
    (find builders number).Ensures world
      (fun builder after => builders.get? number = some builder ∧ after = world)
      (Stops builders world command) := by
  unfold find
  cases present : builders.get? number with
  | none => exact Exec.Ensures.throw (.stuck nofun)
  | some builder => exact Exec.Ensures.pure ⟨rfl, rfl⟩

theorem withCoprocessor_ensures {builder : Builder σ ν} {slot : Nat}
    {table : CoprocessorTable σ ν} {stopped : Stop → World σ ν → Prop} :
    (builder.withCoprocessor slot table).Ensures world
      (fun result after =>
        (∃ inRange : slot < coprocessorCount,
          result = .ok { builder with
            coprocessors := builder.coprocessors.set slot (some table) } ∧
          after = world.recordAll
            (CoprocessorTable.replaces slot builder.coprocessors[slot])) ∨
        (¬ slot < coprocessorCount ∧ result = .error (.invalidCoprocessorSlot slot) ∧
          after = world.recordAll (.destroyed table.context :: builder.releases))) stopped := by
  unfold Builder.withCoprocessor
  split
  · rename_i inRange
    cases held : builder.coprocessors[slot] with
    | none => exact Exec.Ensures.pure (.inl ⟨inRange, rfl, by rw [held]; rfl⟩)
    | some previous => exact .inl ⟨inRange, rfl, by rw [held]; rfl⟩
  · rename_i outOfRange
    refine Exec.Ensures.emit_bind (Exec.Ensures.bind builder.release_records.ensures ?_)
    rintro _ _ rfl
    exact Exec.Ensures.pure (.inr ⟨outOfRange, rfl, rfl⟩)

theorem withCoprocessors_ensures {builder : Builder σ ν} {tables : CoprocessorTables σ ν}
    {stopped : Stop → World σ ν → Prop} :
    (builder.withCoprocessors tables).Ensures world
      (fun result after => result = { builder with coprocessors := tables } ∧
        after = world.recordAll builder.releases) stopped := by
  apply Exec.Ensures.bind builder.release_records.ensures
  rintro _ _ rfl
  exact Exec.Ensures.pure ⟨rfl, rfl⟩

theorem change_ensures {builders : Builders σ ν} {number : Nat} {command : Command σ ν ρ}
    {update : Builder σ ν → Builder σ ν}
    (completes : ∀ builder, builders.get? number = some builder →
      Completes builders world command .done (builders.insert number (update builder)) world) :
    (change (ρ := ρ) builders number update).Ensures world
      (fun outcome => Completes builders world command outcome.1 outcome.2)
      (Stops builders world command) := by
  apply Exec.Ensures.bind find_ensures
  rintro builder _ ⟨present, rfl⟩
  exact Exec.Ensures.pure (completes builder present)

/-- The new builder of a foreign constructor holds no tables, so nothing is released when it gets
those of the array. -/
theorem construct_eq (userData : UserData) (callbacks : CallbackTable σ ν)
    (pageTable : Option (PageTable σ))
    (coprocessors : Option (Vector (WireOption (CoprocessorTable σ ν)) coprocessorCount))
    (engine : EngineChoice) :
    Wrapper.construct perform userData callbacks pageTable coprocessors engine = (do
      match ← (foreignBuilder userData callbacks pageTable coprocessors).build perform engine with
      | .ok handle => return handle
      | .error error =>
        Exec.emit (.log (.constructorFailed (.engineConstruction error)))
        Exec.abort .constructionFailed) := by
  have replaced : ((Builder.new userData callbacks).withPageTable pageTable).withCoprocessors
      (arrayTables coprocessors) =
      (pure (foreignBuilder userData callbacks pageTable coprocessors) : Exec σ ν _) := rfl
  have tables : Wrapper.construct perform userData callbacks pageTable coprocessors engine = (do
      let builder ← ((Builder.new userData callbacks).withPageTable pageTable).withCoprocessors
        (arrayTables coprocessors)
      match ← builder.build perform engine with
      | .ok handle => return handle
      | .error error =>
        Exec.emit (.log (.constructorFailed (.engineConstruction error)))
        Exec.abort .constructionFailed) := by
    cases coprocessors <;> rfl
  rw [tables, replaced, pure_bind]

theorem construct_ensures (proceeds : perform.Proceeds) (builders : Builders σ ν)
    (userData : UserData) (callbacks : CallbackTable σ ν) (pageTable : Option (PageTable σ))
    (coprocessors : Option (Vector (WireOption (CoprocessorTable σ ν)) coprocessorCount))
    (engine : EngineChoice) (idle : openRuns world.history = []) :
    (Wrapper.construct perform userData callbacks pageTable coprocessors engine).Ensures world
      (fun handle => Completes builders world
        (.construct (ρ := ρ) userData callbacks pageTable coprocessors engine) (.built handle)
        builders)
      (Stops builders world
        (.construct (ρ := ρ) userData callbacks pageTable coprocessors engine)) := by
  rw [construct_eq]
  apply Exec.Ensures.bind ((Builder.build_ensures proceeds engine idle).mono
    (fun _ _ builds => builds) fun _ _ halts => .construct halts)
  rintro (error | handle) after builds
  · exact Exec.Ensures.emit_bind (Exec.Ensures.throw (.fail builds))
  · exact Exec.Ensures.pure (.construct builds)

theorem delete_ensures (builders : Builders σ ν) (handle : Handle) :
    (Wrapper.delete handle).Ensures world
      (fun _ => Completes builders world (.delete (ρ := ρ) handle) .done builders)
      (Stops builders world (.delete (ρ := ρ) handle)) := by
  refine Exec.Ensures.wrapper_bind (fun wrapper present => ?_) fun _ => .stuck nofun
  have dropped := wrapper.engine.configuration.drop_records
  refine Exec.Ensures.emit_bind (Exec.Ensures.bind dropped.ensures ?_)
  rintro _ _ rfl
  exact Completes.delete present

/-- A command neither builds a wrapper nor runs code of the caller. -/
def Plain : Command σ ν ρ → Prop
  | .build .. | .construct .. | .call _ => False
  | _ => True

/-- A plain command completes or stops, at any time. It performs no action, so it does not matter
whether runs are open. -/
theorem plain_ensures (builders : Builders σ ν) {command : Command σ ν ρ} (plain : command.Plain) :
    (command.exec perform builders).Ensures world
      (fun outcome => Completes builders world command outcome.1 outcome.2)
      (Stops builders world command) := by
  cases command with
  | openBuilder number userData callbacks =>
    have released : Exec.Records (σ := σ) ((builders.get? number).forM Builder.release)
        (((builders.get? number).map Builder.releases).getD []) := by
      cases builders.get? number with
      | none => exact .pure
      | some builder => exact builder.release_records
    apply Exec.Ensures.bind released.ensures
    rintro _ _ rfl
    exact Completes.openBuilder
  | usePageTable number pageTable => exact change_ensures fun _ => .usePageTable
  | useOptions number options => exact change_ensures fun _ => .useOptions
  | installCoprocessor number slot table =>
    apply Exec.Ensures.bind find_ensures
    rintro builder _ ⟨present, rfl⟩
    apply Exec.Ensures.bind withCoprocessor_ensures
    rintro _ _ (⟨inRange, rfl, rfl⟩ | ⟨outOfRange, rfl, rfl⟩)
    · exact Completes.install present inRange
    · exact Completes.reject present outOfRange
  | installCoprocessors number tables =>
    apply Exec.Ensures.bind find_ensures
    rintro builder _ ⟨present, rfl⟩
    apply Exec.Ensures.bind withCoprocessors_ensures
    rintro _ _ ⟨rfl, rfl⟩
    exact Completes.installAll present
  | dropBuilder number =>
    apply Exec.Ensures.bind find_ensures
    rintro builder middle ⟨present, rfl⟩
    apply Exec.Ensures.bind builder.release_records.ensures
    rintro _ _ rfl
    exact Completes.dropBuilder present
  | delete handle =>
    apply Exec.Ensures.bind (delete_ensures builders handle)
    intro _ after completes
    exact completes
  | build | construct | call => exact plain.elim

/-- A command that is carried out between runs completes or stops. Building and calling proceed as
the performer does; all other commands are plain. -/
theorem exec_ensures (proceeds : perform.Proceeds) (builders : Builders σ ν)
    (command : Command σ ν ρ) (idle : openRuns world.history = []) :
    (command.exec perform builders).Ensures world
      (fun outcome => Completes builders world command outcome.1 outcome.2)
      (Stops builders world command) := by
  cases command with
  | build number engine =>
    apply Exec.Ensures.bind find_ensures
    rintro builder middle ⟨present, rfl⟩
    apply Exec.Ensures.bind ((Builder.build_ensures proceeds engine idle).mono
      (fun _ _ builds => builds) fun _ _ halts => .build present halts)
    rintro (error | handle) after builds
    · exact Completes.refuse present builds
    · exact Completes.build present builds
  | construct userData callbacks pageTable coprocessors engine =>
    apply Exec.Ensures.bind (construct_ensures proceeds builders userData callbacks pageTable
      coprocessors engine idle)
    intro handle after completes
    exact completes
  | call body =>
    have called := Activity.exec_proceeds proceeds body (.of_idle idle) idle
    refine Exec.Ensures.bind (Exec.Ensures.mono called (fun _ _ holds => holds)
      fun _ _ halts => .call halts) fun answer after ⟨reaches, _⟩ => ?_
    exact Completes.call reaches
  | openBuilder | usePageTable | useOptions | installCoprocessor | installCoprocessors | dropBuilder
    | delete => exact plain_ensures builders trivial

theorem find_of_present {builders : Builders σ ν} {number : Nat} {builder : Builder σ ν}
    (present : builders.get? number = some builder) (world : World σ ν) :
    find builders number world = .ok builder world := by
  rw [find, present]
  rfl

/-- Plain commands end in one way only. What they complete with can therefore be computed, whoever
performs actions. -/
theorem Completes.exec {performer : Performer σ ν} {builders remaining : Builders σ ν}
    {after : World σ ν} {command : Command σ ν ρ} {outcome : Outcome ρ}
    (completes : Completes builders world command outcome remaining after) (plain : command.Plain) :
    command.exec performer builders world = .ok (outcome, remaining) after := by
  cases completes with
  | @openBuilder number =>
    rw [Command.exec]
    cases builders.get? number with
    | none => rfl
    | some builder => exact Exec.bind_of_ok (builder.release_records world)
  | usePageTable present => exact Exec.bind_of_ok (find_of_present present world)
  | useOptions present => exact Exec.bind_of_ok (find_of_present present world)
  | @install number slot table builder present inRange =>
    rw [Command.exec, Exec.bind_of_ok (find_of_present present world), Builder.withCoprocessor,
      dif_pos inRange]
    cases builder.coprocessors[slot] <;> rfl
  | @reject number slot table builder present outOfRange =>
    rw [Command.exec, Exec.bind_of_ok (find_of_present present world), Builder.withCoprocessor,
      dif_neg outOfRange, CoprocessorTable.release]
    have released := builder.release_records (world.record (.destroyed table.context))
    simp only [bind_assoc]
    rw [Exec.bind_of_ok (Exec.emit_apply _ _), Exec.bind_of_ok released]
    rfl
  | @installAll number tables builder present =>
    rw [Command.exec, Exec.bind_of_ok (find_of_present present world), Builder.withCoprocessors,
      bind_assoc, Exec.bind_of_ok (builder.release_records world)]
    rfl
  | @dropBuilder number builder present =>
    rw [Command.exec, Exec.bind_of_ok (find_of_present present world),
      Exec.bind_of_ok (builder.release_records world)]
    rfl
  | @delete handle wrapper present =>
    have dropped := wrapper.engine.configuration.drop_records
      (world.record (.log (.destroyingEngine wrapper.userData)))
    rw [Command.exec, Wrapper.delete, bind_assoc, Exec.bind_of_ok (Exec.wrapper_of_present present),
      bind_assoc, Exec.bind_of_ok (Exec.emit_apply _ _), bind_assoc, Exec.bind_of_ok dropped]
    rfl
  | build | refuse | construct | call => exact plain.elim

end Command

end RecompilerAdapter
