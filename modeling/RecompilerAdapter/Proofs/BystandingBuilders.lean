/-
Module: RecompilerAdapter.Proofs.BystandingBuilders
Purpose: Building and deleting beside a wrapper. Builders of other wrappers hold nothing that concerns the
  wrapper. So whatever is built from them passes it by, and so does what is deleted, with one exception: a
  new wrapper may take the place that the wrapper itself is to have, its handle or the slot of its
  bridges.
Trusted boundary: none
Main exports: Builder.Avoids, Arrangements.Avoid, Exec.Spares, Builder.build_spares,
  Arrangement.exec_spares
-/
import RecompilerAdapter.Adapter.Arrangement
import RecompilerAdapter.Proofs.Bystanders
import RecompilerAdapter.Proofs.Sessions

namespace RecompilerAdapter

variable {σ ν ω α β : Type} {own : Belongings σ ν ω} {start world : World σ ν}
  {perform : Performer σ ν}

/-! ### Wrappers with stepping engines -/

namespace World

/-- The world with a new wrapper in place that has a stepping engine. The construction of such an
engine calls nobody, so this world is known in advance. -/
def stepping (world : World σ ν) (builder : Builder σ ν) : World σ ν :=
  (world.prepared builder).attached world.slots.allocate.1 builder.userData
    (.stepping (builder.configuration world.slots.allocate.1))

@[simp] theorem get?_stepping (world : World σ ν) (builder : Builder σ ν) (handle : Handle) :
    (world.stepping builder).wrappers.get? handle =
      if handle = ⟨world.built + 1⟩ then
        some ⟨builder.userData, .constructed,
          .stepping (builder.configuration world.slots.allocate.1)⟩
      else world.wrappers.get? handle :=
  Registry.get?_insert ..

@[simp] theorem slot_stepping (world : World σ ν) (builder : Builder σ ν) (slot : HandleSlot) :
    (world.stepping builder).slots.get? slot =
      if slot = world.slots.allocate.1 then some ⟨world.built + 1⟩ else world.slots.get? slot := by
  show (world.slots.allocate.2.fill world.slots.allocate.1 ⟨world.built + 1⟩).get? slot = _
  split
  · rename_i same
    rw [same, HandleSlots.get?_fill_self]
    · simp [HandleSlots.allocate]
    · simp [Handle.isNull]
  · rename_i different
    rw [HandleSlots.get?_fill_other different, HandleSlots.get?_allocate]

@[simp] theorem history_stepping (world : World σ ν) (builder : Builder σ ν) :
    (world.stepping builder).history = world.history ++
      [.log (.constructing (builder.configuration world.slots.allocate.1).populated.length
        builder.pageTable.isSome),
        .attached world.slots.allocate.1 ⟨world.built + 1⟩ builder.userData] := by
  simp only [stepping, history_attached, prepared, history_record, List.append_assoc]
  rfl

/-- The world in which a stepping engine was refused. -/
def refusing (world : World σ ν) (builder : Builder σ ν) : World σ ν :=
  (world.prepared builder).recordAll (builder.configuration world.slots.allocate.1).releases

end World

/-- A stepping engine is constructed if its memory is little-endian. -/
theorem Builder.build_stepping (performer : Performer σ ν) (builder : Builder σ ν)
    (world : World σ ν) :
    (builder.build performer .stepping).Ensures world
      (fun result after =>
        builder.options.alwaysLittleEndian = true ∧ result = .ok ⟨world.built + 1⟩ ∧
          after = world.stepping builder ∨
        builder.options.alwaysLittleEndian = false ∧ (∃ error, result = .error error) ∧
          after = world.refusing builder) fun _ _ => False := by
  unfold build Exec.allocateSlot
  refine Exec.Ensures.modifyGet_bind (Exec.Ensures.emit_bind ?_)
  simp only [EngineChoice.construct]
  have unbound := (builder.prepared_unbound world).callbacks
  split
  · rename_i littleEndian
    rw [pure_bind]
    apply Exec.Ensures.bind (attach_ensures unbound)
    rintro _ _ ⟨rfl, rfl⟩
    exact .inl ⟨littleEndian, rfl, rfl⟩
  · rename_i bigEndian
    rw [pure_bind]
    apply Exec.Ensures.bind (EngineConfiguration.drop_records _).ensures
    rintro _ _ rfl
    exact .inr ⟨by simpa [configuration] using bigEndian, ⟨_, rfl⟩, rfl⟩

/-! ### Builders of others -/

section

variable (own : Belongings σ ν ω)

/-- The callbacks of another wrapper leave the wrapper's part of the caller's side alone. Bodies of
callbacks have no handle of their own, so this is said of every handle but the wrapper's. -/
def CallbackTable.Avoids (table : CallbackTable σ ν) : Prop :=
  ∀ request entry handle, handle ≠ own.handle → table.entry? request = some entry →
    (entry handle).Avoids own fun _ => True

/-- A coprocessor of another wrapper leaves the wrapper's part of the caller's side alone. -/
def CoprocessorTable.Avoids (table : CoprocessorTable σ ν) : Prop :=
  ∀ request, (table.answer request).Avoids own fun wire =>
    ∀ handle, handle ≠ own.handle → (wire.decode handle).Avoids own

/-- Whatever a builder of another wrapper holds leaves the wrapper alone. -/
structure Builder.Avoids (builder : Builder σ ν) : Prop where
  callbacks : builder.callbacks.Avoids own
  coprocessors : ∀ table, some table ∈ builder.coprocessors → table.Avoids own

/-- What another wrapper's builder is given leaves the wrapper alone. -/
inductive Setting.Avoids : Setting σ ν → Prop where
  | pageTable {pageTable : Option (PageTable σ)} : Avoids (.pageTable pageTable)
  | options {options : Options} : Avoids (.options options)
  | coprocessor {slot : Nat} {table : CoprocessorTable σ ν} (avoids : table.Avoids own) :
      Avoids (.coprocessor slot table)
  | coprocessors {tables : CoprocessorTables σ ν}
      (avoid : ∀ table, some table ∈ tables → table.Avoids own) : Avoids (.coprocessors tables)

/-- What is arranged is about other wrappers with stepping engines, and leaves the wrapper alone. A
deletion has nothing in it that could touch the wrapper; on whom it acts is decided where it is
carried out. -/
inductive Arrangement.Avoids : Arrangement σ ν → Prop where
  | build {userData : UserData} {callbacks : CallbackTable σ ν} {settings : List (Setting σ ν)}
      (callbacksAvoid : callbacks.Avoids own)
      (settingsAvoid : ∀ setting ∈ settings, setting.Avoids own) :
      Avoids (.build userData callbacks settings .stepping)
  | construct {userData : UserData} {callbacks : CallbackTable σ ν} {pageTable : Option (PageTable σ)}
      {coprocessors : Option (Vector (WireOption (CoprocessorTable σ ν)) coprocessorCount)}
      (avoids : (Command.foreignBuilder userData callbacks pageTable coprocessors).Avoids own) :
      Avoids (.construct userData callbacks pageTable coprocessors .stepping)
  | delete : Avoids .delete

/-- All that a caller has arranged leaves the wrapper alone. -/
def Arrangements.Avoid (arrangements : Arrangements σ ν) : Prop :=
  ∀ number arrangement, arrangements number = some arrangement → arrangement.Avoids own

end

namespace Builder.Avoids

variable {builder : Builder σ ν}

theorem new (userData : UserData) {callbacks : CallbackTable σ ν} (avoids : callbacks.Avoids own) :
    (Builder.new userData callbacks).Avoids own := by
  refine ⟨avoids, fun table isTable => ?_⟩
  simp [Builder.new] at isTable

/-- An engine that is built by others has no part in what belongs to the wrapper, as long as its
bridges do not share the wrapper's slot. -/
theorem configuration (avoids : builder.Avoids own) {slot : HandleSlot} (different : slot ≠ own.slot) :
    (builder.configuration slot).Avoids own where
  slot := different
  entries request entry handle other isEntry := avoids.callbacks request entry handle other isEntry
  bridges bridge employed := by
    refine ⟨builder.slot_of_employed employed ▸ different, ?_⟩
    obtain ⟨index, inRange, isBridge⟩ := Vector.mem_iff_getElem.1 employed
    simp only [Builder.configuration, Vector.getElem_mapIdx, Option.map_eq_some_iff] at isBridge
    obtain ⟨table, isTable, rfl⟩ := isBridge
    exact avoids.coprocessors table (Vector.mem_of_getElem isTable)

/-- A table that has no part in it may be installed. -/
theorem install (avoids : builder.Avoids own) {slot : Nat} (inRange : slot < coprocessorCount)
    {table : CoprocessorTable σ ν} (another : table.Avoids own) :
    ({ builder with coprocessors := builder.coprocessors.set slot (some table) } :
      Builder σ ν).Avoids own := by
  refine ⟨avoids.callbacks, fun any (isAny : some any ∈ builder.coprocessors.set slot _ inRange) => ?_⟩
  rcases Vector.mem_or_eq_of_mem_set isAny with earlier | new
  · exact avoids.coprocessors any earlier
  · cases new
    exact another

end Builder.Avoids

/-- So does what is arranged for an action. -/
theorem Arrangements.Avoid.find {arrangements : Arrangements σ ν} (avoid : arrangements.Avoid own)
    {action : Action} {arrangement : Arrangement σ ν}
    (arranged : arrangements.find? action = some arrangement) : arrangement.Avoids own := by
  cases action with
  | arrange number => exact avoid number arrangement arranged
  | _ => cases arranged

/-! ### What passes by -/

namespace Event.Plain

variable {event : Event ν} (plain : event.Plain)

include plain

/-- What is told while wrappers are built and deleted belongs to nobody. -/
theorem foreign : event.belongs own = false := by
  cases event <;> first | rfl | exact plain.elim

theorem afterEvent (handle : Handle) (engine : Engine σ ν) :
    engine.afterEvent handle event = engine := by
  cases event <;> first | rfl | exact plain.elim

end Event.Plain

namespace Passed

variable {builder : Builder σ ν}

theorem recordAll {events : List (Event ν)} (passed : Passed own start world)
    (plain : ∀ event ∈ events, event.Plain) : Passed own start (world.recordAll events) := by
  induction events generalizing world with
  | nil => exact passed
  | cons event events ih =>
    rw [List.forall_mem_cons] at plain
    exact ih (passed.record plain.1.foreign (plain.1.afterEvent own.handle)) plain.2

/-- A slot that stays unbound is nothing to the wrapper. -/
theorem prepared (passed : Passed own start world) (builder : Builder σ ν) :
    Passed own start (world.prepared builder) := by
  have allocated : Passed own start { world with slots := world.slots.allocate.2 } := by
    refine passed.trans ⟨⟨?_, passed.beside.others⟩, ?_, rfl, [], (List.append_nil _).symm, by simp,
      ?_⟩
    · simpa using passed.beside.sole
    · exact HandleSlots.get?_allocate world.slots own.slot
    · cases world.wrappers.get? own.handle <;> rfl
  exact allocated.record rfl fun _ => rfl

/-- Another wrapper's engine is refused. -/
theorem refusing (passed : Passed own start world) (builder : Builder σ ν) :
    Passed own start (world.refusing builder) :=
  (passed.prepared builder).recordAll (EngineConfiguration.releases_plain _)

/-- Another wrapper is built, and takes neither the handle of the wrapper nor its slot. -/
theorem stepping (passed : Passed own start world) (avoids : builder.Avoids own)
    (slot : world.slots.allocate.1 ≠ own.slot) (handle : ⟨world.built + 1⟩ ≠ own.handle) :
    Passed own start (world.stepping builder) := by
  refine passed.trans ⟨⟨?_, ?_⟩, ?_, rfl, _, world.history_stepping builder, ?_, ?_⟩
  · intro bridge isBound
    rw [World.slot_stepping] at isBound
    split at isBound
    · exact absurd (Option.some.inj isBound) handle
    · exact passed.beside.sole bridge isBound
  · intro bystander wrapper apart present
    rw [World.get?_stepping] at present
    split at present
    · cases present
      refine ⟨avoids.configuration slot, fun compiled isScripted => ?_⟩
      cases isScripted
    · exact passed.beside.others bystander wrapper apart present
  · rw [World.slot_stepping, if_neg slot.symm]
  · simp [Event.belongs]
  · rw [World.get?_stepping, if_neg handle.symm]
    cases world.wrappers.get? own.handle <;> rfl

/-- Another wrapper is deleted. -/
theorem remove {target : Handle} (passed : Passed own start world) (different : target ≠ own.handle) :
    Passed own start (World.remove target world) := by
  refine passed.trans ⟨⟨passed.beside.sole, ?_⟩, rfl, rfl, [], (List.append_nil _).symm, by simp, ?_⟩
  · intro bystander wrapper apart present
    simp only [World.remove, Registry.get?_erase] at present
    split at present
    · cases present
    · exact passed.beside.others bystander wrapper apart present
  · simp only [World.remove, Registry.get?_erase, if_neg different.symm]
    cases world.wrappers.get? own.handle <;> rfl

end Passed

/-! ### What spares a wrapper -/

namespace Exec

/-- What a computation does passes the wrapper by, unless it has given the wrapper's place to
another one, as its answer or the slot tells. -/
def Spares (own : Belongings σ ν ω) (start : World σ ν) (computation : Exec σ ν α)
    (taken : α → Prop) : Prop :=
  ∀ world, Passed own start world → computation.Ensures world
    (fun answer after => ¬ taken answer → after.slots.get? own.slot = start.slots.get? own.slot →
      Passed own start after) fun _ _ => True

variable {yields : α → Prop} {taken : β → Prop}

theorem Aside.spares {taken : α → Prop} {computation : Exec σ ν α}
    (aside : computation.Aside own start yields) : computation.Spares own start taken :=
  fun world passed => (aside world passed).mono (fun _ _ ends _ _ => ends.1) fun _ _ => id

theorem Aside.bind_spares {computation : Exec σ ν α} {next : α → Exec σ ν β}
    (first : computation.Aside own start yields)
    (rest : ∀ answer, yields answer → (next answer).Spares own start taken) :
    (computation >>= next).Spares own start taken :=
  fun world passed => (first world passed).bind fun answer after ⟨stillPassed, holds⟩ =>
    rest answer holds after stillPassed

theorem Spares.pure (answer : β) : (Pure.pure answer : Exec σ ν β).Spares own start taken :=
  fun _ passed _ _ => passed

/-- The answer may be put in other words, if they tell as much of the wrapper's place. -/
theorem Spares.map {before : α → Prop} {computation : Exec σ ν α}
    (first : computation.Spares own start before) (reword : α → β)
    (tells : ∀ answer, before answer → taken (reword answer)) :
    (computation >>= fun answer => Pure.pure (reword answer)).Spares own start taken :=
  fun world passed => (first world passed).bind fun answer _ spared untaken =>
    spared (mt (tells answer) untaken)

end Exec

namespace Builder

variable {builder : Builder σ ν}

/-- A builder of another wrapper is changed. Tables that are replaced or rejected are released, and
what is installed has no part in what belongs to the wrapper either. -/
theorem set_aside (avoids : builder.Avoids own) {setting : Setting σ ν} (given : setting.Avoids own) :
    (builder.set setting).Aside own start fun result =>
      ∀ changed, result = .ok changed → changed.Avoids own := by
  cases given with
  | pageTable | options =>
    refine .pure ?_
    rintro _ ⟨⟩
    exact ⟨avoids.callbacks, avoids.coprocessors⟩
  | coprocessor tableAvoids =>
    intro world passed
    refine Command.withCoprocessor_ensures.mono ?_ fun _ _ => id
    rintro result after (⟨inRange, rfl, rfl⟩ | ⟨-, rfl, rfl⟩)
    · refine ⟨passed.recordAll (CoprocessorTable.replaces_plain _ _), ?_⟩
      rintro _ ⟨⟩
      exact avoids.install inRange tableAvoids
    · refine ⟨passed.recordAll (Command.rejecting_plain _ builder), ?_⟩
      rintro _ ⟨⟩
  | coprocessors avoid =>
    intro world passed
    refine Command.withCoprocessors_ensures.bind ?_
    rintro changed _ ⟨rfl, rfl⟩
    refine ⟨passed.recordAll builder.releases_plain, ?_⟩
    rintro _ ⟨⟩
    exact ⟨avoids.callbacks, avoid⟩

/-- By induction on the settings: a builder stays one that has no part in what belongs to the
wrapper. -/
theorem setAll_aside {settings : List (Setting σ ν)} (avoids : builder.Avoids own)
    (given : ∀ setting ∈ settings, setting.Avoids own) :
    (builder.setAll settings).Aside own start fun result =>
      ∀ changed, result = .ok changed → changed.Avoids own := by
  induction settings generalizing builder with
  | nil =>
    refine .pure ?_
    rintro _ ⟨⟩
    exact avoids
  | cons setting settings ih =>
    rw [List.forall_mem_cons] at given
    refine (set_aside avoids given.1).bind fun result changed => ?_
    cases result with
    | ok builder => exact ih (changed builder rfl) given.2
    | error error =>
      refine .pure ?_
      rintro _ ⟨⟩

/-- Another wrapper is built, or its engine is refused. -/
theorem build_spares (avoids : builder.Avoids own) :
    (builder.build perform .stepping).Spares own start fun result => result = .ok own.handle := by
  intro world passed
  refine (builder.build_stepping perform world).mono ?_ fun _ _ => False.elim
  rintro _ _ (⟨-, rfl, rfl⟩ | ⟨-, -, rfl⟩) untaken unbound
  · refine passed.stepping avoids (fun same => ?_) fun same => untaken (congrArg _ same)
    -- A slot that was just created was unbound before, so binding it would have changed it.
    rw [← passed.slot, World.slot_stepping, if_pos same.symm, ← same, HandleSlots.get?_new] at unbound
    cases unbound
  · exact passed.refusing builder

end Builder

/-- Another wrapper is deleted, and releases what it holds. -/
theorem Wrapper.delete_aside {target : Handle} (different : target ≠ own.handle) :
    (delete target).Aside own start fun _ => True := by
  intro world passed
  apply Exec.Ensures.wrapper_bind
  · intro wrapper _
    apply Exec.Ensures.emit_bind
    apply Exec.Ensures.bind (EngineConfiguration.drop_records _).ensures
    rintro _ _ rfl
    have logged : Passed own start (world.record (.log (.destroyingEngine wrapper.userData))) :=
      passed.record rfl fun _ => rfl
    exact ⟨(logged.recordAll (EngineConfiguration.releases_plain _)).remove different, trivial⟩
  · exact fun _ => trivial

/-- What is arranged about others spares the wrapper. Nothing is said if the handle that it yields
is the wrapper's own, for then the wrapper itself has been built. -/
theorem Arrangement.exec_spares {arrangement : Arrangement σ ν} (avoids : arrangement.Avoids own)
    {target : Handle} (different : target ≠ own.handle) :
    (arrangement.exec perform target).Spares own start fun reply => reply = .built own.handle := by
  cases avoids with
  | build callbacksAvoid settingsAvoid =>
    refine (Builder.setAll_aside (.new _ callbacksAvoid) settingsAvoid).bind_spares
      fun result changed => ?_
    cases result with
    | error error => exact .pure _
    | ok builder =>
      refine (Builder.build_spares (changed builder rfl)).map Reply.ofBuild ?_
      rintro _ rfl
      rfl
  | construct builderAvoids =>
    intro world passed
    rw [exec, Command.construct_eq, bind_assoc]
    refine ((Builder.build_spares builderAvoids) world passed).bind fun result after spared => ?_
    cases result with
    | ok handle => exact fun untaken => spared fun same => untaken (congrArg _ (Except.ok.inj same))
    | error error =>
      simp only [bind_assoc]
      apply Exec.Ensures.emit_bind
      trivial
  | delete => exact (Wrapper.delete_aside different).bind_spares fun _ _ => .pure _

end RecompilerAdapter
