/-
Module: RecompilerAdapter.Proofs.ReleaseOrders
Purpose: In which order coprocessor tables are released. Whatever the order in which they were installed,
  the tables that a builder or an engine holds are released from the lowest slot to the highest, each
  right after the line that tells so; a table that is replaced or rejected on its own is released on its
  own.
Trusted boundary: none
Main exports: BuilderHistory.releases, ReleaseOrder
-/
import RecompilerAdapter.Proofs.EngineConfigurations
import RecompilerAdapter.Proofs.Ownership

namespace RecompilerAdapter

variable {σ ν ρ : Type} {performer : Performer σ ν} {world after : World σ ν} {bound : Nat}

/-! ### Tables of a history -/

theorem flatMap_filterMap {α β γ : Type} (entries : List α) (choose : α → Option β)
    (expand : β → List γ) : (entries.filterMap choose).flatMap expand =
      entries.flatMap fun entry => ((choose entry).map expand).getD [] := by
  induction entries with
  | nil => rfl
  | cons entry entries ih =>
    rw [List.filterMap_cons, List.flatMap_cons, ← ih]
    cases choose entry <;> rfl

namespace BuilderHistory

/-- The release of all held tables, from the lowest slot to the highest, each one after its line.
The line names the slot, while the release carries the context of the table. -/
def releases (line : Nat → LogLine) (history : BuilderHistory σ ν) : List (Event ν) :=
  history.holdings.flatMap fun entry => [.log (line entry.1), .destroyed entry.2.context]

variable (history : BuilderHistory σ ν)

theorem releases_builder : history.builder.releases = history.releases .releasingTable := by
  unfold Builder.releases releases holdings
  rw [history.zipIdx_builder, List.flatMap_map, flatMap_filterMap]
  refine List.flatMap_congr fun slot _ => ?_
  cases history.table slot <;> rfl

theorem releases_configuration (slot : HandleSlot) :
    (history.configuration slot).releases = history.releases .destroyingCoprocessor := by
  have bridges : (history.configuration slot).coprocessors.toList =
      (List.range coprocessorCount).map fun index =>
        (history.table index).map fun table => ⟨index, table, slot⟩ := by
    apply List.ext_getElem
    · simp [configuration]
    · intro index inVector inRange
      simp [configuration]
  unfold EngineConfiguration.releases releases holdings
  rw [bridges, List.flatMap_map, flatMap_filterMap]
  refine List.flatMap_congr fun index _ => ?_
  cases history.table index <;> rfl

/-- Installing a table in a slot leaves the tables of all other slots. -/
theorem table_install (slot other : Nat) (table : CoprocessorTable σ ν) :
    (history.push (.install slot table)).table other =
      if slot = other then some table else history.table other := by
  rw [table_push]
  simp only [BuilderCall.contents?]
  split <;> rfl

end BuilderHistory

/-! ### Commands that release -/

namespace Command

variable {builders remaining : Builders σ ν} {number : Nat} {builder : Builder σ ν}
  {history : BuilderHistory σ ν}

theorem exec_installAll (present : builders.get? number = some builder)
    (tables : CoprocessorTables σ ν) :
    (Command.installCoprocessors (ρ := ρ) number tables).exec performer builders world =
      .ok (.done, builders.insert number ((BuilderCall.installAll tables).apply builder))
        (world.recordAll builder.releases) :=
  (Completes.installAll present).exec trivial

theorem exec_install (present : builders.get? number = some builder) {slot : Nat}
    (inRange : slot < coprocessorCount) (table : CoprocessorTable σ ν) :
    (Command.installCoprocessor (ρ := ρ) number slot table).exec performer builders world =
      .ok (.done, builders.insert number ((BuilderCall.install slot table).apply builder))
        (world.recordAll (CoprocessorTable.replaces slot builder.coprocessors[slot])) := by
  rw [← BuilderCall.apply_install builder inRange]
  exact (Completes.install present inRange).exec trivial

section

variable (present : builders.get? number = some history.builder)

include present

/-- A build that is refused has dropped the configuration of the engine, after whatever the refusing
engine did. -/
theorem exec_refused {choice : EngineChoice} {error : AdapterError}
    (refuses : (Command.build (ρ := ρ) number choice).exec performer builders world =
      .ok (.refused error, remaining) after) :
    ∃ failure probed, error = .engineConstruction failure ∧ remaining = builders.erase number ∧
      choice.construct performer (history.configuration world.slots.allocate.1)
        (world.prepared history.builder) = .ok (.error failure) probed ∧
      after = probed.recordAll (history.releases .destroyingCoprocessor) := by
  rw [exec_build choice present, ← history.prepared_eq] at refuses
  change EStateM.map _ _ _ = _ at refuses
  unfold EStateM.map at refuses
  cases constructs : choice.construct performer (history.configuration world.slots.allocate.1)
      (world.prepared history.builder) with
  | error stop stopped =>
    rw [Exec.bind_of_error constructs] at refuses
    cases refuses
  | ok result probed =>
    rw [Exec.bind_of_ok constructs] at refuses
    cases result with
    | ok engine =>
      simp only [Builder.conclude] at refuses
      cases attaches : history.builder.attach world.slots.allocate.1 engine probed with
      | error stop stopped =>
        rw [Exec.bind_of_error attaches] at refuses
        cases refuses
      | ok handle attached =>
        rw [Exec.bind_of_ok attaches] at refuses
        cases refuses
    | error failure =>
      have dropped := (history.configuration world.slots.allocate.1).drop_records probed
      rw [history.releases_configuration] at dropped
      simp only [Builder.conclude] at refuses
      rw [history.configuration_eq, Exec.bind_of_ok dropped] at refuses
      cases refuses
      exact ⟨failure, probed, rfl, rfl, rfl, rfl⟩

/-- A stepping engine refuses memory that is not little-endian at once. -/
theorem exec_bigEndian (bigEndian : history.options.alwaysLittleEndian = false) :
    (Command.build (ρ := ρ) number .stepping).exec performer builders world =
      .ok (.refused (.engineConstruction ⟨"big-endian guest memory is not supported"⟩),
        builders.erase number)
        ((world.prepared history.builder).recordAll (history.releases .destroyingCoprocessor)) := by
  have constructs : EngineChoice.construct performer (history.configuration world.slots.allocate.1)
      .stepping = pure (.error ⟨"big-endian guest memory is not supported"⟩) := by
    unfold EngineChoice.construct
    have option : (history.configuration world.slots.allocate.1).options.alwaysLittleEndian = false :=
      bigEndian
    rw [option]
    rfl
  have dropped := (history.configuration world.slots.allocate.1).drop_records
    (world.prepared history.builder)
  rw [history.releases_configuration] at dropped
  rw [exec_build .stepping present, ← history.prepared_eq, constructs, pure_bind]
  show EStateM.map _ _ _ = _
  unfold EStateM.map
  simp only [Builder.conclude]
  rw [history.configuration_eq, Exec.bind_of_ok dropped]
  rfl

end

end Command

/-! ### Sessions -/

/-- Tables are released in the order of their slots. -/
structure ReleaseOrder (bound : Nat) (own : σ) (commands : List (Command σ ν ρ)) : Prop where
  /-- The held tables are those of the populated slots, in strictly ascending order. -/
  ascending : ∀ history : BuilderHistory σ ν, (history.holdings.map Prod.fst).Pairwise (· < ·) ∧
    ∀ slot table, (slot, table) ∈ history.holdings ↔
      slot < coprocessorCount ∧ history.table slot = some table
  /-- A builder that is dropped releases them, also when another builder takes its number. -/
  dropped : ∀ outcomes builders world number history,
    Command.sessionEnd bound own commands = .ok (outcomes, builders) world →
    Command.opened number commands = some history →
    (Command.dropBuilder (ρ := ρ) number).exec (perform bound) builders world =
      .ok (.done, builders.erase number) (world.recordAll (history.releases .releasingTable)) ∧
    ∀ userData callbacks,
      (Command.openBuilder (ρ := ρ) number userData callbacks).exec (perform bound) builders world =
        .ok (.done, builders.insert number (.new userData callbacks))
          (world.recordAll (history.releases .releasingTable))
  /-- Replacing all tables releases them. -/
  replaced : ∀ outcomes builders world number history tables,
    Command.sessionEnd bound own commands = .ok (outcomes, builders) world →
    Command.opened number commands = some history →
    (Command.installCoprocessors (ρ := ρ) number tables).exec (perform bound) builders world =
      .ok (.done, builders.insert number (history.push (.installAll tables)).builder)
        (world.recordAll (history.releases .releasingTable))
  /-- Deleting a wrapper announces that its engine goes and releases what its engine holds. -/
  deleted : ∀ outcomes builders world handle wrapper history,
    Command.sessionEnd bound own commands = .ok (outcomes, builders) world →
    world.wrappers.get? handle = some wrapper → Command.BuiltFrom commands outcomes handle history →
    (Command.delete (ρ := ρ) handle).exec (perform bound) builders world =
      .ok (.done, builders) (World.remove handle (world.recordAll
        (.log (.destroyingEngine history.userData) :: history.releases .destroyingCoprocessor)))
  /-- An engine that refuses to be constructed releases what was handed to it as the last thing that
  happens, and whatever it did before has released nothing. -/
  refused : ∀ outcomes builders remaining world after number history choice error,
    Command.sessionEnd bound own commands = .ok (outcomes, builders) world →
    Command.opened number commands = some history →
    (Command.build (ρ := ρ) number choice).exec (perform bound) builders world =
      .ok (.refused error, remaining) after →
    ∃ failure probed, error = .engineConstruction failure ∧ remaining = builders.erase number ∧
      choice.construct (perform bound) (history.configuration world.slots.allocate.1)
        (world.prepared history.builder) = .ok (.error failure) probed ∧
      after = probed.recordAll (history.releases .destroyingCoprocessor) ∧
      released probed.history = released world.history
  /-- A stepping engine does nothing before. -/
  bigEndian : ∀ outcomes builders world number history,
    Command.sessionEnd bound own commands = .ok (outcomes, builders) world →
    Command.opened number commands = some history → history.options.alwaysLittleEndian = false →
    (Command.build (ρ := ρ) number .stepping).exec (perform bound) builders world =
      .ok (.refused (.engineConstruction ⟨"big-endian guest memory is not supported"⟩),
        builders.erase number)
        ((world.prepared history.builder).recordAll (history.releases .destroyingCoprocessor))
  /-- A table for a slot that does not exist is released first and without a line, then those that
  the builder holds, none of which it has replaced. -/
  rejected : ∀ outcomes builders world number history slot table,
    Command.sessionEnd bound own commands = .ok (outcomes, builders) world →
    Command.opened number commands = some history → coprocessorCount ≤ slot →
    (Command.installCoprocessor (ρ := ρ) number slot table).exec (perform bound) builders world =
      .ok (.refused (.invalidCoprocessorSlot slot), builders.erase number)
        (world.recordAll (.destroyed table.context :: history.releases .releasingTable))
  /-- A table for a slot that exists replaces the one that the slot has, if any, which is released
  alone; all other slots keep theirs. -/
  reinstalled : ∀ outcomes builders world number history slot table,
    Command.sessionEnd bound own commands = .ok (outcomes, builders) world →
    Command.opened number commands = some history → slot < coprocessorCount →
    (Command.installCoprocessor (ρ := ρ) number slot table).exec (perform bound) builders world =
      .ok (.done, builders.insert number (history.push (.install slot table)).builder)
        (world.recordAll (((history.table slot).map fun previous =>
          [.log (.replacingTable slot), .destroyed previous.context]).getD [])) ∧
    ∀ other, (history.push (.install slot table)).table other =
      if slot = other then some table else history.table other

/-- The order of the slots is the order of release, whichever way the tables go. A builder may be
dropped, replaced or rejected, its engine refused, its tables replaced, or its wrapper deleted. -/
theorem releaseOrder (bound : Nat) (own : σ) (commands : List (Command σ ν ρ)) :
    ReleaseOrder bound own commands where
  ascending history := ⟨history.populated_ascending, fun _ _ => history.mem_holdings⟩
  dropped outcomes builders world number history ends opened := by
    have found := (Command.session_of_end ends).found opened
    rw [← history.releases_builder]
    refine ⟨(Command.Completes.dropBuilder found).exec trivial, fun userData callbacks => ?_⟩
    have opens : Command.Completes (ρ := ρ) builders world (.openBuilder number userData callbacks) .done
        (builders.insert number (.new userData callbacks))
        (world.recordAll (((builders.get? number).map Builder.releases).getD [])) := .openBuilder
    rw [found, Option.map_some, Option.getD_some] at opens
    exact opens.exec trivial
  replaced outcomes builders world number history tables ends opened := by
    rw [← history.releases_builder, history.builder_push]
    exact Command.exec_installAll ((Command.session_of_end ends).found opened) tables
  deleted outcomes builders world handle wrapper history ends found built := by
    have isBuilt := (Command.session_of_end ends).isBuiltFrom found built
    rw [← isBuilt.userData, ← history.releases_configuration wrapper.slot, Wrapper.slot,
      ← isBuilt.configuration]
    exact (Command.Completes.delete found).exec trivial
  refused outcomes builders remaining world after number history choice error ends opened refuses := by
    have session := Command.session_of_end ends
    obtain ⟨failure, probed, isError, isRemaining, constructs, recorded⟩ :=
      Command.exec_refused (session.found opened) refuses
    refine ⟨failure, probed, isError, isRemaining, constructs, recorded, ?_⟩
    -- A refusing engine may have called entries before it refuses, but only by moves, and no move releases
    -- a table.
    have idle := (world.openRuns_prepared history.builder).trans session.idle
    have unbound := Builder.prepared_unbound history.builder world
    rw [history.configuration_eq] at unbound
    have reaches := ((choice.construct_ensures (perform_proceeds bound) (.of_idle idle) unbound
      idle).of_completed constructs).1
    rw [Moves.released_eq reaches.moves session.balanced.2.distinct, World.prepared,
      World.history_record, released_append]
    exact List.append_nil _
  bigEndian outcomes builders world number history ends opened bigEndian :=
    Command.exec_bigEndian ((Command.session_of_end ends).found opened) bigEndian
  rejected outcomes builders world number history slot table ends opened outOfRange := by
    have found := (Command.session_of_end ends).found opened
    rw [← history.releases_builder]
    exact (Command.Completes.reject found (Nat.not_lt.2 outOfRange)).exec trivial
  reinstalled outcomes builders world number history slot table ends opened inRange := by
    have found := (Command.session_of_end ends).found opened
    have held : history.builder.coprocessors[slot] = history.table slot := by
      simp [BuilderHistory.builder]
    rw [Command.exec_install found inRange table, held, ← history.builder_push]
    refine ⟨?_, fun other => history.table_install slot other table⟩
    cases history.table slot <;> rfl

end RecompilerAdapter
