/-
Module: RecompilerAdapter.Proofs.SolitaryBuilders
Purpose: Building a wrapper among others and alone. Builders of others hold nothing that concerns the
  wrapper, so the wrappers that are built from them leave it alone; its own builder holds the same where
  it is alone, and the wrapper that is built from it is the same, behind another handle.
Trusted boundary: none
Main exports: CoprocessorTables.Alone, Builder.Alone
-/
import RecompilerAdapter.Proofs.LikeSessions
import RecompilerAdapter.Proofs.SolitaryRuns

namespace RecompilerAdapter

variable {σ ν ω ρ : Type}

/-! ### The wrapper's own builder -/

section

variable (own : Belongings σ ν ω)

/-- The coprocessors of the wrapper, and what they are where it is alone. -/
structure CoprocessorTables.Alone (tables others : CoprocessorTables σ ν) : Prop where
  slots : ∀ slot : Fin 16, Option.Rel (CoprocessorTable.Alone own) tables[slot] others[slot]

/-- The builder of the wrapper, and what it is where the wrapper is alone. All that was installed is
alike, and the options are equal, so the engines that are built are alike too. -/
structure Builder.Alone (builder other : Builder σ ν) : Prop where
  userData : builder.userData = other.userData
  callbacks : builder.callbacks.Alone own other.callbacks
  pageTable : PageTable.Alone own builder.pageTable other.pageTable
  coprocessors : CoprocessorTables.Alone own builder.coprocessors other.coprocessors
  options : builder.options = other.options

end

variable {own : Belongings σ ν ω}

namespace Builder.Alone

variable {builder other : Builder σ ν} (alone : builder.Alone own other)

include alone

/-- The two builders configure engines of which one is the other one alone, each with the slot of
its own wrapper. -/
theorem configuration :
    (builder.configuration own.slot).Alone own (other.configuration .first) where
  slot := rfl
  slotToo := rfl
  callbacks := alone.callbacks
  pageTable := alone.pageTable
  coprocessors index := by
    have tables := alone.coprocessors.slots index
    have equipped (builder : Builder σ ν) (slot : HandleSlot) :
        (builder.configuration slot).coprocessors[index] =
          builder.coprocessors[index].map fun table => ⟨index, table, slot⟩ := by
      simp [Builder.configuration]
    rw [equipped, equipped]
    generalize builder.coprocessors[index] = table at tables ⊢
    generalize other.coprocessors[index] = copy at tables ⊢
    cases tables with
    | none => exact .none
    | some same => exact .some ⟨rfl, rfl, rfl, same⟩

/-- Both builders release the same contexts in the same order. -/
theorem releases : builder.releases = other.releases := by
  refine BodyRelation.flatMap_eq_of_forall₂
    (BodyRelation.forall₂_zipIdx (BodyRelation.forall₂_toList alone.coprocessors.slots) 0) ?_
  rintro ⟨table, slot⟩ ⟨copy, _⟩ ⟨tables, rfl⟩
  cases tables with
  | none => rfl
  | some same =>
    dsimp only
    rw [same.context]

theorem withPageTable {pages pagesToo : Option (PageTable σ)}
    (pagesAlone : PageTable.Alone own pages pagesToo) :
    (builder.withPageTable pages).Alone own (other.withPageTable pagesToo) :=
  { alone with pageTable := pagesAlone }

theorem withOptions (options : Options) :
    (builder.withOptions options).Alone own (other.withOptions options) :=
  { alone with options := rfl }

theorem installAll {tables others : CoprocessorTables σ ν}
    (tablesAlone : CoprocessorTables.Alone own tables others) :
    ({ builder with coprocessors := tables } : Builder σ ν).Alone own
      { other with coprocessors := others } :=
  { alone with coprocessors := tablesAlone }

theorem install {slot : Nat} (inRange : slot < coprocessorCount) {table copy : CoprocessorTable σ ν}
    (tableAlone : table.Alone own copy) :
    ({ builder with coprocessors := builder.coprocessors.set slot (some table) } :
        Builder σ ν).Alone own
      { other with coprocessors := other.coprocessors.set slot (some copy) } := by
  refine { alone with coprocessors := ⟨fun index => ?_⟩ }
  simp only [Fin.getElem_fin, Vector.getElem_set]
  split
  · exact .some tableAlone
  · exact alone.coprocessors.slots index

theorem replaces {slot : Nat} (inRange : slot < coprocessorCount) :
    CoprocessorTable.replaces slot builder.coprocessors[slot] =
      CoprocessorTable.replaces slot other.coprocessors[slot] := by
  have tables := alone.coprocessors.slots ⟨slot, inRange⟩
  simp only [Fin.getElem_fin] at tables
  generalize builder.coprocessors[slot] = table at tables ⊢
  generalize other.coprocessors[slot] = copy at tables ⊢
  cases tables with
  | none => rfl
  | some same =>
    dsimp only [CoprocessorTable.replaces]
    rw [same.context]

end Builder.Alone

theorem CoprocessorTables.Alone.unpopulated :
    CoprocessorTables.Alone own (Vector.replicate coprocessorCount none : CoprocessorTables σ ν)
      (Vector.replicate coprocessorCount none) where
  slots slot := by
    simp only [Fin.getElem_fin, Vector.getElem_replicate]
    exact .none

theorem Builder.Alone.new (userData : UserData) {callbacks other : CallbackTable σ ν}
    (alone : callbacks.Alone own other) :
    (Builder.new userData callbacks).Alone own (.new userData other) where
  userData := rfl
  callbacks := alone
  pageTable := ⟨rfl, fun _ _ _ _ => rfl⟩
  coprocessors := .unpopulated
  options := rfl

theorem Builder.Alone.foreign (userData : UserData) {callbacks other : CallbackTable σ ν}
    {pages pagesToo : Option (PageTable σ)}
    {coprocessors others : Option (Vector (WireOption (CoprocessorTable σ ν)) coprocessorCount)}
    (callbacksAlone : callbacks.Alone own other) (pagesAlone : PageTable.Alone own pages pagesToo)
    (alone : CoprocessorTables.Alone own (Command.arrayTables coprocessors)
      (Command.arrayTables others)) :
    (Command.foreignBuilder userData callbacks pages coprocessors).Alone own
      (Command.foreignBuilder userData other pagesToo others) :=
  ((Builder.Alone.new userData callbacksAlone).withPageTable pagesAlone).installAll alone

namespace EngineConfiguration.Alone

variable {configuration other : EngineConfiguration σ ν} (alone : configuration.Alone own other)

include alone

theorem releases : configuration.releases = other.releases := by
  refine BodyRelation.flatMap_eq_of_forall₂ (BodyRelation.forall₂_toList alone.coprocessors) ?_
  rintro bridge copy bridges
  cases bridges with
  | none => rfl
  | some same =>
    dsimp only
    rw [same.index, same.table.context]

theorem populated : configuration.populated = other.populated := by
  refine BodyRelation.filterMap_eq_of_forall₂
    (BodyRelation.forall₂_zipIdx (BodyRelation.forall₂_toList alone.coprocessors) 0) ?_
  rintro ⟨bridge, index⟩ ⟨copy, _⟩ ⟨bridges, rfl⟩
  cases bridges <;> rfl

end EngineConfiguration.Alone

/-! ### Building and deleting -/

namespace World.Alone

variable {world other : World σ ν} (alone : world.Alone own other)

include alone

theorem recordAll (events copies : List (Event ν)) :
    (world.recordAll events).Alone own (other.recordAll copies) := by
  refine ⟨⟨?_, ?_⟩, ?_, ?_, ?_⟩
  · simpa using alone.beside.sole
  · simpa using alone.beside.others
  · simpa using alone.wrapper
  · simpa using alone.slot
  · simpa using alone.view

/-- The wrapper is built, where it is alone as the first one. -/
theorem stepping_own {builder copy : Builder σ ν} (same : builder.Alone own copy)
    (slot : world.slots.allocate.1 = own.slot) (slotToo : other.slots.allocate.1 = .first)
    (handle : ⟨world.built + 1⟩ = own.handle) (handleToo : ⟨other.built + 1⟩ = Handle.first) :
    (world.stepping builder).Alone own (other.stepping copy) := by
  have configurations := same.configuration
  refine ⟨⟨?_, ?_⟩, ?_, ?_, alone.view⟩
  · intro bridge isBound
    rw [World.slot_stepping, slot] at isBound
    split at isBound
    · assumption
    · exact alone.beside.sole bridge isBound
  · intro bystander wrapper apart present
    rw [World.get?_stepping, handle, if_neg apart] at present
    exact alone.beside.others bystander wrapper apart present
  · rw [World.get?_stepping, World.get?_stepping, handle, handleToo, if_pos rfl, if_pos rfl, slot,
      slotToo]
    exact .some ⟨same.userData, rfl, configurations, rfl, rfl, rfl, rfl, rfl, rfl, _, rfl⟩
  · rw [World.slot_stepping, World.slot_stepping, slot, slotToo, if_pos rfl, if_pos rfl]
    exact .some ⟨handle, handleToo⟩

/-- The wrapper is deleted. -/
theorem remove_own : (World.remove own.handle world).Alone own (World.remove .first other) := by
  refine { alone with beside := ⟨alone.beside.sole, ?_⟩, wrapper := ?_ }
  · intro bystander wrapper apart present
    simp only [World.remove, Registry.get?_erase, if_neg apart] at present
    exact alone.beside.others bystander wrapper apart present
  · simp only [World.remove, Registry.get?_erase, if_true]
    exact .none

end World.Alone

end RecompilerAdapter
