/-
Module: RecompilerAdapter.Proofs.Holdings
Purpose: Where the contexts of coprocessor tables are: with a builder, with the engine of a living
  wrapper, or released. A context may have been handed over more than once, so places are compared by how
  often it is in each of them.
Trusted boundary: none
Main exports: held, engaged, Command.handedOver, Registry.gather_found
-/
import Mathlib.Data.List.Nodup
import Mathlib.Data.List.Perm.Basic
import RecompilerAdapter.Proofs.Sessions

namespace RecompilerAdapter

variable {σ ν ρ κ α β : Type}

/-! ### Maps without shadowed entries -/

namespace Registry

section

variable [DecidableEq κ] {registry : Registry κ α} {key : κ} {value : α}

theorem mem_keys_erase {other : κ} :
    other ∈ (registry.erase key).keys ↔ other ∈ registry.keys ∧ other ≠ key := by
  simp only [keys, erase, List.mem_map, List.mem_filter, decide_eq_true_eq]
  constructor
  · rintro ⟨entry, ⟨isEntry, different⟩, rfl⟩
    exact ⟨⟨entry, isEntry, rfl⟩, different⟩
  · rintro ⟨⟨entry, isEntry, rfl⟩, different⟩
    exact ⟨entry, ⟨isEntry, different⟩, rfl⟩

theorem nodup_erase (nodup : registry.keys.Nodup) (key : κ) : (registry.erase key).keys.Nodup :=
  nodup.sublist (List.filter_sublist.map _)

theorem nodup_insert (nodup : registry.keys.Nodup) (key : κ) (value : α) :
    (registry.insert key value).keys.Nodup := by
  refine List.nodup_cons.2 ⟨fun again => ?_, nodup_erase nodup key⟩
  exact (mem_keys_erase.1 again).2 rfl

theorem get?_eq_some_iff (nodup : registry.keys.Nodup) :
    registry.get? key = some value ↔ (key, value) ∈ registry.entries := by
  simp only [get?, Option.map_eq_some_iff]
  constructor
  · rintro ⟨⟨other, _⟩, found, rfl⟩
    obtain rfl : other = key := by simpa using List.find?_some found
    exact List.mem_of_find?_eq_some found
  · intro isEntry
    obtain ⟨found, isFound⟩ : ∃ found, registry.entries.find? (fun entry => entry.1 = key) =
        some found := by
      rw [← Option.isSome_iff_exists, List.find?_isSome]
      exact ⟨(key, value), isEntry, by simp⟩
    refine ⟨found, isFound, ?_⟩
    have sameKey : found.1 = key := by simpa using List.find?_some isFound
    have same := List.inj_on_of_nodup_map nodup (List.mem_of_find?_eq_some isFound) isEntry sameKey
    rw [same]

theorem erase_of_get?_eq_none (absent : registry.get? key = none) : registry.erase key = registry := by
  obtain ⟨entries⟩ := registry
  simp only [get?, Option.map_eq_none_iff, List.find?_eq_none, decide_eq_true_eq] at absent
  simpa [erase] using absent

end

/-- Everything that the values of a map hold. -/
def gather (contents : α → List β) (registry : Registry κ α) : List β :=
  registry.entries.flatMap fun entry => contents entry.2

section

variable [DecidableEq κ] {registry other : Registry κ α} {contents : α → List β} {key : κ}
  {value : α}

theorem gather_insert (key : κ) (value : α) :
    (registry.insert key value).gather contents =
      contents value ++ (registry.erase key).gather contents :=
  rfl

/-- Maps whose values hold the same under each key hold the same altogether. -/
theorem gather_perm (nodup : registry.keys.Nodup) (otherNodup : other.keys.Nodup)
    (same : ∀ key, (registry.get? key).map contents = (other.get? key).map contents) :
    (registry.gather contents).Perm (other.gather contents) := by
  let held (map : Registry κ α) := map.entries.map fun entry => (entry.1, contents entry.2)
  have isHeld {map : Registry κ α} (distinct : map.keys.Nodup) (key : κ) (content : List β) :
      (key, content) ∈ held map ↔ (map.get? key).map contents = some content := by
    simp [held, Option.map_eq_some_iff, get?_eq_some_iff distinct]
  have distinct {map : Registry κ α} (nodup : map.keys.Nodup) : (held map).Nodup := by
    refine .of_map Prod.fst ?_
    simpa [held, keys, Function.comp_def] using nodup
  have perm : (held registry).Perm (held other) := by
    apply (List.perm_ext_iff_of_nodup (distinct nodup) (distinct otherNodup)).2
    rintro ⟨key, content⟩
    rw [isHeld nodup, isHeld otherNodup, same]
  have flat := perm.flatMap_right Prod.snd
  simpa [held, gather, List.flatMap_map] using flat

/-- What the values hold, that of one key apart from the others. -/
theorem gather_found (nodup : registry.keys.Nodup) (found : registry.get? key = some value) :
    (registry.gather contents).Perm (contents value ++ (registry.erase key).gather contents) := by
  rw [← gather_insert]
  apply gather_perm nodup (nodup_insert nodup key value)
  intro other
  rw [get?_insert]
  split
  · rename_i isKey
    rw [isKey, found]
  · rfl

theorem gather_eq_nil (nodup : registry.keys.Nodup) (absent : ∀ key, registry.get? key = none) :
    registry.gather contents = [] := by
  have empty : (registry.gather contents).Perm ((Registry.empty : Registry κ α).gather contents) := by
    refine gather_perm nodup .nil fun key => ?_
    rw [absent]
    rfl
  exact List.perm_nil.1 empty

end

end Registry

/-! ### The contexts in a place -/

/-- The contexts of the tables in the slots. -/
def CoprocessorTables.contexts (tables : CoprocessorTables σ ν) : List Context :=
  tables.toList.filterMap fun table => table.map (·.context)

/-- The contexts of the tables that an engine has been given. -/
def EngineConfiguration.contexts (configuration : EngineConfiguration σ ν) : List Context :=
  configuration.coprocessors.toList.filterMap fun bridge => bridge.map (·.table.context)

/-- The contexts of the tables that builders hold. A context is listed once for each slot that has
it, as the same table may be handed over more than once. -/
def held (builders : Builders σ ν) : List Context :=
  builders.gather (·.coprocessors.contexts)

/-- The contexts of the tables that engines of living wrappers have been given. This is read off
their configurations, which never change. -/
def engaged (world : World σ ν) : List Context :=
  world.wrappers.gather (·.engine.configuration.contexts)

/-- The contexts of the tables that a command hands over. -/
def Command.handedOver : Command σ ν ρ → List Context
  | installCoprocessor _ _ table => [table.context]
  | installCoprocessors _ tables => tables.contexts
  | construct _ _ _ coprocessors _ => (arrayTables coprocessors).contexts
  | _ => []

theorem Builder.contexts_configuration (builder : Builder σ ν) (slot : HandleSlot) :
    (builder.configuration slot).contexts = builder.coprocessors.contexts := by
  unfold EngineConfiguration.contexts CoprocessorTables.contexts Builder.configuration
  rw [Vector.toList_mapIdx, List.mapIdx_eq_zipIdx_map, List.filterMap_map]
  have untagged := List.zipIdx_map_fst 0 builder.coprocessors.toList
  conv_rhs => rw [← untagged, List.filterMap_map]
  apply List.filterMap_congr
  intro entry _
  obtain ⟨table, index⟩ := entry
  cases table <;> rfl

/-- An engine that has a bridge has been given the context of its table. -/
theorem EngineConfiguration.context_mem {configuration : EngineConfiguration σ ν}
    {bridge : CoprocessorBridge σ ν} (employed : some bridge ∈ configuration.coprocessors) :
    bridge.table.context ∈ configuration.contexts := by
  refine List.mem_filterMap.2 ⟨some bridge, ?_, rfl⟩
  exact Vector.mem_toList_iff.2 employed

/-! ### What is released -/

theorem Builder.released_releases (builder : Builder σ ν) :
    released builder.releases = builder.coprocessors.contexts := by
  unfold released releases CoprocessorTables.contexts
  generalize builder.coprocessors.toList = tables
  generalize 0 = start
  induction tables generalizing start with
  | nil => rfl
  | cons table tables ih =>
    cases table <;> simp [List.zipIdx_cons, List.filterMap_cons, ih, Event.release?]

theorem EngineConfiguration.released_releases (configuration : EngineConfiguration σ ν) :
    released configuration.releases = configuration.contexts := by
  unfold released releases contexts
  generalize configuration.coprocessors.toList = bridges
  induction bridges with
  | nil => rfl
  | cons bridge bridges ih => cases bridge <;> simp [List.filterMap_cons, ih, Event.release?]

/-- Installing a table in a slot releases the one that was there. -/
theorem CoprocessorTables.count_set (tables : CoprocessorTables σ ν) {slot : Nat}
    (inRange : slot < coprocessorCount) (table : CoprocessorTable σ ν) (context : Context) :
    (CoprocessorTables.contexts (tables.set slot (some table))).count context +
        (released (CoprocessorTable.replaces (ν := ν) slot tables[slot])).count context =
      tables.contexts.count context + [table.context].count context := by
  have listed : slot < tables.toList.length := by simpa using inRange
  have split : tables.toList = tables.toList.take slot ++ tables[slot] ::
      tables.toList.drop (slot + 1) := by
    conv_lhs => rw [← List.take_append_drop slot tables.toList, List.drop_eq_getElem_cons listed]
    simp
  unfold contexts
  rw [Vector.toList_set, List.set_eq_take_append_cons_drop, if_pos listed]
  conv_rhs => rw [split]
  cases tables[slot] with
  | none =>
    simp [CoprocessorTable.replaces, released, List.count_cons]
    omega
  | some previous =>
    simp [CoprocessorTable.replaces, released, List.filterMap_cons, Event.release?, List.count_cons]
    omega

end RecompilerAdapter
