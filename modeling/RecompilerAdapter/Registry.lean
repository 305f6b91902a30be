/-
Module: RecompilerAdapter.Registry
Purpose: Finite maps with decidable keys, as lists of entries. A key has at most one entry that counts,
  the first one.
Trusted boundary: the definitions of this module
Main exports: Registry, Registry.get?, Registry.insert, Registry.erase
-/

namespace RecompilerAdapter

/-- A finite map. -/
structure Registry (κ α : Type) where
  entries : List (κ × α)
deriving Repr

namespace Registry

variable {κ α : Type} [DecidableEq κ]

/-- The map without entries. -/
def empty : Registry κ α :=
  ⟨[]⟩

/-- The value of a key. -/
def get? (registry : Registry κ α) (key : κ) : Option α :=
  (registry.entries.find? fun entry => entry.1 = key).map (·.2)

/-- Removes a key. -/
def erase (registry : Registry κ α) (key : κ) : Registry κ α :=
  ⟨registry.entries.filter fun entry => entry.1 ≠ key⟩

/-- Gives a key a value, whatever it had before. -/
def insert (registry : Registry κ α) (key : κ) (value : α) : Registry κ α :=
  ⟨(key, value) :: (registry.erase key).entries⟩

/-- All keys that have a value. -/
def keys (registry : Registry κ α) : List κ :=
  registry.entries.map (·.1)

@[simp] theorem get?_empty (key : κ) : (empty : Registry κ α).get? key = none :=
  rfl

@[simp] theorem get?_erase (registry : Registry κ α) (key other : κ) :
    (registry.erase key).get? other = if other = key then none else registry.get? other := by
  simp only [get?, erase, List.find?_filter]
  split
  · rename_i same
    subst same
    simp
  · rename_i different
    congr 2
    funext entry
    by_cases matching : entry.1 = other
    · simp [matching, different]
    · simp [matching]

@[simp] theorem get?_insert (registry : Registry κ α) (key other : κ) (value : α) :
    (registry.insert key value).get? other =
      if other = key then some value else registry.get? other := by
  by_cases same : key = other
  · subst same
    simp [get?, insert]
  · have different : ¬ other = key := fun h => same h.symm
    have erased := get?_erase registry key other
    simp only [different, if_false] at erased ⊢
    rw [← erased]
    simp [get?, insert, same]

end Registry

end RecompilerAdapter
