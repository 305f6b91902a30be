/-
Module: RecompilerAdapter.WordStore
Purpose: The caller's words that coprocessors grant direct access to. Every location holds a word,
  initially zero.
Trusted boundary: the definitions of this module
Main exports: Location, WordStore, WordStore.load, WordStore.store
-/
import RecompilerAdapter.Registry

namespace RecompilerAdapter

/-- The location of one word. -/
structure Location where
  index : Nat
deriving Repr, DecidableEq

/-- A store of words. -/
structure WordStore where
  contents : Registry Location UInt32
deriving Repr

namespace WordStore

/-- All words are zero. -/
def empty : WordStore :=
  ⟨.empty⟩

/-- The word at a location. -/
def load (store : WordStore) (location : Location) : UInt32 :=
  (store.contents.get? location).getD 0

/-- Replaces the word at a location. -/
def store (store : WordStore) (location : Location) (word : UInt32) : WordStore :=
  ⟨store.contents.insert location word⟩

@[simp] theorem load_empty (location : Location) : empty.load location = 0 :=
  rfl

@[simp] theorem load_store (words : WordStore) (location other : Location) (word : UInt32) :
    (words.store location word).load other =
      if other = location then word else words.load other := by
  simp only [load, store, Registry.get?_insert]
  split <;> rfl

end WordStore

end RecompilerAdapter
