/-
Module: RecompilerAdapter.Memory
Purpose: Flat guest memory. An access that does not lie entirely inside the memory reads zero and writes
  nothing; in particular an access near the end of the address space never wraps around to its start.
Trusted boundary: the definitions of this module
Main exports: Memory, Memory.read, Memory.write, Memory.loadWords
-/
import RecompilerAdapter.Word.Width

namespace RecompilerAdapter

/-- Guest memory, byte `i` of which has address `i`. -/
structure Memory where
  bytes : Array UInt8
deriving Repr, DecidableEq

namespace Memory

/-- Zero-filled memory. -/
def zeroed (size : Nat) : Memory :=
  ⟨Array.replicate size 0⟩

/-- The bytes from `start` on, or `none` if they do not lie entirely inside. -/
def slice? (memory : Memory) (start count : Nat) : Option (List UInt8) :=
  if start + count ≤ memory.bytes.size then
    some (memory.bytes.extract start (start + count)).toList
  else
    none

/-- Replaces the bytes from `start` on, ignoring those that would lie outside. -/
def overwrite (bytes : Array UInt8) (start : Nat) : List UInt8 → Array UInt8
  | [] => bytes
  | byte :: rest => overwrite (bytes.setIfInBounds start byte) (start + 1) rest

/-- Reads a value; zero if the access does not lie entirely inside. -/
def read (memory : Memory) (width : Width) (vaddr : UInt32) : BitVec width.bits :=
  ((memory.slice? vaddr.toNat width.size).bind width.decode).getD 0

/-- Writes a value; nothing happens if the access does not lie entirely inside. -/
def write (memory : Memory) (width : Width) (vaddr : UInt32) (value : BitVec width.bits) :
    Memory :=
  match (memory.slice? vaddr.toNat width.size).bind (width.encode value) with
  | some written => ⟨overwrite memory.bytes vaddr.toNat written⟩
  | none => memory

/-- Stores consecutive words from `start` on. -/
def loadWords (memory : Memory) (start : UInt32) : List UInt32 → Memory
  | [] => memory
  | word :: rest => (memory.write .word start word.toBitVec).loadWords (start + 4) rest

end Memory

end RecompilerAdapter
