/-
Module: RecompilerAdapter.Word.LittleEndian
Purpose: Little-endian byte strings. A number below `256 ^ n` and its `n` bytes, least significant first,
  determine each other.
Trusted boundary: the definitions of this module
Main exports: ofBytes, toBytes
-/

namespace RecompilerAdapter.LittleEndian

/-- The number whose bytes these are, least significant first. -/
def ofBytes : List UInt8 → Nat
  | [] => 0
  | byte :: rest => byte.toNat + 256 * ofBytes rest

/-- The lowest `count` bytes of a number, least significant first. Higher bytes are dropped. -/
def toBytes : (count value : Nat) → List UInt8
  | 0, _ => []
  | count + 1, value => UInt8.ofNat (value % 256) :: toBytes count (value / 256)

@[simp] theorem length_toBytes (count value : Nat) : (toBytes count value).length = count := by
  induction count generalizing value with
  | zero => rfl
  | succ count ih => simp [toBytes, ih]

end RecompilerAdapter.LittleEndian
