/-
Module: RecompilerAdapter.Proofs.FlatMemory
Purpose: Flat memory byte by byte. A value that is read is the sum of its bytes, each weighted by its
  place; a value that is written leaves its bytes in their places and changes no other byte.
Trusted boundary: none
Main exports: Memory.byte, Memory.Inside, Memory.Touches, Memory.byte_write
-/
import RecompilerAdapter.Memory
import RecompilerAdapter.Proofs.ByteStrings

namespace RecompilerAdapter

open Finset

namespace Memory

/-- The byte at an address; zero outside of the memory. So reads that leave the memory yield zeros
there, as hosts answer them. -/
def byte (memory : Memory) (address : Nat) : Nat :=
  (memory.bytes[address]?.getD 0).toNat

/-- An access of a width at an address lies entirely inside a memory of a size. -/
def Inside (size : Nat) (width : Width) (vaddr : UInt32) : Prop :=
  vaddr.toNat + width.size ≤ size

instance (size : Nat) (width : Width) (vaddr : UInt32) : Decidable (Inside size width vaddr) :=
  inferInstanceAs (Decidable (_ ≤ _))

/-- An access of a width at an address touches the byte at another address. Addresses of bytes go on
beyond the address space, so no access near its end touches a byte at its start. -/
def Touches (width : Width) (vaddr : UInt32) (address : Nat) : Prop :=
  vaddr.toNat ≤ address ∧ address < vaddr.toNat + width.size

instance (width : Width) (vaddr : UInt32) (address : Nat) :
    Decidable (Touches width vaddr address) :=
  inferInstanceAs (Decidable (_ ∧ _))

@[simp] theorem size_zeroed (size : Nat) : (zeroed size).bytes.size = size := by
  simp [zeroed]

@[simp] theorem byte_zeroed (size address : Nat) : (zeroed size).byte address = 0 := by
  unfold byte zeroed
  rw [Array.getElem?_replicate]
  split <;> rfl

/-! ### Reading -/

theorem slice?_of_inside {memory : Memory} {width : Width} {vaddr : UInt32}
    (inside : Inside memory.bytes.size width vaddr) :
    memory.slice? vaddr.toNat width.size =
      some (memory.bytes.extract vaddr.toNat (vaddr.toNat + width.size)).toList :=
  if_pos inside

theorem slice?_of_outside {memory : Memory} {width : Width} {vaddr : UInt32}
    (outside : ¬ Inside memory.bytes.size width vaddr) :
    memory.slice? vaddr.toNat width.size = none :=
  if_neg outside

theorem length_extract {bytes : Array UInt8} {start count : Nat} (inside : start + count ≤ bytes.size) :
    (bytes.extract start (start + count)).toList.length = count := by
  rw [Array.length_toList, Array.size_extract]
  omega

/-- A value that is read is the sum of its bytes, each weighted by its place, or zero if it does not
lie inside. -/
theorem toNat_read (memory : Memory) (width : Width) (vaddr : UInt32) :
    (memory.read width vaddr).toNat = if Inside memory.bytes.size width vaddr then
      ∑ place ∈ range width.size, 256 ^ place * memory.byte (vaddr.toNat + place) else 0 := by
  unfold read
  split
  · rename_i inside
    have long : (memory.bytes.extract vaddr.toNat (vaddr.toNat + width.size)).toList.length = width.size :=
      length_extract inside
    obtain ⟨value, decoded, number⟩ := Width.exists_decode (Nat.le_of_eq long.symm)
    rw [slice?_of_inside inside, Option.bind_some, decoded, Option.getD_some, number,
      List.take_of_length_le (Nat.le_of_eq long), LittleEndian.ofBytes_eq_sum, long]
    refine sum_congr rfl fun place below => ?_
    have within := mem_range.mp below
    rw [byte, Array.getElem?_toList, Array.getElem?_extract, if_pos]
    unfold Inside at inside
    omega
  · rename_i outside
    rw [slice?_of_outside outside]
    rfl

/-! ### Writing -/

@[simp] theorem size_overwrite (bytes : Array UInt8) (start : Nat) (written : List UInt8) :
    (overwrite bytes start written).size = bytes.size := by
  induction written generalizing bytes start with
  | nil => rfl
  | cons byte rest ih => rw [overwrite, ih, Array.size_setIfInBounds]

/-- Overwriting changes the bytes that are overwritten, and no others. By induction on the bytes
that are written, one after the other. -/
theorem getElem?_overwrite (bytes : Array UInt8) (start address : Nat) (written : List UInt8)
    (inside : start + written.length ≤ bytes.size) :
    (overwrite bytes start written)[address]? =
      if start ≤ address ∧ address < start + written.length then written[address - start]?
      else bytes[address]? := by
  induction written generalizing bytes start with
  | nil =>
    rw [overwrite, if_neg]
    rintro ⟨above, below⟩
    rw [List.length_nil] at below
    omega
  | cons byte rest ih =>
    rw [List.length_cons] at inside ⊢
    rw [overwrite, ih _ _ (by rw [Array.size_setIfInBounds]; omega)]
    -- The byte before, at or behind the one that is written first.
    rcases Nat.lt_trichotomy address start with before | rfl | after
    · rw [if_neg (by omega), if_neg (by omega), Array.getElem?_setIfInBounds_ne (by omega)]
    · rw [if_neg (by omega), if_pos (by omega), Array.getElem?_setIfInBounds_self_of_lt (by omega),
        Nat.sub_self, List.getElem?_cons_zero]
    · rw [Array.getElem?_setIfInBounds_ne (by omega)]
      have next : address - start = address - (start + 1) + 1 := by omega
      rw [next, List.getElem?_cons_succ]
      by_cases last : address < start + (rest.length + 1)
      · rw [if_pos (by omega), if_pos (by omega)]
      · rw [if_neg (by omega), if_neg (by omega)]

theorem encode_exact {width : Width} {bytes : List UInt8} (value : BitVec width.bits)
    (long : bytes.length = width.size) :
    width.encode value bytes = some (LittleEndian.toBytes width.size value.toNat) := by
  rw [Width.encode_of_long (Nat.le_of_eq long.symm), List.drop_of_length_le (Nat.le_of_eq long),
    List.append_nil]

/-- A value that lies inside overwrites its bytes. -/
theorem write_of_inside {memory : Memory} {width : Width} {vaddr : UInt32}
    (inside : Inside memory.bytes.size width vaddr) (value : BitVec width.bits) :
    memory.write width vaddr value = ⟨overwrite memory.bytes vaddr.toNat
      (LittleEndian.toBytes width.size value.toNat)⟩ := by
  rw [write, slice?_of_inside inside, Option.bind_some, encode_exact value (length_extract inside)]

/-- A write that does not lie entirely inside changes nothing. -/
theorem write_of_outside {memory : Memory} {width : Width} {vaddr : UInt32}
    (outside : ¬ Inside memory.bytes.size width vaddr) (value : BitVec width.bits) :
    memory.write width vaddr value = memory := by
  rw [write, slice?_of_outside outside]
  rfl

/-- No access changes the size of the memory. -/
@[simp] theorem size_write (memory : Memory) (width : Width) (vaddr : UInt32)
    (value : BitVec width.bits) :
    (memory.write width vaddr value).bytes.size = memory.bytes.size := by
  by_cases inside : Inside memory.bytes.size width vaddr
  · rw [write_of_inside inside]
    exact size_overwrite ..
  · rw [write_of_outside inside]

/-- A write that lies entirely inside changes its own bytes and no others. -/
theorem byte_write (memory : Memory) (width : Width) (vaddr : UInt32) (value : BitVec width.bits)
    (address : Nat) :
    (memory.write width vaddr value).byte address =
      if Inside memory.bytes.size width vaddr ∧ Touches width vaddr address then
        value.toNat / 256 ^ (address - vaddr.toNat) % 256
      else memory.byte address := by
  by_cases inside : Inside memory.bytes.size width vaddr
  · have fits : vaddr.toNat + (LittleEndian.toBytes width.size value.toNat).length ≤
        memory.bytes.size := by
      rw [LittleEndian.length_toBytes]
      exact inside
    rw [write_of_inside inside, byte, getElem?_overwrite _ _ _ _ fits, LittleEndian.length_toBytes]
    unfold Touches
    by_cases touched : vaddr.toNat ≤ address ∧ address < vaddr.toNat + width.size
    · have place : address - vaddr.toNat < width.size := by omega
      rw [if_pos touched, if_pos ⟨inside, touched⟩, LittleEndian.getElem?_toBytes _ place,
        Option.getD_some, UInt8.toNat_ofNat']
      omega
    · rw [if_neg touched, if_neg fun both => touched both.2]
      rfl
  · rw [write_of_outside inside, if_neg fun both => inside both.1]

end Memory

end RecompilerAdapter
