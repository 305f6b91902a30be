/-
Module: RecompilerAdapter.Proofs.ByteStrings
Purpose: Values in byte strings. The bytes of a number and the number determine each other, so a value
  that was written is what is read, and writing what was read changes nothing. An access of a width
  concerns the first bytes of a string alone, however many follow, and a string that has too few stays as
  it is.
Trusted boundary: none
Main exports: Width.Codec, LittleEndian.ofBytes_append, Width.exists_decode, Width.write_eq_error_iff
-/
import Mathlib.Algebra.BigOperators.Ring.Finset
import RecompilerAdapter.Word.Width

namespace RecompilerAdapter

open Finset

/-! ### Numbers and their bytes -/

namespace LittleEndian

/-- A string of bytes is a number below the power that its length gives. -/
theorem ofBytes_lt (bytes : List UInt8) : ofBytes bytes < 256 ^ bytes.length := by
  induction bytes with
  | nil => exact Nat.one_pos
  | cons byte rest ih =>
    have below : byte.toNat < 256 := byte.toNat_lt
    rw [ofBytes, List.length_cons, pow_succ]
    omega

/-- Every byte counts by its place. -/
theorem ofBytes_eq_sum (bytes : List UInt8) :
    ofBytes bytes = ∑ place ∈ range bytes.length, 256 ^ place * (bytes[place]?.getD 0).toNat := by
  induction bytes with
  | nil => rfl
  | cons byte rest ih =>
    rw [ofBytes, List.length_cons, sum_range_succ', ih, mul_sum, Nat.add_comm]
    congr 1
    · refine sum_congr rfl fun place _ => ?_
      rw [List.getElem?_cons_succ, pow_succ', mul_assoc]
    · simp

/-- The bytes of a second string count after all places of the first. -/
theorem ofBytes_append (low high : List UInt8) :
    ofBytes (low ++ high) = ofBytes low + 256 ^ low.length * ofBytes high := by
  induction low with
  | nil => rw [List.nil_append, ofBytes, List.length_nil, pow_zero, one_mul, Nat.zero_add]
  | cons byte rest ih =>
    rw [List.cons_append, ofBytes, ofBytes, ih, List.length_cons, pow_succ', Nat.mul_add,
      Nat.add_assoc, mul_assoc]

theorem getElem?_toBytes {count place : Nat} (value : Nat) (inside : place < count) :
    (toBytes count value)[place]? = some (UInt8.ofNat (value / 256 ^ place % 256)) := by
  induction count generalizing value place with
  | zero => omega
  | succ count ih =>
    cases place with
    | zero => simp [toBytes]
    | succ place =>
      rw [toBytes, List.getElem?_cons_succ, ih _ (Nat.lt_of_succ_lt_succ inside), pow_succ',
        Nat.div_div_eq_div_mul]

/-- A number that fits is what its bytes stand for. -/
theorem ofBytes_toBytes {count value : Nat} (fits : value < 256 ^ count) :
    ofBytes (toBytes count value) = value := by
  induction count generalizing value with
  | zero => exact (Nat.lt_one_iff.1 fits).symm
  | succ count ih =>
    have rest : value / 256 < 256 ^ count := Nat.div_lt_of_lt_mul (by rwa [pow_succ'] at fits)
    have digit : (UInt8.ofNat (value % 256)).toNat = value % 256 := by
      rw [UInt8.toNat_ofNat']
      omega
    rw [toBytes, ofBytes, ih rest, digit, Nat.mod_add_div]

/-- And bytes are those of the number that they stand for. Together the two say that nothing is lost
in either direction. -/
theorem toBytes_ofBytes (bytes : List UInt8) : toBytes bytes.length (ofBytes bytes) = bytes := by
  induction bytes with
  | nil => rfl
  | cons byte rest ih =>
    have below : byte.toNat < 256 := byte.toNat_lt
    have digit : (byte.toNat + 256 * ofBytes rest) % 256 = byte.toNat := by omega
    have others : (byte.toNat + 256 * ofBytes rest) / 256 = ofBytes rest := by omega
    rw [List.length_cons, ofBytes, toBytes, digit, others, ih, UInt8.ofNat_toNat]

end LittleEndian

namespace Width

variable {width : Width} {bytes : List UInt8}

/-- The values of a width are the numbers that fit into its bytes. -/
theorem two_pow_bits (width : Width) : 2 ^ width.bits = 256 ^ width.size :=
  pow_mul 2 8 width.size

/-! ### Reading -/

/-- Reading fails exactly if the string is too short. -/
theorem decode_eq_none_iff : width.decode bytes = none ↔ bytes.length < width.size := by
  rw [decode, ← Nat.not_le]
  split <;> simp [*]

/-- What is read of a string that is long enough is the number with the first bytes as its
digits. -/
theorem exists_decode (long : width.size ≤ bytes.length) :
    ∃ value, width.decode bytes = some value ∧
      value.toNat = LittleEndian.ofBytes (bytes.take width.size) := by
  have below := LittleEndian.ofBytes_lt (bytes.take width.size)
  rw [List.length_take_of_le long, ← two_pow_bits] at below
  refine ⟨_, if_pos long, ?_⟩
  rw [BitVec.toNat_ofNat, Nat.mod_eq_of_lt below]

theorem length_of_decode {value : BitVec width.bits} (read : width.decode bytes = some value) :
    width.size ≤ bytes.length := by
  by_contra short
  rw [decode_eq_none_iff.2 (Nat.not_le.1 short)] at read
  cases read

/-- What is read is the number of the first bytes. -/
theorem toNat_of_decode {value : BitVec width.bits} (read : width.decode bytes = some value) :
    value.toNat = LittleEndian.ofBytes (bytes.take width.size) := by
  obtain ⟨first, decoded, number⟩ := exists_decode (length_of_decode read)
  rw [read] at decoded
  cases decoded
  exact number

/-- Bytes after the first ones do not count. -/
theorem decode_take (width : Width) (bytes : List UInt8) :
    width.decode (bytes.take width.size) = width.decode bytes := by
  unfold decode
  rw [List.take_take, Nat.min_self, List.length_take]
  simp

/-- Bytes beyond the width are not read. -/
theorem decode_congr {other : List UInt8}
    (agree : ∀ place < width.size, other[place]? = bytes[place]?) :
    width.decode other = width.decode bytes := by
  have same : other.take width.size = bytes.take width.size := by
    apply List.ext_getElem?
    intro place
    rw [List.getElem?_take, List.getElem?_take]
    split
    · exact agree place ‹_›
    · rfl
  rw [← decode_take, same, decode_take]

/-- A read of twice a width is a read of each half, and fails where one of them fails. The second
half is read behind the first one. -/
theorem decode_double {double : Width} (twice : double.size = 2 * width.size)
    (bytes : List UInt8) :
    (double.decode bytes).map BitVec.toNat =
      (width.decode bytes).bind fun low =>
        (width.decode (bytes.drop width.size)).map fun high =>
          low.toNat + 2 ^ width.bits * high.toNat := by
  by_cases long : double.size ≤ bytes.length
  · have enough : width.size ≤ (bytes.drop width.size).length := by
      rw [List.length_drop]
      omega
    obtain ⟨value, whole, number⟩ := exists_decode long
    obtain ⟨low, first, lowNumber⟩ := exists_decode (show width.size ≤ bytes.length by omega)
    obtain ⟨high, second, highNumber⟩ := exists_decode enough
    have halves : bytes.take double.size =
        bytes.take width.size ++ (bytes.drop width.size).take width.size := by
      rw [twice, Nat.two_mul, List.take_add]
    have length : (bytes.take width.size).length = width.size :=
      List.length_take_of_le (by omega)
    rw [whole, first, second, Option.map_some, Option.bind_some, Option.map_some, number, halves,
      LittleEndian.ofBytes_append, length, two_pow_bits, lowNumber, highNumber]
  -- A string that is too short for both halves may still have the first, but never the second.
  · rw [decode_eq_none_iff.2 (Nat.not_le.1 long), Option.map_none]
    cases first : width.decode bytes with
    | none => rfl
    | some low =>
      have short : (bytes.drop width.size).length < width.size := by
        rw [List.length_drop]
        omega
      rw [Option.bind_some, decode_eq_none_iff.2 short, Option.map_none]

/-! ### Writing -/

theorem encode_of_long (long : width.size ≤ bytes.length) (value : BitVec width.bits) :
    width.encode value bytes =
      some (LittleEndian.toBytes width.size value.toNat ++ bytes.drop width.size) :=
  if_pos long

theorem write_of_long (long : width.size ≤ bytes.length) (value : BitVec width.bits) :
    width.write value bytes =
      .ok () (LittleEndian.toBytes width.size value.toNat ++ bytes.drop width.size) := by
  have written : (width.write value).run bytes =
      .ok () (LittleEndian.toBytes width.size value.toNat ++ bytes.drop width.size) := by
    simp [write, encode_of_long long]
  exact written

theorem write_of_short (short : bytes.length < width.size) (value : BitVec width.bits) :
    width.write value bytes = .error .outOfRange bytes := by
  have refused : width.encode value bytes = none := if_neg (Nat.not_le.2 short)
  have stopped : (width.write value).run bytes = .error .outOfRange bytes := by
    simp [write, refused]
  exact stopped

/-- A write stops only at a string that is too short, which stays as it is. -/
theorem write_eq_error_iff {value : BitVec width.bits} {fault : AccessFault} {after : List UInt8} :
    width.write value bytes = .error fault after ↔
      bytes.length < width.size ∧ fault = .outOfRange ∧ after = bytes := by
  constructor
  · intro stops
    rcases Nat.lt_or_ge bytes.length width.size with short | long
    · rw [write_of_short short] at stops
      cases stops
      exact ⟨short, rfl, rfl⟩
    · rw [write_of_long long] at stops
      cases stops
  · rintro ⟨short, rfl, rfl⟩
    exact write_of_short short value

/-- What was written is read back, whatever stands behind it. -/
theorem decode_toBytes_append (value : BitVec width.bits) (rest : List UInt8) :
    width.decode (LittleEndian.toBytes width.size value.toNat ++ rest) = some value := by
  have length : (LittleEndian.toBytes width.size value.toNat).length = width.size :=
    LittleEndian.length_toBytes ..
  have long : width.size ≤ (LittleEndian.toBytes width.size value.toNat ++ rest).length := by
    rw [List.length_append]
    omega
  have fits : value.toNat < 256 ^ width.size := two_pow_bits width ▸ value.isLt
  obtain ⟨read, decoded, number⟩ := exists_decode long
  rw [List.take_left' length, LittleEndian.ofBytes_toBytes fits] at number
  rw [decoded, BitVec.eq_of_toNat_eq number]

/-- The bytes of a value that was read are those that it was read from. -/
theorem toBytes_of_decode {value : BitVec width.bits} (read : width.decode bytes = some value) :
    LittleEndian.toBytes width.size value.toNat = bytes.take width.size := by
  have length : (bytes.take width.size).length = width.size :=
    List.length_take_of_le (length_of_decode read)
  have digits := LittleEndian.toBytes_ofBytes (bytes.take width.size)
  rwa [length, ← toNat_of_decode read] at digits

/-! ### Reading and writing -/

/-- The laws of reading and writing values of a width in a byte string. -/
structure Codec (width : Width) (bytes : List UInt8) : Prop where
  /-- A value is read unless the string is too short. -/
  readable : width.decode bytes = none ↔ bytes.length < width.size
  /-- The first bytes are the digits of the value that is read, the least significant first. -/
  digits : ∀ value, width.decode bytes = some value →
    value.toNat = ∑ place ∈ range width.size, 256 ^ place * (bytes[place]?.getD 0).toNat
  /-- Other bytes do not count, nor does how many there are. -/
  independent : ∀ other : List UInt8, (∀ place < width.size, other[place]? = bytes[place]?) →
    width.decode other = width.decode bytes
  /-- A read of twice the width is a read of each half, and fails where one of them fails. -/
  halves : ∀ double : Width, double.size = 2 * width.size →
    (double.decode bytes).map BitVec.toNat =
      (width.decode bytes).bind fun low =>
        (width.decode (bytes.drop width.size)).map fun high =>
          low.toNat + 2 ^ (8 * width.size) * high.toNat
  /-- A value is written unless the string is too short. -/
  writable : ∀ value, (∃ fault after, width.write value bytes = .error fault after) ↔
    bytes.length < width.size
  /-- A write that fails changes nothing. -/
  unchanged : ∀ value fault after, width.write value bytes = .error fault after → after = bytes
  /-- A value that was written is what is read then, and all bytes but the first ones stay. -/
  written : ∀ value, width.size ≤ bytes.length → ∃ after, width.write value bytes = .ok () after ∧
    width.decode after = some value ∧ after.length = bytes.length ∧
    ∀ place, width.size ≤ place → after[place]? = bytes[place]?
  /-- Writing what was read changes nothing. -/
  restored : ∀ value, width.decode bytes = some value → width.write value bytes = .ok () bytes

/-- Values of every width are read from every byte string and written to it without loss. All fields
come from one description each of reading and of writing, by the digits of the value. -/
theorem byteStringCodec (width : Width) (bytes : List UInt8) : Codec width bytes where
  readable := decode_eq_none_iff
  digits := by
    intro value read
    have length : (bytes.take width.size).length = width.size :=
      List.length_take_of_le (length_of_decode read)
    rw [toNat_of_decode read, LittleEndian.ofBytes_eq_sum, length]
    refine sum_congr rfl fun place inside => ?_
    rw [List.getElem?_take_of_lt (mem_range.1 inside)]
  independent := by
    intro other agree
    exact decode_congr agree
  halves := by
    intro double twice
    exact decode_double twice bytes
  writable := by
    intro value
    constructor
    · rintro ⟨fault, after, stops⟩
      exact (write_eq_error_iff.1 stops).1
    · intro short
      exact ⟨_, _, write_of_short short value⟩
  unchanged := by
    intro value fault after stops
    exact (write_eq_error_iff.1 stops).2.2
  written := by
    intro value long
    refine ⟨_, write_of_long long value, decode_toBytes_append value _, ?_, fun place beyond => ?_⟩
    · rw [List.length_append, LittleEndian.length_toBytes, List.length_drop]
      omega
    · have first : (LittleEndian.toBytes width.size value.toNat).length ≤ place := by
        rwa [LittleEndian.length_toBytes]
      rw [List.getElem?_append_right first, LittleEndian.length_toBytes, List.getElem?_drop,
        Nat.add_sub_cancel' beyond]
  restored := by
    intro value read
    rw [write_of_long (length_of_decode read), toBytes_of_decode read, List.take_append_drop]

/-- Two bytes of three are replaced, the lower one first. -/
example : Width.halfword.write 0x1234 [0xEE, 0xEE, 0xEE] = .ok () [0x34, 0x12, 0xEE] := by
  rfl

end Width

end RecompilerAdapter
