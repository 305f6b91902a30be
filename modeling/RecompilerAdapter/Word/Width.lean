/-
Module: RecompilerAdapter.Word.Width
Purpose: The four widths at which guest memory is accessed, and how a value of each width is stored in a
  byte string: little-endian, in the first `size` bytes. A byte string that is too short is refused by
  both directions, and bytes beyond the width are neither read nor changed.
Trusted boundary: the definitions of this module
Main exports: Width, Width.decode, Width.encode, Width.write
-/
import RecompilerAdapter.Word.LittleEndian

namespace RecompilerAdapter

/-- The width of one memory access. -/
inductive Width where
  | byte
  | halfword
  | word
  | doubleword
deriving Repr, DecidableEq

/-- Why an access to a byte string fails. -/
inductive AccessFault where
  /-- The byte string ends before the access does. -/
  | outOfRange
deriving Repr, DecidableEq

namespace Width

/-- The number of bytes that an access moves. -/
abbrev size : Width → Nat
  | byte => 1
  | halfword => 2
  | word => 4
  | doubleword => 8

/-- The number of bits that an access moves. -/
abbrev bits (width : Width) : Nat :=
  8 * width.size

/-- The value held by the first `size` bytes, or `none` if there are fewer. -/
def decode (width : Width) (bytes : List UInt8) : Option (BitVec width.bits) :=
  if width.size ≤ bytes.length then
    some (BitVec.ofNat width.bits (LittleEndian.ofBytes (bytes.take width.size)))
  else
    none

/-- The byte string with its first `size` bytes replaced by `value`, or `none` if there are
fewer. -/
def encode (width : Width) (value : BitVec width.bits) (bytes : List UInt8) :
    Option (List UInt8) :=
  if width.size ≤ bytes.length then
    some (LittleEndian.toBytes width.size value.toNat ++ bytes.drop width.size)
  else
    none

/-- Writes a value into the first `size` bytes of a byte string, in place. -/
def write (width : Width) (value : BitVec width.bits) : EStateM AccessFault (List UInt8) Unit := do
  match width.encode value (← get) with
  | some written => set written
  | none => throw .outOfRange

/-- The width with the given number of bits. -/
def ofBits? : Nat → Option Width
  | 8 => some byte
  | 16 => some halfword
  | 32 => some word
  | 64 => some doubleword
  | _ => none

end Width

end RecompilerAdapter
