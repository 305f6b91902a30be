/-
Module: RecompilerAdapter.Wire.Transfer
Purpose: Transfers between core registers and a coprocessor. The caller has three ways to answer: the
  transfer is unsupported, it is a deferred operation, or the engine may access one or two of the caller's
  words directly. The answer is passed on untouched; only the tag tells the last two apart.
Trusted boundary: the definitions of this module
Main exports: AccessTag, WireTransfer, Transfer
-/
import RecompilerAdapter.Wire.Deferred

namespace RecompilerAdapter

/-- The tag of a transfer answer. -/
inductive AccessTag where
  | absent
  | callback
  | access
deriving Repr, DecidableEq

namespace AccessTag

/-- The tag's number on the wire. -/
def code : AccessTag → UInt32
  | absent => 0
  | callback => 1
  | access => 2

/-- The tag's name. -/
def name : AccessTag → String
  | absent => "None"
  | callback => "Callback"
  | access => "Access"

end AccessTag

/-- A transfer answer on the wire. -/
inductive WireTransfer (F A : Type) where
  | absent
  | callback (raw : RawCallback F)
  | access (location : A)
deriving Repr, DecidableEq

/-- A transfer answer as the engine receives it. -/
inductive Transfer (F A : Type) where
  | unsupported
  | callback (callback : Callback F)
  | access (location : A)
deriving Repr, DecidableEq

/-- Whether the coprocessor does not implement the transfer. -/
def Transfer.isUnsupported {F A : Type} : Transfer F A → Bool
  | unsupported => true
  | _ => false

namespace WireTransfer

variable {F A : Type}

/-- The tag that precedes the payload. -/
def tag : WireTransfer F A → AccessTag
  | absent => .absent
  | callback _ => .callback
  | access _ => .access

/-- The engine's form, with any deferred operation bound to `handle`. -/
def decode (wire : WireTransfer F A) (handle : Handle) : Transfer F A :=
  match wire with
  | absent => .unsupported
  | callback raw => .callback (raw.bind handle)
  | access location => .access location

end WireTransfer

end RecompilerAdapter
