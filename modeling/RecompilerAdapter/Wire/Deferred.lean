/-
Module: RecompilerAdapter.Wire.Deferred
Purpose: Deferred operations. A caller answers a compile request with a function and an argument for it;
  the bridge adds the handle of the wrapper that asked, and the engine calls the result whenever the
  instruction executes. The type of functions is a parameter: it may be a function or the word that stands
  for one on the wire.
Trusted boundary: the definitions of this module
Main exports: RawCallback, Callback, CallbackFunction, WireCallback
-/
import RecompilerAdapter.Handle
import RecompilerAdapter.Wire.Optional

namespace RecompilerAdapter

/-- A deferred operation as the caller supplies it. -/
structure RawCallback (F : Type) where
  function : F
  userArgument : UInt64
deriving Repr, DecidableEq

/-- A deferred operation bound to the wrapper that compiled it. -/
structure Callback (F : Type) where
  function : F
  userArgument : UInt64
  handle : Handle
deriving Repr, DecidableEq

/-- Adds the handle that the function will receive. -/
def RawCallback.bind {F : Type} (raw : RawCallback F) (handle : Handle) : Callback F :=
  ⟨raw.function, raw.userArgument, handle⟩

/-- A function that can stand in a callback: it takes the handle, the caller's argument and two
words whose meaning depends on the operation. -/
abbrev CallbackFunction (ρ : Type) : Type :=
  Handle → UInt64 → UInt32 → UInt32 → ρ

/-- Calls the function with its own handle and argument. -/
def Callback.call {ρ : Type} (callback : Callback (CallbackFunction ρ)) (first second : UInt32) :
    ρ :=
  callback.function callback.handle callback.userArgument first second

/-- The wire form of "a deferred operation, or unsupported". -/
inductive WireCallback (F : Type) where
  | absent
  | present (raw : RawCallback F)
deriving Repr, DecidableEq

namespace WireCallback

variable {F : Type}

/-- The tag that precedes the payload. -/
def tag : WireCallback F → OptionTag
  | absent => .absent
  | present _ => .present

/-- The engine's form, with any operation bound to `handle`. -/
def decode (wire : WireCallback F) (handle : Handle) : Option (Callback F) :=
  match wire with
  | absent => none
  | present raw => some (raw.bind handle)

/-- The form in which an optional operation is sent. -/
def ofOption : Option (RawCallback F) → WireCallback F
  | none => absent
  | some raw => present raw

end WireCallback

end RecompilerAdapter
