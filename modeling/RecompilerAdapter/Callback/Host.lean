/-
Module: RecompilerAdapter.Callback.Host
Purpose: Callback tables for host objects. A host object is the context of its wrapper; every entry of the
  table first recovers the object from the handle that it received, then calls the object's method. The
  two trap methods also learn the handle, so that they can act on the wrapper.
Trusted boundary: the definitions of this module
Main exports: HostCallbacks, HostCallbacks.withSelf, HostCallbacks.table
-/
import RecompilerAdapter.Callback.Table

namespace RecompilerAdapter

/-- The methods of host objects. The first argument is the object. -/
structure HostCallbacks (σ ν : Type) where
  read : (self : UserData) → (width : Width) → UInt32 → Activity σ ν (BitVec width.bits)
  write : (self : UserData) → (width : Width) → UInt32 → BitVec width.bits → Activity σ ν Unit
  isReadOnly : (self : UserData) → UInt32 → Activity σ ν Bool := fun _ _ => pure false
  supervisorCall : (self : UserData) → Handle → UInt32 → Activity σ ν Unit
  exceptionRaised : (self : UserData) → Handle → UInt32 → ExceptionKind → Activity σ ν Unit
  addTicks : (self : UserData) → UInt64 → Activity σ ν Unit
  ticksRemaining : (self : UserData) → Activity σ ν UInt64

namespace HostCallbacks

variable {σ ν α : Type}

/-- Recovers the host object behind a handle and goes on with it. -/
def withSelf (handle : Handle) (method : UserData → Activity σ ν α) : Activity σ ν α :=
  .perform .direct handle .userData fun
    | .userData self => method self
    | _ => method (.word 0)

/-- The table whose entries call the methods of the object behind the handle. -/
def table (host : HostCallbacks σ ν) : CallbackTable σ ν where
  read8 handle vaddr := withSelf handle fun self => host.read self .byte vaddr
  read16 handle vaddr := withSelf handle fun self => host.read self .halfword vaddr
  read32 handle vaddr := withSelf handle fun self => host.read self .word vaddr
  read64 handle vaddr := withSelf handle fun self => host.read self .doubleword vaddr
  write8 handle vaddr value := withSelf handle fun self => host.write self .byte vaddr value
  write16 handle vaddr value := withSelf handle fun self => host.write self .halfword vaddr value
  write32 handle vaddr value := withSelf handle fun self => host.write self .word vaddr value
  write64 handle vaddr value := withSelf handle fun self => host.write self .doubleword vaddr value
  isReadOnly := some fun handle vaddr => withSelf handle fun self => host.isReadOnly self vaddr
  supervisorCall handle number :=
    withSelf handle fun self => host.supervisorCall self handle number
  exceptionRaised handle pc condition :=
    withSelf handle fun self => host.exceptionRaised self handle pc condition
  addTicks handle ticks := withSelf handle fun self => host.addTicks self ticks
  ticksRemaining handle := withSelf handle fun self => host.ticksRemaining self

end HostCallbacks

end RecompilerAdapter
