/-
Module: RecompilerAdapter.Handle
Purpose: Handles and the slots that hold them.
Trusted boundary: the definitions of this module
Main exports: Handle, HandleSlot, HandleSlots, HandleSlots.get?, HandleSlots.bind?
-/

/-!
A handle names a wrapper. It has to reach the bridges before the wrapper exists, so every bridge
keeps a reference to a shared slot that is bound once, when the wrapper is in place. References to
one slot always agree, because the binding is kept once and the references only name it. The null
handle marks an unbound slot.
-/

namespace RecompilerAdapter

/-- The opaque name of a wrapper, as callers see it. Address zero is the null handle. -/
structure Handle where
  address : Nat
deriving Repr, DecidableEq, Inhabited

namespace Handle

/-- The handle that names nothing. -/
def null : Handle :=
  ⟨0⟩

/-- Whether the handle names nothing. -/
def isNull (handle : Handle) : Bool :=
  handle.address == 0

end Handle

/-- A reference to a handle slot. Copies of a reference share the slot. -/
structure HandleSlot where
  index : Nat
deriving Repr, DecidableEq

/-- All handle slots created so far with their bindings; null where a slot is unbound. -/
structure HandleSlots where
  bindings : Array Handle
deriving Repr, DecidableEq

namespace HandleSlots

/-- No slot yet. -/
def empty : HandleSlots :=
  ⟨#[]⟩

/-- Creates an unbound slot. -/
def allocate (slots : HandleSlots) : HandleSlot × HandleSlots :=
  (⟨slots.bindings.size⟩, ⟨slots.bindings.push .null⟩)

/-- What the slot holds; null if it is unbound. -/
def binding (slots : HandleSlots) (slot : HandleSlot) : Handle :=
  slots.bindings[slot.index]?.getD .null

/-- Whether a handle has been bound. -/
def isBound (slots : HandleSlots) (slot : HandleSlot) : Bool :=
  !(slots.binding slot).isNull

/-- The bound handle, or `none` while the slot is unbound. -/
def get? (slots : HandleSlots) (slot : HandleSlot) : Option Handle :=
  if slots.isBound slot then some (slots.binding slot) else none

/-- Binds a slot, or `none` if it is bound already. Binding null leaves it unbound. -/
def bind? (slots : HandleSlots) (slot : HandleSlot) (handle : Handle) : Option HandleSlots :=
  if slots.isBound slot then none else some ⟨slots.bindings.setIfInBounds slot.index handle⟩

end HandleSlots

end RecompilerAdapter
