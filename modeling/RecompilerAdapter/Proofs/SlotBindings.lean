/-
Module: RecompilerAdapter.Proofs.SlotBindings
Purpose: What creating and binding handle slots changes. A slot that was just created holds nothing,
  binding fills one slot, and every other slot holds what it held before.
Trusted boundary: none
Main exports: HandleSlots.fill, HandleSlots.get?_new, HandleSlots.binding_allocate
-/
import RecompilerAdapter.Handle

namespace RecompilerAdapter

namespace HandleSlots

variable {slots : HandleSlots} {slot other : HandleSlot} {handle : Handle}

/-- The slots after one of them was given a handle. -/
def fill (slots : HandleSlots) (slot : HandleSlot) (handle : Handle) : HandleSlots :=
  ⟨slots.bindings.setIfInBounds slot.index handle⟩

/-- A slot holds a handle if it was bound to one that is not null. -/
theorem get?_eq_some_iff :
    slots.get? slot = some handle ↔ slots.binding slot = handle ∧ handle.isNull = false := by
  unfold get? isBound
  cases isNull : (slots.binding slot).isNull with
  | true =>
    simp only [Bool.not_true, Bool.false_eq_true, if_false, reduceCtorEq, false_iff]
    rintro ⟨rfl, isNotNull⟩
    simp [isNull] at isNotNull
  | false =>
    simp only [Bool.not_false, if_true, Option.some.injEq]
    constructor
    · rintro rfl
      exact ⟨rfl, isNull⟩
    · exact fun h => h.1

/-- Otherwise it is unbound, which callers can ask. -/
theorem get?_eq_none_iff : slots.get? slot = none ↔ slots.isBound slot = false := by
  unfold get?
  split <;> simp_all

theorem isBound_of_get? (held : slots.get? slot = some handle) : slots.isBound slot = true := by
  rw [← Bool.not_eq_false, ← get?_eq_none_iff, held]
  exact Option.some_ne_none handle

@[simp] theorem get?_empty (slot : HandleSlot) : empty.get? slot = none := by
  simp [get?_eq_none_iff, isBound, binding, empty, Handle.null, Handle.isNull]

/-- Creating a slot changes no binding. -/
theorem binding_allocate (slots : HandleSlots) (slot : HandleSlot) :
    slots.allocate.2.binding slot = slots.binding slot := by
  unfold allocate binding
  rw [Array.getElem?_push]
  split
  · rename_i isLast
    rw [isLast, Array.getElem?_eq_none (Nat.le_refl _)]
    rfl
  · rfl

@[simp] theorem get?_allocate (slots : HandleSlots) (slot : HandleSlot) :
    slots.allocate.2.get? slot = slots.get? slot := by
  simp [get?, isBound, binding_allocate]

/-- A slot that was just created is unbound. -/
theorem get?_new (slots : HandleSlots) : slots.get? slots.allocate.1 = none := by
  simp [get?_eq_none_iff, isBound, binding, allocate, Handle.isNull, Handle.null]

/-- An unbound slot can be bound, to the null handle as well. -/
theorem bind?_of_unbound (unbound : slots.get? slot = none) (handle : Handle) :
    slots.bind? slot handle = some (slots.fill slot handle) := by
  rw [get?_eq_none_iff] at unbound
  simp [bind?, unbound, fill]

/-- A slot that was bound to a proper handle holds it. -/
theorem get?_fill_self (created : slot.index < slots.bindings.size) (named : handle.isNull = false) :
    (slots.fill slot handle).get? slot = some handle := by
  rw [get?_eq_some_iff]
  refine ⟨?_, named⟩
  simp [fill, binding, created]

/-- A slot that is given null is unbound. -/
theorem get?_fill_null (isNull : handle.isNull) : (slots.fill slot handle).get? slot = none := by
  rw [get?_eq_none_iff, isBound, Bool.not_eq_false', fill, binding, Array.getElem?_setIfInBounds_self]
  split
  · exact isNull
  · rfl

theorem size_fill (slots : HandleSlots) (slot : HandleSlot) (handle : Handle) :
    (slots.fill slot handle).bindings.size = slots.bindings.size :=
  Array.size_setIfInBounds

theorem bind?_of_bound {bound : Handle} (isBound : slots.get? slot = some bound) (handle : Handle) :
    slots.bind? slot handle = none := by
  rw [bind?, if_pos (isBound_of_get? isBound)]

theorem get?_fill_other (different : other ≠ slot) :
    (slots.fill slot handle).get? other = slots.get? other := by
  have apart : slot.index ≠ other.index := by
    intro same
    exact different (by cases slot; cases other; simp_all)
  simp [get?, isBound, binding, fill, apart]

end HandleSlots

end RecompilerAdapter
