/-
Module: RecompilerAdapter.Wire.Optional
Purpose: Optional values as they cross the boundary: a 32-bit tag and, if the tag says so, a payload.
Trusted boundary: the definitions of this module
Main exports: OptionTag, WireOption
-/

namespace RecompilerAdapter

/-- The tag of an optional value. -/
inductive OptionTag where
  | absent
  | present
deriving Repr, DecidableEq

namespace OptionTag

/-- The tag's number on the wire. -/
def code : OptionTag → UInt32
  | absent => 0
  | present => 1

/-- The tag's name. -/
def name : OptionTag → String
  | absent => "None"
  | present => "Some"

end OptionTag

/-- An optional value on the wire. -/
inductive WireOption (α : Type) where
  | absent
  | present (value : α)
deriving Repr, DecidableEq

namespace WireOption

variable {α : Type}

/-- The tag that precedes the payload. -/
def tag : WireOption α → OptionTag
  | absent => .absent
  | present _ => .present

/-- The value that was sent. -/
def toOption : WireOption α → Option α
  | absent => none
  | present value => some value

/-- The form in which a value is sent. -/
def ofOption : Option α → WireOption α
  | none => absent
  | some value => present value

/-- The developer's view of an optional value, given that of its payload. -/
def inspect (payload : α → String) : WireOption α → String
  | absent => "None"
  | present value => "Some(" ++ payload value ++ ")"

@[simp] theorem toOption_ofOption (value : Option α) : (ofOption value).toOption = value := by
  cases value <;> rfl

@[simp] theorem ofOption_toOption (value : WireOption α) : ofOption value.toOption = value := by
  cases value <;> rfl

end WireOption

end RecompilerAdapter
