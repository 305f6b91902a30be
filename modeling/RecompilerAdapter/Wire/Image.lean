/-
Module: RecompilerAdapter.Wire.Image
Purpose: The memory image of a transfer answer: the tag, then two payload words that a deferred operation
  (function, argument) and a pair of locations share. A single location takes the first word only.
  Decoding looks at the tag first, so a payload word that the tag does not call for is never read.
Trusted boundary: the definitions of this module
Main exports: WireImage, WireImage.ofTwoWords, WireImage.toTwoWords?
-/
import RecompilerAdapter.Wire.Transfer

namespace RecompilerAdapter

/-- A tagged image with room for the largest payload. -/
structure WireImage where
  tag : UInt32
  first : UInt64
  second : UInt64
deriving Repr, DecidableEq

namespace WireImage

/-- The image of an optional deferred operation. The payload of an absent one is arbitrary. -/
def ofCallback (filler : UInt64 × UInt64) : WireCallback UInt64 → WireImage
  | .absent => ⟨OptionTag.absent.code, filler.1, filler.2⟩
  | .present raw => ⟨OptionTag.present.code, raw.function, raw.userArgument⟩

/-- Reads an optional deferred operation; `none` if the tag is not one of its tags. -/
def toCallback? (image : WireImage) : Option (WireCallback UInt64) :=
  if image.tag = OptionTag.absent.code then some .absent
  else if image.tag = OptionTag.present.code then some (.present ⟨image.first, image.second⟩)
  else none

/-- The image of a one-word answer. Words that the answer does not use are arbitrary. -/
def ofOneWord (filler : UInt64 × UInt64) : WireTransfer UInt64 UInt64 → WireImage
  | .absent => ⟨AccessTag.absent.code, filler.1, filler.2⟩
  | .callback raw => ⟨AccessTag.callback.code, raw.function, raw.userArgument⟩
  | .access location => ⟨AccessTag.access.code, location, filler.2⟩

/-- Reads a one-word answer; `none` if the tag is not one of its tags. -/
def toOneWord? (image : WireImage) : Option (WireTransfer UInt64 UInt64) :=
  if image.tag = AccessTag.absent.code then some .absent
  else if image.tag = AccessTag.callback.code then some (.callback ⟨image.first, image.second⟩)
  else if image.tag = AccessTag.access.code then some (.access image.first)
  else none

/-- The image of a two-word answer. Words that the answer does not use are arbitrary. -/
def ofTwoWords (filler : UInt64 × UInt64) : WireTransfer UInt64 (UInt64 × UInt64) → WireImage
  | .absent => ⟨AccessTag.absent.code, filler.1, filler.2⟩
  | .callback raw => ⟨AccessTag.callback.code, raw.function, raw.userArgument⟩
  | .access location => ⟨AccessTag.access.code, location.1, location.2⟩

/-- Reads a two-word answer; `none` if the tag is not one of its tags. -/
def toTwoWords? (image : WireImage) : Option (WireTransfer UInt64 (UInt64 × UInt64)) :=
  if image.tag = AccessTag.absent.code then some .absent
  else if image.tag = AccessTag.callback.code then some (.callback ⟨image.first, image.second⟩)
  else if image.tag = AccessTag.access.code then some (.access (image.first, image.second))
  else none

end WireImage

end RecompilerAdapter
