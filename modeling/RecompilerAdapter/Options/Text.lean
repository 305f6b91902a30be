/-
Module: RecompilerAdapter.Options.Text
Purpose: Reading tunables from a text, with faults placed in lines and columns. The place of a fault is a
  number of bytes; its line is one more than the line feeds among them, its column the number of bytes
  after the last of these.
Trusted boundary: the definitions of this module
Main exports: TextPosition, OptionsFault, Options.ofBytes, Options.ofJson
-/
import RecompilerAdapter.Options.Reader

namespace RecompilerAdapter

/-- A place in a text. -/
structure TextPosition where
  line : Nat
  column : Nat
deriving Repr, DecidableEq

/-- The place behind the first `count` bytes of a text. -/
def TextPosition.after (text : List UInt8) (count : Nat) : TextPosition :=
  let passed := text.take count
  ⟨passed.count 0x0A + 1, (passed.reverse.takeWhile (· != 0x0A)).length⟩

/-- Why a text holds no tunables, and where. -/
structure OptionsFault where
  cause : Json.Cause
  position : TextPosition
deriving Repr, DecidableEq

namespace OptionsFault

/-- Places a fault in the text that was read. -/
def locate (text : List UInt8) (fault : Json.Fault) : OptionsFault :=
  ⟨fault.cause, .after text (text.length - fault.left)⟩

/-- The category of the fault. -/
def category (fault : OptionsFault) : Json.Category :=
  fault.cause.category

/-- The wording of the fault and its place. -/
def message (fault : OptionsFault) : String :=
  fault.cause.describe ++ " at line " ++ toString fault.position.line ++ " column " ++
    toString fault.position.column

end OptionsFault

namespace Options

/-- Reads tunables from the bytes of a text. -/
def ofBytes (text : List UInt8) : Except OptionsFault Options :=
  (readBytes text).mapError (OptionsFault.locate text)

/-- Reads tunables from a JSON text. -/
def ofJson (text : String) : Except OptionsFault Options :=
  ofBytes text.toUTF8.toList

end Options

end RecompilerAdapter
