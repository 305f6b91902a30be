/-
Module: RecompilerAdapter.Options.Basic
Purpose: The tunables that are handed to an engine when it is constructed. The adapter never interprets
  them.
Trusted boundary: the definitions of this module
Main exports: Options, OptionName, Options.toJson, Options.inspect
-/

namespace RecompilerAdapter

/-- Engine tunables. -/
structure Options where
  /-- Compiled blocks may jump to each other without returning to the dispatcher. -/
  enableFastDispatch : Bool
  /-- Hint instructions are reported as exceptions. -/
  hookHintInstructions : Bool
  /-- Unpredictable encodings have a defined behaviour instead of raising an exception. -/
  defineUnpredictableBehaviour : Bool
  /-- The halt flag is checked after every memory access, not only between blocks. -/
  checkHaltOnMemoryAccess : Bool
  /-- Guest memory is little-endian whatever the guest's endianness bit says. -/
  alwaysLittleEndian : Bool
deriving Repr, DecidableEq

/-- The names under which the tunables are written. -/
inductive OptionName where
  | enableFastDispatch
  | hookHintInstructions
  | defineUnpredictableBehaviour
  | checkHaltOnMemoryAccess
  | alwaysLittleEndian
deriving Repr, DecidableEq

namespace OptionName

/-- All names in the order in which they are written. -/
def all : List OptionName :=
  [enableFastDispatch, hookHintInstructions, defineUnpredictableBehaviour,
    checkHaltOnMemoryAccess, alwaysLittleEndian]

/-- The written name. -/
def text : OptionName → String
  | enableFastDispatch => "enable_fast_dispatch"
  | hookHintInstructions => "hook_hint_instructions"
  | defineUnpredictableBehaviour => "define_unpredictable_behaviour"
  | checkHaltOnMemoryAccess => "check_halt_on_memory_access"
  | alwaysLittleEndian => "always_little_endian"

/-- The bytes of the written name. -/
def bytes (name : OptionName) : List UInt8 :=
  name.text.toUTF8.toList

/-- The name written with exactly these bytes. -/
def ofBytes? (bytes : List UInt8) : Option OptionName :=
  all.find? fun name => name.bytes == bytes

end OptionName

namespace Options

/-- Fast dispatch and little-endian memory are on, the rest is off. -/
def default : Options where
  enableFastDispatch := true
  hookHintInstructions := false
  defineUnpredictableBehaviour := false
  checkHaltOnMemoryAccess := false
  alwaysLittleEndian := true

/-- The value of a tunable. -/
def get (options : Options) : OptionName → Bool
  | .enableFastDispatch => options.enableFastDispatch
  | .hookHintInstructions => options.hookHintInstructions
  | .defineUnpredictableBehaviour => options.defineUnpredictableBehaviour
  | .checkHaltOnMemoryAccess => options.checkHaltOnMemoryAccess
  | .alwaysLittleEndian => options.alwaysLittleEndian

/-- Changes one tunable. -/
def set (options : Options) (name : OptionName) (value : Bool) : Options :=
  match name with
  | .enableFastDispatch => { options with enableFastDispatch := value }
  | .hookHintInstructions => { options with hookHintInstructions := value }
  | .defineUnpredictableBehaviour => { options with defineUnpredictableBehaviour := value }
  | .checkHaltOnMemoryAccess => { options with checkHaltOnMemoryAccess := value }
  | .alwaysLittleEndian => { options with alwaysLittleEndian := value }

/-- The written form of a truth value. -/
def flagText (value : Bool) : String :=
  if value then "true" else "false"

/-- The compact JSON object of all tunables in their order. -/
def toJson (options : Options) : String :=
  let member (name : OptionName) : String :=
    "\"" ++ name.text ++ "\":" ++ flagText (options.get name)
  "\x7b" ++ ",".intercalate (OptionName.all.map member) ++ "\x7d"

/-- The developer's view of the tunables. -/
def inspect (options : Options) : String :=
  let member (name : OptionName) : String :=
    name.text ++ ": " ++ flagText (options.get name)
  "Options \x7b " ++ ", ".intercalate (OptionName.all.map member) ++ " \x7d"

theorem get_set (options : Options) (name other : OptionName) (value : Bool) :
    (options.set name value).get other = if other = name then value else options.get other := by
  cases name <;> cases other <;> rfl

end Options

end RecompilerAdapter
