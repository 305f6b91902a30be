/-
Module: RecompilerAdapter.Coprocessor.Host
Purpose: Coprocessor tables for coprocessor objects. The context of the table is the object; every entry
  calls the object's method with the operands it received. A method that an object does not define answers
  that the operation is unsupported.
Trusted boundary: the definitions of this module
Main exports: HostCoprocessor, HostCoprocessor.table, RawCallback.forHandler
-/
import RecompilerAdapter.Coprocessor.Table

namespace RecompilerAdapter

/-- The methods of coprocessor objects. The first argument is the object. -/
structure HostCoprocessor (σ ν : Type) where
  internalOperation (self : Context) (two : Bool) (opc1 : UInt32)
    (crd crn crm : CoprocessorRegister) (opc2 : UInt32) :
    Activity σ ν (WireOperation σ ν) := pure .absent
  sendOneWord (self : Context) (two : Bool) (opc1 : UInt32) (crn crm : CoprocessorRegister)
    (opc2 : UInt32) : Activity σ ν (WireOneWord σ ν) := pure .absent
  sendTwoWords (self : Context) (two : Bool) (opc : UInt32) (crm : CoprocessorRegister) :
    Activity σ ν (WireTwoWords σ ν) := pure .absent
  getOneWord (self : Context) (two : Bool) (opc1 : UInt32) (crn crm : CoprocessorRegister)
    (opc2 : UInt32) : Activity σ ν (WireOneWord σ ν) := pure .absent
  getTwoWords (self : Context) (two : Bool) (opc : UInt32) (crm : CoprocessorRegister) :
    Activity σ ν (WireTwoWords σ ν) := pure .absent
  loadWords (self : Context) (two long : Bool) (crd : CoprocessorRegister)
    (option : Option UInt8) : Activity σ ν (WireOperation σ ν) := pure .absent
  storeWords (self : Context) (two long : Bool) (crd : CoprocessorRegister)
    (option : Option UInt8) : Activity σ ν (WireOperation σ ν) := pure .absent

namespace HostCoprocessor

variable {σ ν : Type}

/-- The table whose entries call the methods of the object that is its context. -/
def table (host : HostCoprocessor σ ν) (self : Context) : CoprocessorTable σ ν where
  context := self
  internalOperation this two opc1 crd crn crm opc2 :=
    host.internalOperation this two opc1 crd crn crm opc2
  sendOneWord this two opc1 crn crm opc2 := host.sendOneWord this two opc1 crn crm opc2
  sendTwoWords this two opc crm := host.sendTwoWords this two opc crm
  getOneWord this two opc1 crn crm opc2 := host.getOneWord this two opc1 crn crm opc2
  getTwoWords this two opc crm := host.getTwoWords this two opc crm
  loadWords this two long crd option := host.loadWords this two long crd option.toOption
  storeWords this two long crd option := host.storeWords this two long crd option.toOption

/-- The coprocessor object that supports nothing. -/
def unsupporting : HostCoprocessor σ ν where

end HostCoprocessor

namespace RawCallback

variable {σ ν : Type}

/-- A deferred operation that calls a handler with the wrapper's handle and the handler's own
context. -/
def forHandler (handler : Handle → UInt64 → UInt32 → UInt32 → Activity σ ν UInt64)
    (context : UInt64) : RawCallback (DeferredFunction σ ν) :=
  ⟨fun handle argument first second => handler handle argument first second, context⟩

end RawCallback

end RecompilerAdapter
