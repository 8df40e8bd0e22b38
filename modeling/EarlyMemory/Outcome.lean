import EarlyMemory.Alignment

/-!
# Outcomes of requests

A request for memory ends with a status and an address. Only a granted request has an address
that means anything; a refusal has the address zero.
-/

namespace EarlyMemory

/-! ## Status -/

/-- How a request ended. -/
inductive Status where
  | ok
  | noMemory
  | invalidParam
  | unsupported
  /-- A status that this version of the interface does not know. -/
  | unknown
deriving DecidableEq, Repr

namespace Status

/-- The status with a given number; the known ones are numbered in order from zero. -/
def ofCode (code : UInt8) : Status :=
  [ok, noMemory, invalidParam, unsupported].getD code.toNat unknown

/-- The word that stands for a status in messages. -/
def name : Status → String
  | ok => "Ok"
  | noMemory => "NoMemory"
  | invalidParam => "InvalidParam"
  | unsupported => "Unsupported"
  | unknown => "Unknown"

end Status

/-! ## Outcome -/

/-- The answer to a request. Before any request is answered there is no memory to speak of. -/
structure Outcome where
  status : Status := .noMemory
  addr : Word := 0
deriving DecidableEq, Repr

namespace Outcome

/-- The memory at an address is the caller's. -/
def granted (addr : Word) : Outcome := { status := .ok, addr }

/-- Nothing was given out. -/
def refused (status : Status) : Outcome := { status, addr := 0 }

/-- Only the status tells a grant from a refusal. -/
def isOk (o : Outcome) : Bool := o.status == .ok

@[simp] theorem isOk_granted (addr : Word) : (granted addr).isOk = true := rfl

@[simp] theorem isOk_refused (s : Status) : (refused s).isOk = (s == .ok) := rfl

end Outcome

end EarlyMemory
