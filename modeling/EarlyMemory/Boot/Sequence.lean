import EarlyMemory.Boot.Item
import EarlyMemory.Boot.Options

/-!
# The boot sequence

A start reserves a region, opens an arena over it, obtains its blocks in a fixed order, and hands
what is left to the full allocator. It stops at the first block that it cannot have, and at either
of two checks on the way. `Course` keeps what was said and obtained so far.
-/

namespace EarlyMemory.Boot

/-! ## The host -/

/-- The machine that lends the region: it always lends at one address, and only so many bytes. -/
structure Host where
  base : Word
  limit : Word
deriving DecidableEq, Repr

namespace Host

/-- Lends the region, or refuses if it is too large. -/
def reserve? (h : Host) (size : Word) : Option Region :=
  if size ≤ h.limit then some { start := h.base, size } else none

/-- The host of the rehearsal lends up to 64 MiB, at `2 ^ 44`. -/
def rehearsal : Host := { base := 0x100000000000, limit := 0x4000000 }

end Host

/-! ## Failures and notices -/

/-- Why a start stopped. -/
inductive Failure where
  /-- The region is not a whole number of pages. -/
  | unevenRegion (kib : Word)
  /-- The host does not lend so much. -/
  | noRegion (bytes : Word)
  /-- The memory map has no layout. -/
  | badMapLayout
  | refused (item : Item) (status : Status)
  /-- The arena has taken a second region. -/
  | regionTaken
deriving DecidableEq, Repr

namespace Failure

def message : Failure → Message
  | unevenRegion kib =>
    ["region size ", .decimal kib, " KiB is not a multiple of the ", .decimal page.bytes,
      " byte page size"]
  | noRegion bytes => ["failed to reserve ", .decimal bytes, " bytes for the early region"]
  | badMapLayout => ["bad memory map layout"]
  | refused item status => item.refusalMessage status
  | regionTaken => ["add_memory unexpectedly accepted a second region"]

/-- A region that cannot be meant is a fault of the command line; the rest are faults of the run. -/
def exitCode : Failure → UInt8
  | unevenRegion _ => 2
  | noRegion _ | badMapLayout | refused .. | regionTaken => 1

end Failure

/-- What a start says. -/
inductive Notice where
  | arena (event : Arena.Event)
  | failed (failure : Failure)
  /-- The region that the full allocator inherits. -/
  | handOff (region : Region)
deriving DecidableEq, Repr

/-- The notice as it is offered to the log. -/
def Notice.entry : Notice → Entry
  | arena e => e.entry
  | failed f => { level := .error, message := f.message }
  | handOff r =>
    { level := .info
      message := ["handing [", .hex r.start, ", ", .hex r.stop, ") (", .decimal r.size,
        " bytes) to the full allocator"] }

/-! ## The course of a start -/

/-- A block that a start has obtained. -/
structure Block where
  item : Item
  region : Region
deriving DecidableEq, Repr

/-- How a start has gone so far. -/
structure Course where
  arena : Arena
  notices : List Notice := []
  blocks : List Block := []
  failure : Option Failure := none
deriving DecidableEq

namespace Course

/-- Says one thing more. -/
def say (c : Course) (n : Notice) : Course := { c with notices := c.notices ++ [n] }

/-- Goes on with the arena that an operation left, and passes on its events. -/
def follow {α : Type} (c : Course) (e : Arena.Effect α) : Course :=
  { c with arena := e.arena, notices := c.notices ++ e.events.map .arena }

/-- Keeps a block that was granted. -/
def keep (c : Course) (b : Block) : Course := { c with blocks := c.blocks ++ [b] }

/-- Stops, and says why. -/
def fail (c : Course) (f : Failure) : Course := { c.say (.failed f) with failure := some f }

/-- A start that did not stop early ends with zero. -/
def exitCode (c : Course) : UInt8 := c.failure.elim 0 Failure.exitCode

end Course

/-! ## The plan -/

/-- One step of a start. -/
inductive Action where
  | report (stage : String)
  /-- Makes sure that the memory map has a layout. -/
  | layOutMap
  | obtain (item : Item)
  /-- Offers a second region, which the arena must not take. -/
  | offer (region : Region)
  | handOff
deriving DecidableEq, Repr

/-- Carries out one step. -/
def Course.perform (c : Course) : Action → Course
  | .report stage => c.say (.arena (c.arena.report (Bytes.ofString stage)))
  | .layOutMap => if mapLayout?.isSome then c else c.fail .badMapLayout
  | .obtain item =>
    let effect := item.request c.arena
    let after := c.follow effect
    if effect.answer.isOk then
      after.keep { item, region := { start := effect.answer.addr, size := item.size } }
    else after.fail (.refused item effect.answer.status)
  | .offer r =>
    let effect := c.arena.addMemory r
    let after := c.follow effect
    if effect.answer = .unsupported then after else after.fail .regionTaken
  | .handOff => c.say (.handOff c.arena.unusedRegion)

/-- Carries out steps up to the first failure. -/
def Course.run (c : Course) : List Action → Course
  | [] => c
  | action :: actions =>
    let after := c.perform action
    if after.failure.isSome then after else after.run actions

/-- What a start does once its arena is open. -/
def plan (stackPages : Word) : List Action :=
  [.report "init", .obtain .info, .layOutMap, .obtain .memoryMap, .report "boot structures",
    .obtain .rootTable, .obtain (.stack stackPages), .report "page tables + stack",
    .offer { start := 0, size := page.bytes }, .handOff]

/-- The whole course of a start with given options. -/
def start (host : Host) (o : Options) : Course :=
  let idle : Course := { arena := { page, config := { traceGrants := o.trace } } }
  if o.regionBytes % page.bytes != 0 then
    idle.fail (.unevenRegion o.regionKib)
  else
    match host.reserve? o.regionBytes with
    | none => idle.fail (.noRegion o.regionBytes)
    | some region => (idle.follow (idle.arena.init region)).run (plan o.stackPages)

end EarlyMemory.Boot
