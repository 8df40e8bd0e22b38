import EarlyMemory.Alignment

/-!
# Regions

A region is a run of addresses given by its start and its size. Its end wraps like every sum of
words, so a region may reach over the top of the address space.
-/

namespace EarlyMemory

/-- The addresses from `start` up to `start + size`, the latter left out. -/
structure Region where
  start : Word := 0
  size : Word := 0
deriving DecidableEq, Repr

namespace Region

/-- The first address past the region. -/
def stop (r : Region) : Word := r.start + r.size

/-- A region of no bytes. -/
def isEmpty (r : Region) : Bool := r.size == 0

/-- The region between two addresses. -/
def between (start stop : Word) : Region := { start, size := stop - start }

theorem stop_between (start stop : Word) : (between start stop).stop = stop := by
  rw [Region.stop, between, UInt64.add_comm, UInt64.sub_add_cancel]

end Region

end EarlyMemory
