import EarlyMemory.Alignment

/-!
# Page sizes

A page size is a power of two and is known as one by its type, so no operation on pages has to
ask again.
-/

namespace EarlyMemory

/-- The number of bytes in a page. -/
structure PageSize where
  bytes : Word
  isPowerOfTwo_bytes : bytes.isPowerOfTwo = true := by decide
deriving DecidableEq

namespace PageSize

/-- Any power of two is a page size, no other word is. -/
def ofBytes? (bytes : Word) : Option PageSize :=
  if h : bytes.isPowerOfTwo = true then some ⟨bytes, h⟩ else none

/-- Pages of four kibibytes, the size of the boot sequence. -/
def fourKib : PageSize := ⟨4096, by decide⟩

theorem ofBytes?_bytes (p : PageSize) : ofBytes? p.bytes = some p := by
  simp [ofBytes?, p.isPowerOfTwo_bytes]

theorem isSome_ofBytes?_iff (bytes : Word) :
    (ofBytes? bytes).isSome ↔ bytes.isPowerOfTwo = true := by
  by_cases h : bytes.isPowerOfTwo = true <;> simp [ofBytes?, h]

end PageSize

end EarlyMemory
