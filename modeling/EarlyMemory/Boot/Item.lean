import EarlyMemory.Arena.Operation

/-!
# What a start needs from its arena

Two records in bytes and two blocks in pages: the boot information, the memory map, the root page
table and the boot stack.
-/

namespace EarlyMemory.Boot

/-! ## Records -/

/-- The boot information: a magic number and two counts of four bytes. -/
def infoLayout : Layout := .record [.scalar 8, .scalar 4, .scalar 4]

/-- An entry of the memory map: a base, a length and a kind of four bytes. -/
def mapEntryLayout : Layout := .record [.scalar 8, .scalar 8, .scalar 4]

/-- The number of entries in the memory map. -/
def mapEntries : Word := 16

/-- The whole memory map. -/
def mapLayout : Layout := mapEntryLayout.array mapEntries

/-- The layout that the memory map is given, if its size and alignment make one. -/
def mapLayout? : Option Layout := Layout.of? mapLayout.size mapLayout.align

example : infoLayout = { size := 16, align := 8 } ∧ mapLayout = { size := 384, align := 8 } := by
  decide

/-! ## Items -/

/-- The pages of the arena that serves the start. -/
def page : PageSize := .fourKib

/-- A block that the start cannot do without. -/
inductive Item where
  | info
  | memoryMap
  | rootTable
  | stack (pages : Word)
deriving DecidableEq, Repr

namespace Item

/-- The number of bytes that the start uses of the block. -/
def size : Item → Word
  | info => infoLayout.size
  | memoryMap => mapLayout.size
  | rootTable => page.bytes
  | stack pages => pages * page.bytes

/-- Asks the arena for the block. -/
def request (a : Arena) : Item → Arena.Effect Outcome
  | info => a.alloc infoLayout
  | memoryMap => a.alloc mapLayout
  | rootTable => a.allocPages 1 page.bytes
  | stack pages => a.allocPages pages page.bytes

/-- What is said when the arena refuses the block. -/
def refusalMessage (status : Status) : Item → Message
  | info => ["boot info allocation failed: ", status.name]
  | memoryMap => ["memory map allocation failed: ", status.name]
  | rootTable => ["root page table allocation failed: ", status.name]
  | stack pages => ["boot stack of ", .decimal pages, " pages failed: ", status.name]

end Item

end EarlyMemory.Boot
