import EarlyMemory.Arena.Config
import EarlyMemory.PageSize
import EarlyMemory.Layout
import EarlyMemory.Region
import EarlyMemory.Outcome

/-!
# Arenas

An arena serves two clients out of one region. Bytes are taken from the low end, pages from the
high end, and nothing is ever given back:

    start        byteCursor        pageCursor        stop
      | bytes used |      gap        |   pages used   |

This module holds the state, what can be read off it, and the two decisions: how much of the gap
a request takes, or why it is refused. All differences wrap, so they measure a region also when it
reaches over the top of the address space.
-/

namespace EarlyMemory

/-- The state of an arena. Before it is given a region, all four addresses are zero. -/
structure Arena where
  page : PageSize
  config : Arena.Config := {}
  start : Word := 0
  stop : Word := 0
  byteCursor : Word := 0
  pageCursor : Word := 0
deriving DecidableEq

/-- How much of a kind of memory there is in all, is taken, and is left. -/
structure Usage where
  total : Word
  used : Word
  available : Word
deriving DecidableEq, Repr

namespace Arena

/-! ## What can be read off an arena -/

/-- The number of bytes between the cursors. -/
def gap (a : Arena) : Word := a.pageCursor - a.byteCursor

/-- Bytes taken, and bytes that could be had without the pages taken. -/
def bytes (a : Arena) : Usage where
  total := a.pageCursor - a.start
  used := a.byteCursor - a.start
  available := (a.pageCursor - a.start) - (a.byteCursor - a.start)

/-- Pages taken, and pages that could be had beside the bytes taken. -/
def pages (a : Arena) : Usage where
  total := (a.stop - a.byteCursor) / a.page.bytes
  used := (a.stop - a.pageCursor) / a.page.bytes
  available := (a.stop - a.byteCursor) / a.page.bytes - (a.stop - a.pageCursor) / a.page.bytes

/-- What nobody has taken: the region to hand over in the end. -/
def unusedRegion (a : Arena) : Region := .between a.byteCursor a.pageCursor

/-- Whether an address lies from the start up to the stop, the latter left out. -/
def contains (a : Arena) (addr : Word) : Bool := a.start ≤ addr && addr < a.stop

/-- The bytes that can still be had are those of the gap. -/
theorem available_bytes (a : Arena) : a.bytes.available = a.gap := by
  unfold bytes gap
  grind

theorem size_unusedRegion (a : Arena) : a.unusedRegion.size = a.gap := rfl

theorem stop_unusedRegion (a : Arena) : a.unusedRegion.stop = a.pageCursor :=
  Region.stop_between _ _

/-! ## Decisions -/

/-- The bytes that a byte request takes. A request is padded to its own alignment; the cursor is
not aligned. -/
def admitBytes (a : Arena) (l : Layout) : Except Status Word :=
  match Layout.of? l.size l.align with
  | none => .error .invalidParam
  | some l => if a.gap < l.paddedSize then .error .noMemory else .ok l.paddedSize

/-- The number of pages that a page request takes: the count rounded up to a multiple of the
alignment in pages. Both the count asked for and the rounded one must fit the gap. -/
def admitPages (a : Arena) (count align : Word) : Except Status Word :=
  let alignPages := align / a.page.bytes
  let room := a.gap / a.page.bytes
  if align % a.page.bytes != 0 || !alignPages.isPowerOfTwo || count == 0 then
    .error .invalidParam
  else if room < count then
    .error .noMemory
  else
    let excess := count % alignPages
    let rounded := if excess = 0 then count else count + (alignPages - excess)
    if room < rounded then .error .noMemory else .ok rounded

/-! ## Moving the cursors -/

/-- Bytes are granted at the byte cursor, which moves up past them. -/
def takeBytes (a : Arena) (taken : Word) : Arena := { a with byteCursor := a.byteCursor + taken }

/-- Pages are granted below the page cursor, which moves down to them. -/
def takePages (a : Arena) (count : Word) : Arena :=
  { a with pageCursor := a.pageCursor - count * a.page.bytes }

/-- Either move takes from the gap just what it moves by. -/
theorem gap_takeBytes (a : Arena) (taken : Word) : (a.takeBytes taken).gap = a.gap - taken := by
  unfold gap takeBytes
  grind

theorem gap_takePages (a : Arena) (count : Word) :
    (a.takePages count).gap = a.gap - count * a.page.bytes := by
  unfold gap takePages
  grind

/-- The arena over the whole pages around a region, with nothing taken. -/
def around (a : Arena) (r : Region) : Arena :=
  let start := r.start.alignDown a.page.bytes
  let stop := r.stop.alignUp a.page.bytes
  { a with start, stop, byteCursor := start, pageCursor := stop }

end Arena

end EarlyMemory
