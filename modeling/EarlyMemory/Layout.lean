import EarlyMemory.Alignment

/-!
# Layouts

A layout is the size and the alignment that a byte request asks for. `Layout.of?` admits the
layouts whose padded size is a size at all: the alignment is a power of two, and rounding the size
up to it does not leave the words. Layouts of stored values follow the usual convention: a scalar
is aligned to its own size, the fields of a record follow each other at their own alignments, and
a record ends on the greatest of them.
-/

namespace EarlyMemory

/-- A size with an alignment. The empty layout needs no bytes and may stand anywhere. -/
structure Layout where
  size : Word := 0
  align : Word := 1
deriving DecidableEq, Repr

namespace Layout

/-- The size rounded up to the alignment: what a grant takes, so that the next grant starts on the
same alignment. -/
def paddedSize (l : Layout) : Word := l.size.alignUp l.align

/-- The layout of a size and an alignment that a caller asks for; `none` if the alignment is no
power of two or the padding would wrap. -/
def of? (size align : Word) : Option Layout :=
  if align.isPowerOfTwo && size ≤ Word.greatest - (align - 1) then some { size, align } else none

/-- Asks for a layout in place of a prior one: whether it is accepted, and what is in place then.
Two tests come one after the other, and where one fails the prior layout stays. -/
def makeInto (size align : Word) (prior : Layout) : Bool × Layout :=
  if !align.isPowerOfTwo then (false, prior)
  else if size > Word.greatest - (align - 1) then (false, prior)
  else (true, { size, align })

/-- An accepted layout is the one asked for. -/
theorem of?_eq_some_iff (size align : Word) (l : Layout) :
    of? size align = some l ↔
      (align.isPowerOfTwo = true ∧ size ≤ Word.greatest - (align - 1)) ∧ { size, align } = l := by
  simp [of?]

/-! ## Layouts of stored values -/

/-- A number of `bytes` bytes, aligned to its size. -/
def scalar (bytes : Word) : Layout := { size := bytes, align := bytes }

/-- A record's layout after its next field: the field starts on its own alignment. -/
def extend (record field : Layout) : Layout where
  size := record.size.alignUp field.align + field.size
  align := max record.align field.align

/-- The fields in order, each on its own alignment, padded at the end to the greatest of them. -/
def record (fields : List Layout) : Layout :=
  let l := fields.foldl extend {}
  { l with size := l.paddedSize }

/-- Equal values one after the other. -/
def array (element : Layout) (count : Word) : Layout :=
  { element with size := element.size * count }

/-- A machine word beside two half words. -/
example : record [scalar 8, scalar 4, scalar 4] = { size := 16, align := 8 } := by decide

end Layout

end EarlyMemory
