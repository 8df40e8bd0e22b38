/-!
# Words and their alignment

Addresses and sizes are 64-bit words whose arithmetic wraps. An alignment is a word as well;
rounding to it is done with the mask `a - 1`, which is rounding to a multiple exactly when the
alignment is a power of two. The operations take every word as an alignment and answer what the
mask gives: callers that cannot promise a power of two ask `Word.isPowerOfTwo` first.

Whatever the alignment is, rounding down splits a position into two disjoint parts
(`toNat_alignDown_add`), and leaves alone the aligned positions and no others
(`alignDown_eq_self_iff`).
-/

namespace EarlyMemory

/-- An address or a size: 64 bits, with arithmetic modulo `2 ^ 64`. -/
abbrev Word := UInt64

namespace Word

/-- The greatest word, `2 ^ 64 - 1`. -/
def greatest : Word := 0xFFFFFFFFFFFFFFFF

/-! ## Powers of two -/

/-- A word is a power of two when it is not zero and clearing its lowest set bit leaves zero. -/
def isPowerOfTwo (v : Word) : Bool := v != 0 && v &&& (v - 1) == 0

/-! ## Rounding -/

/-- Clears the bits below the alignment. -/
def alignDown (pos align : Word) : Word := pos &&& ~~~(align - 1)

/-- Steps over the bits below the alignment and clears them; the step may wrap to zero. -/
def alignUp (pos align : Word) : Word := (pos + align - 1) &&& ~~~(align - 1)

/-- A position is aligned when all bits below the alignment are clear. -/
def isAligned (pos align : Word) : Bool := pos &&& (align - 1) == 0

/-- Stepping over the bits below the alignment and then rounding down is rounding up. -/
theorem alignUp_eq_alignDown (pos align : Word) :
    pos.alignUp align = (pos + align - 1).alignDown align := rfl

/-! ## Laws for every alignment -/

/-- Rounding down splits a position into the bits that it keeps and those that it clears. -/
theorem toNat_alignDown_add (pos align : Word) :
    (pos.alignDown align).toNat + (pos &&& (align - 1)).toNat = pos.toNat := by
  let p := pos.toBitVec
  let m := (align - 1).toBitVec
  have hdisjoint : (p &&& ~~~m) &&& (p &&& m) = 0 := by
    ext i
    simp only [BitVec.getElem_and, BitVec.getElem_not]
    cases p[i] <;> cases m[i] <;> simp
  have hjoin : (p &&& ~~~m) ||| (p &&& m) = p := by
    ext i
    simp only [BitVec.getElem_or, BitVec.getElem_and, BitVec.getElem_not]
    cases p[i] <;> cases m[i] <;> rfl
  have hsum := BitVec.toNat_add_of_and_eq_zero hdisjoint
  rw [BitVec.add_eq_or_of_and_eq_zero _ _ hdisjoint, hjoin] at hsum
  exact hsum.symm

/-- The positions that rounding leaves alone are the aligned ones. -/
theorem alignDown_eq_self_iff (pos align : Word) :
    pos.alignDown align = pos ↔ pos.isAligned align = true := by
  have hsplit := toNat_alignDown_add pos align
  have hzero : (0 : Word).toNat = 0 := rfl
  simp only [isAligned, beq_iff_eq, ← UInt64.toNat_inj]
  omega

/-- Rounding a rounded position changes nothing. -/
theorem alignDown_alignDown (pos align : Word) :
    (pos.alignDown align).alignDown align = pos.alignDown align := by
  simp only [alignDown, UInt64.and_assoc, UInt64.and_self]

/-- A rounded position is aligned. -/
theorem isAligned_alignDown (pos align : Word) :
    (pos.alignDown align).isAligned align = true :=
  (alignDown_eq_self_iff _ _).1 (alignDown_alignDown pos align)

end Word

end EarlyMemory
