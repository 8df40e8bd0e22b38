import EarlyMemory.Proofs.Rounding

/-!
# Alignments that round

The masks answer for every alignment, but only for some is the answer a rounding. `Word.Rounds` says
what that is at one position: down to the greatest multiple, and up to the least one unless it is no
word. The alignments that round at every position are the powers `2 ^ 0` to `2 ^ 63` and no others
(`Word.forall_rounds_iff_two_pow`).

The mask of a power of two keeps the remainder, and rounding up then steps to the least multiple or
off the top of the words onto zero (`Word.toNat_alignUp_eq_ite`). In the other direction it is
enough that an alignment is found to be a multiple of itself: for a word other than zero this is the
test for powers of two (`Word.isPowerOfTwo_iff_isAligned_self`).
-/

namespace EarlyMemory.Word

/-! ## The test for powers of two -/

/-- The powers of two among the words are `2 ^ 0` to `2 ^ 63`. -/
theorem isPowerOfTwo_iff_exists (v : Word) :
    v.isPowerOfTwo = true ↔ ∃ k < 64, v.toNat = 2 ^ k := by
  constructor
  · exact exists_toNat_eq_two_pow
  · rintro ⟨k, -, hk⟩
    exact (isPowerOfTwo_iff v).2 ⟨k, hk⟩

/-- The test asks of a word other than zero whether it is aligned to itself. -/
lemma isPowerOfTwo_iff_isAligned_self (v : Word) :
    v.isPowerOfTwo = true ↔ v ≠ 0 ∧ v.isAligned v = true := by
  rw [isPowerOfTwo, Bool.and_eq_true, bne_iff_ne, isAligned]

/-! ## Rounding at a position -/

/-- The masks of an alignment round at a position. The multiples are those in the natural numbers,
with no bound on their size; a step by one of them wraps. -/
structure Rounds (align pos : Word) : Prop where
  isGreatest_alignDown :
    IsGreatest {m | align.toNat ∣ m ∧ m ≤ pos.toNat} (pos.alignDown align).toNat
  /-- The least multiple may be `2 ^ 64`, which is no word: then the answer is zero. -/
  exists_isLeast_alignUp :
    ∃ m, IsLeast {m | align.toNat ∣ m ∧ pos.toNat ≤ m} m ∧
      (pos.alignUp align).toNat = if m < 2 ^ 64 then m else 0
  isAligned_iff_dvd : pos.isAligned align = true ↔ align.toNat ∣ pos.toNat
  isAligned_iff_alignDown_eq : pos.isAligned align = true ↔ pos.alignDown align = pos
  isAligned_iff_alignUp_eq : pos.isAligned align = true ↔ pos.alignUp align = pos
  alignDown_alignDown : (pos.alignDown align).alignDown align = pos.alignDown align
  alignUp_alignUp : (pos.alignUp align).alignUp align = pos.alignUp align
  alignDown_add : ∀ d : ℕ, align.toNat ∣ d →
    (pos + .ofNat d).alignDown align = pos.alignDown align + .ofNat d
  alignUp_add : ∀ d : ℕ, align.toNat ∣ d →
    (pos + .ofNat d).alignUp align = pos.alignUp align + .ofNat d

/-- What is rounded up is aligned, also after a wrap. -/
lemma isAligned_alignUp (pos align : Word) : (pos.alignUp align).isAligned align = true := by
  rw [alignUp_eq_alignDown]
  exact isAligned_alignDown _ align

section

variable {align : Word} (h : align.isPowerOfTwo = true)

include h

/-- The positions that are aligned to a power of two are its multiples. -/
lemma isAligned_iff_dvd (pos : Word) : pos.isAligned align = true ↔ align.toNat ∣ pos.toNat := by
  have hzero : (0 : Word).toNat = 0 := rfl
  rw [isAligned, beq_iff_eq, ← UInt64.toNat_inj, toNat_and_mask pos h, hzero,
    Nat.dvd_iff_mod_eq_zero]

/-- Rounding up takes the least multiple if it is a word, and otherwise wraps to zero. -/
lemma toNat_alignUp_eq_ite (pos : Word) :
    (pos.alignUp align).toNat =
      if roundUp pos.toNat align.toNat < 2 ^ 64 then roundUp pos.toNat align.toNat else 0 := by
  have hle := roundUp_le_two_pow h pos.toNat_lt.le
  rw [toNat_alignUp pos h]
  split
  · next hlt => exact Nat.mod_eq_of_lt hlt
  · next hge =>
    have htop : roundUp pos.toNat align.toNat = 2 ^ 64 := le_antisymm hle (Nat.le_of_not_lt hge)
    rw [htop, Nat.mod_self]

/-- The positions that rounding up leaves alone are the aligned ones. -/
lemma alignUp_eq_self_iff (pos : Word) : pos.alignUp align = pos ↔ pos.isAligned align = true := by
  constructor
  · intro hpos
    rw [← hpos]
    exact isAligned_alignUp pos align
  · intro haligned
    exact alignUp_eq_self h ((isAligned_iff_dvd h pos).1 haligned)

/-- A multiple stays one when it is reduced to a word. -/
lemma dvd_toNat_ofNat {d : ℕ} (hd : align.toNat ∣ d) : align.toNat ∣ (UInt64.ofNat d).toNat := by
  rw [UInt64.toNat_ofNat', Nat.dvd_mod_iff (dvd_two_pow_of_isPowerOfTwo h)]
  exact hd

/-- The masks of a power of two round at every position. -/
theorem rounds_of_isPowerOfTwo (pos : Word) : align.Rounds pos where
  isGreatest_alignDown := by
    rw [toNat_alignDown pos h]
    exact isGreatest_mul_div pos.toNat (toNat_pos_of_isPowerOfTwo h)
  exists_isLeast_alignUp :=
    ⟨_, isLeast_roundUp pos.toNat (toNat_pos_of_isPowerOfTwo h), toNat_alignUp_eq_ite h pos⟩
  isAligned_iff_dvd := isAligned_iff_dvd h pos
  isAligned_iff_alignDown_eq := (alignDown_eq_self_iff pos align).symm
  isAligned_iff_alignUp_eq := (alignUp_eq_self_iff h pos).symm
  alignDown_alignDown := alignDown_alignDown pos align
  alignUp_alignUp := (alignUp_eq_self_iff h _).2 (isAligned_alignUp pos align)
  alignDown_add := fun _ hd => alignDown_add pos h (dvd_toNat_ofNat h hd)
  alignUp_add := fun _ hd => alignUp_add pos h (dvd_toNat_ofNat h hd)

end

/-- The masks of an alignment round at every position exactly if it is a power of two: down to the
greatest multiple and up to the least one, or to zero if that is no word; the aligned positions are
the multiples, which both roundings leave alone; rounding twice is rounding once; and a step by a
multiple goes through either rounding, modulo `2 ^ 64`. -/
theorem forall_rounds_iff_two_pow (align : Word) :
    (∀ pos, align.Rounds pos) ↔ ∃ k < 64, align.toNat = 2 ^ k := by
  rw [← isPowerOfTwo_iff_exists]
  constructor
  · intro hrounds
    rw [isPowerOfTwo_iff_isAligned_self]
    refine ⟨?_, (hrounds align).isAligned_iff_dvd.2 dvd_rfl⟩
    rintro rfl
    -- the only multiple of zero does not come up to the position one
    obtain ⟨m, ⟨⟨hdvd, hle⟩, -⟩, -⟩ := (hrounds 1).exists_isLeast_alignUp
    have hzero : m = 0 := Nat.eq_zero_of_zero_dvd hdvd
    have hone : (1 : Word).toNat = 1 := rfl
    omega
  · exact rounds_of_isPowerOfTwo

/-- Six is no power of two: its masks take seven down to two. -/
example : (7 : Word).alignDown 6 = 2 := by decide

end EarlyMemory.Word
