import EarlyMemory.Proofs.Alignment
import EarlyMemory.Proofs.Arena.PageAlignment
import EarlyMemory.Proofs.Arena.Refusal

/-!
# Invalid page requests

The alignment of a page request is tested in two stages: it is a whole number of pages, and that
number is a power of two. As a page is a power of two itself, the powers of two from a page on pass
and nothing else does (`PageSize.isAlignment_toNat_iff_bytes_le`).

Whether a page request is invalid depends on this test and on the count alone, not on the gap
(`Arena.admitPages_eq_invalidParam_iff`). So an arena refuses a request for pages as invalid exactly
if it asks for none, or for an alignment that is no power of two or less than a page
(`Arena.refused_invalidParam_iff`).
-/

namespace EarlyMemory

/-- The alignments of pages are the powers of two that are no smaller than a page. -/
lemma PageSize.isAlignment_toNat_iff_bytes_le (p : PageSize) (align : Word) :
    p.IsAlignment align.toNat ↔ align.isPowerOfTwo = true ∧ p.bytes ≤ align := by
  rw [Word.isPowerOfTwo_iff, UInt64.le_iff_toNat_le]
  constructor
  · intro halign
    have hdvd : p.bytes.toNat ∣ align.toNat := ((p.isAlignment_iff _).1 halign).1
    exact ⟨p.isPowerOfTwo_of_isAlignment halign, Nat.le_of_dvd (p.pos_of_isAlignment halign) hdvd⟩
  · rintro ⟨⟨j, hj⟩, hle⟩
    obtain ⟨i, -, hi⟩ := Word.exists_toNat_eq_two_pow p.isPowerOfTwo_bytes
    rw [hi, hj] at hle
    have hexp : i ≤ j := (Nat.pow_le_pow_iff_right one_lt_two).1 hle
    -- the alignment in pages is the power to what is left of the exponent
    exact ⟨j - i, by rw [hi, hj, ← Nat.pow_add, Nat.add_sub_cancel' hexp]⟩

/-- Half a page is a power of two, and three pages are whole pages: neither is an alignment. -/
example : ¬ PageSize.fourKib.IsAlignment 2048 ∧ ¬ PageSize.fourKib.IsAlignment 12288 := by decide

namespace Arena

variable (a : Arena)

/-- Whether a page request is invalid is told by its count and its alignment alone. -/
lemma admitPages_eq_invalidParam_iff (count align : Word) :
    a.admitPages count align = .error .invalidParam ↔
      count = 0 ∨ ¬ a.page.IsAlignment align.toNat := by
  have hzero : count = 0 ↔ count.toNat = 0 := UInt64.toNat_inj.symm
  have hinvalid : count = 0 ∨ ¬ a.page.IsAlignment align.toNat ↔
      ¬ (a.page.IsAlignment align.toNat ∧ count.toNat ≠ 0) := by
    rw [not_and_or, not_ne_iff, or_comm, hzero]
  rw [admitPages_eq, hinvalid]
  split
  · next hvalid =>
    -- a valid request is admitted, or refused for want of room
    refine iff_of_false ?_ (not_not_intro hvalid)
    split
    · simp
    · split <;> simp
  · next h => exact iff_of_true rfl h

/-- The bit test passes the powers `2 ^ 0` to `2 ^ 63` and no other word. So the test of an
alignment in two stages, by a remainder and by a quotient, passes the powers of two that are no
smaller than a page and no other word. This test decides which page requests are refused as invalid,
but for those that ask for no pages. -/
theorem refused_invalidParam_iff (v count align : Word) :
    let passes := align % a.page.bytes = 0 ∧ (align / a.page.bytes).isPowerOfTwo = true
    (v.isPowerOfTwo = true ↔ ∃ k < 64, v.toNat = 2 ^ k) ∧
      (passes ↔ (∃ k < 64, align.toNat = 2 ^ k) ∧ a.page.bytes ≤ align) ∧
      ((a.perform (.allocPages count align)).answer = .outcome (.refused .invalidParam) ↔
        count = 0 ∨ ¬ passes) := by
  intro passes
  have hpasses : passes ↔ a.page.IsAlignment align.toNat :=
    (a.page.isAlignment_toNat_iff align).symm
  refine ⟨v.isPowerOfTwo_iff_exists, ?_, ?_⟩
  · rw [hpasses, a.page.isAlignment_toNat_iff_bytes_le, align.isPowerOfTwo_iff_exists]
  · have hanswer : (a.perform (.allocPages count align)).answer =
        .outcome (a.allocPages count align).answer := rfl
    rw [hanswer, Answer.outcome.injEq, answer_allocPages_eq_refused_iff (by decide),
      admitPages_eq_invalidParam_iff, hpasses]

end Arena

end EarlyMemory
