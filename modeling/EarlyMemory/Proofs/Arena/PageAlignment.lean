import Mathlib.Data.Nat.ModEq
import Mathlib.Data.UInt
import EarlyMemory.Proofs.Arena.History

/-!
# The alignment of page blocks

The count of a page request is rounded up to its alignment and taken off the page cursor; the
cursor itself is never aligned. So where a block begins was decided by the upper bound of the
region and by the blocks before it. The page cursor and the lengths of the blocks above it always
add up to the upper bound, as words (`pageCursor_add_pageBytes`), and every alignment divides the
number of words, so a block is on its boundary exactly when the bytes above it leave the same
remainder as the bound (`align_dvd_page_block_iff`).

A region that ends on the alignment, with only blocks of that alignment above, is enough
(`dvd_pageCursor_of_forall_dvd_align`). A region that ends on a page alone is not: there even the
first block may be off its boundary (`not_align_dvd_first_page_block`).
-/

namespace EarlyMemory

/-! ## Alignments of pages are powers of two -/

/-- Pages times a power of two are a power of two, as a page is. -/
lemma PageSize.isPowerOfTwo_of_isAlignment (p : PageSize) {align : ℕ} (h : p.IsAlignment align) :
    align.isPowerOfTwo := by
  obtain ⟨k, rfl⟩ := h
  obtain ⟨j, -, hj⟩ := Word.exists_toNat_eq_two_pow p.isPowerOfTwo_bytes
  exact ⟨j + k, by rw [hj, Nat.pow_add]⟩

/-- Addresses wrap at a multiple of every alignment of pages. -/
lemma PageSize.dvd_two_pow_of_isAlignment (p : PageSize) {align : Word}
    (h : p.IsAlignment align.toNat) : align.toNat ∣ 2 ^ 64 :=
  Word.dvd_two_pow_of_isPowerOfTwo
    ((Word.isPowerOfTwo_iff align).2 (p.isPowerOfTwo_of_isAlignment h))

/-- A grant of pages is where the page cursor is afterwards. -/
lemma Arena.exists_admitPages_of_granted {a : Arena} {count align addr : Word}
    (h : (a.perform (.allocPages count align)).answer = .outcome (.granted addr)) :
    ∃ taken, a.admitPages count align = .ok taken ∧ (a.takePages taken).pageCursor = addr := by
  have hanswer : (a.allocPages count align).answer = .granted addr := Answer.outcome.inj h
  obtain ⟨taken, hadmitted⟩ := exists_admitPages_of_isOk (by rw [hanswer]; rfl)
  rw [(allocPages_of_admitPages_eq_ok hadmitted).1] at hanswer
  exact ⟨taken, hadmitted, congrArg Outcome.addr hanswer⟩

namespace History

/-! ## The bytes above the page cursor -/

/-- The bytes of the page blocks granted since the last opening. -/
def pageBytes (h : History) : ℕ := ((h.grantsOf .pages).map Grant.length).sum

/-- A block of bytes is no page block, and of the others each adds its length. -/
lemma pageBytes_append_toList (h : History) (a : Arena) (g : Option Grant) :
    pageBytes { arena := a, grants := h.grants ++ g.toList } =
      h.pageBytes + ((g.toList.filter (·.client = .pages)).map Grant.length).sum := by
  simp only [pageBytes, grantsOf, List.filter_append, List.map_append, List.sum_append]

/-- A region opens with the page cursor at its upper bound. -/
lemma pageCursor_add_pageBytes_around (a : Arena) (r : Region) :
    (a.around r).pageCursor + .ofNat (pageBytes { arena := a.around r }) = (a.around r).stop :=
  UInt64.add_zero _

/-- Every step keeps the sum of the page cursor and the page blocks. -/
lemma pageCursor_add_pageBytes_step {h : History} {a' : Arena} {c : Arena.Call} {g : Option Grant}
    (hc : ∀ r, c ≠ .init r) (hstep : h.arena.Step c g a')
    (hsum : h.arena.pageCursor + .ofNat h.pageBytes = h.arena.stop) :
    a'.pageCursor + .ofNat (pageBytes { arena := a', grants := h.grants ++ g.toList }) =
      a'.stop := by
  rw [pageBytes_append_toList]
  cases hstep with
  | opened r => exact absurd rfl (hc r)
  | bytes l taken hadmitted => exact hsum
  | pages count align taken hadmitted =>
    have htaken := Arena.mul_eq_ofNat_of_admitPages_eq_ok hadmitted
    have hlength : (((some (Grant.ofPages h.arena.page count align
        (h.arena.takePages taken).pageCursor)).toList.filter
          (·.client = .pages)).map Grant.length).sum =
        roundUp (count.toNat * h.arena.page.bytes.toNat) align.toNat := rfl
    show h.arena.pageCursor - taken * h.arena.page.bytes + _ = h.arena.stop
    rw [hlength, UInt64.ofNat_add, ← htaken, sub_add_add_cancel]
    exact hsum
  | configured config => exact hsum
  | kept c hc => exact hsum

/-- After every run from an opening, the page cursor and the page blocks above it make up the upper
bound. -/
theorem pageCursor_add_pageBytes (a : Arena) (r : Region) (calls : List Arena.Call) :
    ((opened a r).performAll calls).arena.pageCursor +
        .ofNat ((opened a r).performAll calls).pageBytes =
      ((opened a r).performAll calls).arena.stop :=
  performAll_induction
    (motive := fun h => h.arena.pageCursor + .ofNat h.pageBytes = h.arena.stop)
    (fun r _ => pageCursor_add_pageBytes_around _ r)
    (fun hc hstep hsum => pageCursor_add_pageBytes_step hc hstep hsum)
    (pageCursor_add_pageBytes_around a r) calls

/-! ## The remainder of the page cursor -/

variable (a : Arena) (r : Region) (calls : List Arena.Call) {align : ℕ}

/-- The page cursor is on a boundary exactly when the bytes above it leave the same remainder as the
upper bound. -/
lemma dvd_pageCursor_iff (halign : align ∣ 2 ^ 64) :
    align ∣ ((opened a r).performAll calls).arena.pageCursor.toNat ↔
      ((opened a r).performAll calls).arena.stop.toNat ≡
        ((opened a r).performAll calls).pageBytes [MOD align] := by
  have hsum := congrArg UInt64.toNat (pageCursor_add_pageBytes a r calls)
  generalize (opened a r).performAll calls = h at hsum ⊢
  rw [UInt64.toNat_add, UInt64.toNat_ofNat', Nat.add_mod_mod] at hsum
  -- the sum may wrap, but only at a multiple of the alignment
  have hmod : h.arena.stop.toNat ≡ h.arena.pageCursor.toNat + h.pageBytes [MOD align] := by
    rw [← hsum]
    exact (Nat.mod_modEq _ _).of_dvd halign
  constructor
  · intro hdvd
    exact hmod.trans (Nat.add_modEq_right_iff.2 hdvd)
  · intro hstop
    exact Nat.add_modEq_right_iff.1 (hmod.symm.trans hstop)

/-- While the region ends on an alignment and all page blocks are padded to it, the page cursor
stays aligned to it. -/
theorem dvd_pageCursor_of_forall_dvd_align (halign : align ∣ 2 ^ 64)
    (hstop : align ∣ ((opened a r).performAll calls).arena.stop.toNat)
    (hblocks : ∀ g ∈ ((opened a r).performAll calls).grantsOf .pages, align ∣ g.align) :
    align ∣ ((opened a r).performAll calls).arena.pageCursor.toNat := by
  rw [dvd_pageCursor_iff a r calls halign]
  have hbytes : align ∣ ((opened a r).performAll calls).pageBytes := Grant.dvd_sum_length hblocks
  exact hstop.modEq_zero_nat.trans hbytes.zero_modEq_nat

/-- A page block begins on the boundary that it asks for exactly if the lengths of the page blocks
granted before it add up to the upper bound of the region, modulo its alignment. -/
theorem align_dvd_page_block_iff {count align addr : Word}
    (hgranted : (((opened a r).performAll calls).arena.perform (.allocPages count align)).answer =
      .outcome (.granted addr)) :
    align.toNat ∣ addr.toNat ↔
      ((opened a r).performAll calls).arena.stop.toNat ≡
        ((opened a r).performAll calls).pageBytes [MOD align.toNat] := by
  obtain ⟨taken, hadmitted, rfl⟩ := Arena.exists_admitPages_of_granted hgranted
  have htaken := Arena.mul_eq_ofNat_of_admitPages_eq_ok hadmitted
  have hword := PageSize.dvd_two_pow_of_isAlignment _ (Arena.of_admitPages_eq_ok hadmitted).1.1
  have hiff := dvd_pageCursor_iff a r calls hword
  generalize (opened a r).performAll calls = h at hadmitted htaken hword hiff ⊢
  rw [← hiff]
  -- the move of the cursor is a multiple of the alignment, so it keeps the remainder
  have hmove : align.toNat ∣ (taken * h.arena.page.bytes).toNat := by
    rw [htaken, UInt64.toNat_ofNat', Nat.dvd_mod_iff hword]
    exact dvd_roundUp _ _
  have hback : h.arena.pageCursor =
      (h.arena.takePages taken).pageCursor + taken * h.arena.page.bytes :=
    (sub_add_cancel _ _).symm
  rw [hback, UInt64.toNat_add, Nat.dvd_mod_iff hword]
  exact (Nat.dvd_add_left hmove).symm

/-- A region that ends off a boundary of two pages, and one page that brings the cursor onto it. -/
theorem align_dvd_page_block_after_one_page :
    let h := (opened { page := .fourKib } { start := 0x100000, size := 0x5000 }).performAll
      [.alloc { size := 3, align := 8 }, .allocPages 1 4096]
    (h.arena.perform (.allocPages 1 8192)).answer = .outcome (.granted 0x102000) ∧
      8192 ∣ (0x102000 : Word).toNat := by
  intro h
  have hgranted : (h.arena.perform (.allocPages 1 8192)).answer =
      .outcome (.granted 0x102000) := by decide
  refine ⟨hgranted, ?_⟩
  exact (align_dvd_page_block_iff { page := .fourKib } _ _ hgranted).2 (by decide)

/-- One page asked for on a boundary of two, in a region of three pages: the block is granted, off
its boundary. -/
theorem not_align_dvd_first_page_block :
    let h := (opened { page := .fourKib } { start := 0x100000, size := 0x3000 }).performAll []
    (h.arena.perform (.allocPages 1 8192)).answer = .outcome (.granted 0x101000) ∧
      ¬ 8192 ∣ (0x101000 : Word).toNat := by
  intro h
  exact ⟨by decide, by decide⟩

end History

end EarlyMemory
