import EarlyMemory.Proofs.Arena.Interleaving
import EarlyMemory.Proofs.Arena.Ledger

/-!
# The counters of an arena and its decisions

An arena counts bytes from the start and pages from the stop, with wrapping differences and with
quotients that drop remainders. In every arena that is in order the counters fit together all the
same (`Ordered.balanced`), because a ledger describes it (`Ledger.describes_ofArena`) and because
the taken pages are whole pages: neither subtraction borrows, and the two quotients lose the same.

Whether a request is granted is decided on the gap, not on the counters. For single bytes and for
single pages the decision is that of the counter (`isOk_alloc_bytes_iff`,
`isOk_allocPages_pages_iff`), so every history leaves an arena that grants just what it says is
available (`counters_of_history`).
-/

namespace EarlyMemory

/-! ## The ledger of an arena in order -/

/-- The ledger that says of an arena what the arena is. -/
def Ledger.ofArena (a : Arena) : Ledger where
  page := a.page
  base := a.start.toNat
  capacity := a.offset a.stop
  low := a.offset a.byteCursor
  high := a.offset a.stop - a.offset a.pageCursor

lemma Ledger.describes_ofArena {a : Arena} (h : a.Ordered) : (ofArena a).Describes a where
  ordered := h
  page_eq := rfl
  start_eq := rfl
  stop_eq := rfl
  byteCursor_eq := rfl
  pageCursor_eq := by
    have hle := h.pageCursor_le
    show a.offset a.pageCursor + (a.offset a.stop - a.offset a.pageCursor) = a.offset a.stop
    omega

namespace Arena

/-- The taken pages are whole pages. -/
lemma Ordered.dvd_high {a : Arena} (h : a.Ordered) :
    (Ledger.ofArena a).page.bytes.toNat ∣ (Ledger.ofArena a).high := by
  have hdistance := Word.dvd_toNat_sub a.page.dvd_two_pow h.dvd_stop h.dvd_pageCursor
  rwa [a.toNat_sub_of_offset_le h.pageCursor_le] at hdistance

/-! ## Counters -/

/-- The counters agree with each other, with the cursors and with the bounds, as natural numbers. -/
structure Balanced (a : Arena) : Prop where
  size_unusedRegion : a.bytes.available = a.unusedRegion.size
  stop_unusedRegion : a.unusedRegion.stop = a.pageCursor
  bytes_add : a.bytes.used.toNat + a.bytes.available.toNat = a.bytes.total.toNat
  pages_add : a.pages.used.toNat + a.pages.available.toNat = a.pages.total.toNat
  pages_available : a.pages.available.toNat = a.bytes.available.toNat / a.page.bytes.toNat
  extent : a.bytes.total.toNat + a.pages.used.toNat * a.page.bytes.toNat = (a.stop - a.start).toNat

lemma Ordered.balanced {a : Arena} (h : a.Ordered) : a.Balanced := by
  have hcounts := (Ledger.describes_ofArena h).counts
  have htaken := hcounts.taken_le
  have hhigh := h.dvd_high
  set g := Ledger.ofArena a
  -- what is not taken by bytes is the gap and the taken pages, and the latter divide evenly
  have hquotient : (g.capacity - g.low) / g.page.bytes.toNat =
      (g.capacity - g.high - g.low) / g.page.bytes.toNat + g.high / g.page.bytes.toNat := by
    rw [← Nat.add_div_of_dvd_left hhigh]
    congr 1
    omega
  refine
    { size_unusedRegion := a.available_bytes
      stop_unusedRegion := a.stop_unusedRegion
      bytes_add := ?_
      pages_add := ?_
      pages_available := ?_
      extent := ?_ }
  · rw [hcounts.bytes_used, hcounts.bytes_available, hcounts.bytes_total]
    omega
  · rw [hcounts.pages_used, hcounts.pages_available, hcounts.pages_total, hquotient,
      Nat.add_sub_cancel, Nat.add_comm]
  · rw [hcounts.pages_available, hcounts.bytes_available, hquotient, Nat.add_sub_cancel]
    rfl
  · rw [hcounts.bytes_total, hcounts.pages_used]
    show g.capacity - g.high + g.high / g.page.bytes.toNat * g.page.bytes.toNat = g.capacity
    rw [Nat.div_mul_cancel hhigh]
    omega

/-! ## Decisions -/

/-- Bytes on no boundary are granted as long as the gap has them. -/
lemma isOk_alloc_bytes_iff (a : Arena) (n : Word) :
    (a.alloc { size := n, align := 1 }).answer.isOk = true ↔ n.toNat ≤ a.gap.toNat := by
  have hneed : roundUp n.toNat 1 = n.toNat := roundUp_eq_self one_pos (one_dvd _)
  have hvalid : (Call.alloc { size := n, align := 1 }).Valid a.page :=
    ⟨⟨0, rfl⟩, hneed.trans_lt n.toNat_lt⟩
  constructor
  · intro h
    obtain ⟨-, hroom⟩ := le_gap_of_isGranted_alloc h
    exact hneed.symm.trans_le hroom
  · intro h
    exact congrArg Answer.isGranted (perform_alloc_of_le hvalid (hneed.trans_le h)).1

/-- Pages on page boundaries are granted as long as the gap has them. -/
lemma isOk_allocPages_pages_iff (a : Arena) (n : Word) :
    (a.allocPages n a.page.bytes).answer.isOk = true ↔
      1 ≤ n.toNat ∧ n.toNat ≤ a.gap.toNat / a.page.bytes.toNat := by
  have hpos := a.page.toNat_bytes_pos
  have halign : a.page.IsAlignment a.page.bytes.toNat := ⟨0, (Nat.mul_one _).symm⟩
  rw [Nat.le_div_iff_mul_le hpos]
  constructor
  · intro h
    obtain ⟨taken, hadmitted⟩ := exists_admitPages_of_isOk h
    obtain ⟨⟨-, hne⟩, hroom, -⟩ := of_admitPages_eq_ok hadmitted
    exact ⟨Nat.pos_of_ne_zero hne, hroom⟩
  · rintro ⟨hone, hroom⟩
    -- a count of single pages is not rounded, so the second test is the first once more
    have hrounded : roundUp n.toNat (a.page.bytes.toNat / a.page.bytes.toNat) % 2 ^ 64 =
        n.toNat := by
      rw [Nat.div_self hpos, roundUp_eq_self one_pos (one_dvd _), Nat.mod_eq_of_lt n.toNat_lt]
    have hadmitted := a.admitPages_eq n a.page.bytes
    rw [hrounded, if_pos ⟨halign, Nat.ne_of_gt hone⟩, if_neg (Nat.not_lt.2 hroom),
      if_neg (Nat.not_lt.2 hroom)] at hadmitted
    rw [(allocPages_of_admitPages_eq_ok hadmitted).1, Outcome.isOk_granted]

/-! ## Histories -/

/-- After every history of an arena its counters fit together, and they say exactly how many single
bytes and how many single pages it still grants. -/
theorem counters_of_history (page : PageSize) (config : Config) (calls : List Call) :
    let a := ({ page, config } : Arena).performAll calls
    a.page = page ∧ a.Balanced ∧
      (∀ n, (a.alloc { size := n, align := 1 }).answer.isOk = true ↔
        n.toNat ≤ a.bytes.available.toNat) ∧
      (∀ n, (a.allocPages n page.bytes).answer.isOk = true ↔
        1 ≤ n.toNat ∧ n.toNat ≤ a.pages.available.toNat) := by
  intro a
  have hpage : a.page = page := page_performAll _ calls
  have hordered : a.Ordered := (ordered_unopened page config).performAll calls
  have hbalanced := hordered.balanced
  refine ⟨hpage, hbalanced, fun n => ?_, fun n => ?_⟩
  · rw [a.available_bytes]
    exact a.isOk_alloc_bytes_iff n
  · rw [hbalanced.pages_available, a.available_bytes, ← hpage]
    exact a.isOk_allocPages_pages_iff n

end Arena

end EarlyMemory
