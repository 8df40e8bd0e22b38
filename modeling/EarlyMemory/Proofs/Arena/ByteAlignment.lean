import EarlyMemory.Proofs.Arena.History

/-!
# The alignment of byte blocks

A byte request is padded to its own alignment and granted at the byte cursor as it stands, so where
its block begins was decided by the blocks before it. The start of the region is on a page
boundary, and up to a page the cursor is as aligned as the sum of the lengths granted so far
(`dvd_byteCursor_iff`). Blocks that were all padded to the alignment of a request make way for it
(`dvd_byteCursor_of_forall_dvd_align`); one block with a smaller alignment is enough to spoil it
(`not_align_dvd_granted_after_one_byte`).
-/

namespace EarlyMemory

/-- A power of two up to a page divides every page. -/
lemma PageSize.dvd_bytes_of_le (p : PageSize) {align : ℕ} (halign : align.isPowerOfTwo)
    (hle : align ≤ p.bytes.toNat) : align ∣ p.bytes.toNat :=
  dvd_of_isPowerOfTwo_of_le halign ((Word.isPowerOfTwo_iff p.bytes).1 p.isPowerOfTwo_bytes) hle

/-- A grant of bytes is at the byte cursor, and its alignment is a power of two. -/
lemma Arena.eq_byteCursor_of_granted {a : Arena} {l : Layout} {addr : Word}
    (h : (a.perform (.alloc l)).answer = .outcome (.granted addr)) :
    addr = a.byteCursor ∧ l.align.toNat.isPowerOfTwo := by
  have hanswer : (a.alloc l).answer = .granted addr := Answer.outcome.inj h
  obtain ⟨taken, hadmitted⟩ := exists_admitBytes_of_isOk (by rw [hanswer]; rfl)
  rw [(alloc_of_admitBytes_eq_ok hadmitted).1] at hanswer
  exact ⟨(congrArg Outcome.addr hanswer).symm, (toNat_of_admitBytes_eq_ok hadmitted).2.2⟩

namespace History

variable (a : Arena) (r : Region) (calls : List Arena.Call) {align : ℕ}

/-- Up to a page, the byte cursor is as aligned as the number of bytes granted. -/
lemma dvd_byteCursor_iff (halign : align ∣ a.page.bytes.toNat) :
    align ∣ ((opened a r).performAll calls).arena.byteCursor.toNat ↔
      align ∣ ((((opened a r).performAll calls).grantsOf .bytes).map Grant.length).sum := by
  have hpage := page_opened_performAll a r calls
  have hblocks := bytesAscend_performAll a r calls
  generalize (opened a r).performAll calls = h at hpage hblocks ⊢
  have hstart : align ∣ h.arena.start.toNat :=
    Nat.dvd_trans (by rwa [hpage]) hblocks.ordered.dvd_start
  have hword : align ∣ 2 ^ 64 := Nat.dvd_trans halign a.page.dvd_two_pow
  -- the region may wrap below the cursor, but only by whole multiples of the alignment
  have hsum := hblocks.ascending.eq_add_sum
  rw [Nat.zero_add] at hsum
  rw [Word.toNat_eq_add_mod h.arena.byteCursor h.arena.start, Nat.dvd_mod_iff hword,
    Nat.dvd_add_right hstart, ← hsum]
  rfl

/-- While all byte blocks are padded to an alignment, the byte cursor stays aligned to it. -/
theorem dvd_byteCursor_of_forall_dvd_align (halign : align ∣ a.page.bytes.toNat)
    (hblocks : ∀ g ∈ ((opened a r).performAll calls).grantsOf .bytes, align ∣ g.align) :
    align ∣ ((opened a r).performAll calls).arena.byteCursor.toNat := by
  rw [dvd_byteCursor_iff a r calls halign]
  exact Grant.dvd_sum_length hblocks

/-- A byte block begins on the boundary that it asks for exactly if the lengths of the byte blocks
granted before it add up to a multiple of its alignment. -/
theorem align_dvd_granted_iff {l : Layout} {addr : Word} (halign : l.align ≤ a.page.bytes)
    (hgranted : (((opened a r).performAll calls).arena.perform (.alloc l)).answer =
      .outcome (.granted addr)) :
    l.align.toNat ∣ addr.toNat ↔
      l.align.toNat ∣
        ((((opened a r).performAll calls).grantsOf .bytes).map Grant.length).sum := by
  obtain ⟨rfl, hpow⟩ := Arena.eq_byteCursor_of_granted hgranted
  have hle : l.align.toNat ≤ a.page.bytes.toNat := UInt64.le_iff_toNat_le.1 halign
  exact dvd_byteCursor_iff a r calls (a.page.dvd_bytes_of_le hpow hle)

/-- Eight bytes after three that were padded to eight. -/
theorem align_dvd_granted_after_padding :
    let h := (opened { page := .fourKib } { start := 0x100000, size := 0x4000 }).performAll
      [.alloc { size := 3, align := 8 }, .allocPages 1 4096]
    (8 : Word) ≤ PageSize.fourKib.bytes ∧
      (h.arena.perform (.alloc { size := 8, align := 8 })).answer =
        .outcome (.granted 0x100008) ∧
      8 ∣ (0x100008 : Word).toNat := by
  intro h
  have hgranted : (h.arena.perform (.alloc { size := 8, align := 8 })).answer =
      .outcome (.granted 0x100008) := by decide
  refine ⟨by decide, hgranted, ?_⟩
  exact (align_dvd_granted_iff { page := .fourKib } _ _ (by decide) hgranted).2 (by decide)

/-- Eight bytes after one that was not padded: the block is granted, off its boundary. -/
theorem not_align_dvd_granted_after_one_byte :
    let h := (opened { page := .fourKib } { start := 0x100000, size := 0x4000 }).performAll
      [.alloc { size := 1, align := 1 }]
    (8 : Word) ≤ PageSize.fourKib.bytes ∧
      (h.arena.perform (.alloc { size := 8, align := 8 })).answer =
        .outcome (.granted 0x100001) ∧
      ¬ 8 ∣ (0x100001 : Word).toNat := by
  intro h
  exact ⟨by decide, by decide, by decide⟩

end History

end EarlyMemory
