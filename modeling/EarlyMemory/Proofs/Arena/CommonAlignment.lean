import Mathlib.Data.UInt
import EarlyMemory.Proofs.Arena.ByteAlignment
import EarlyMemory.Proofs.Arena.PageAlignment

/-!
# The alignment that callers can rely on

Neither cursor is ever aligned; each keeps what alignment the region and the blocks before have
left it. So there is one rule for both clients. Where the region begins, or ends, on a boundary, and
no block of the client was padded to less, every block of the client begins on that boundary
(`dvd_granted_of_le_align`). Byte blocks of no bytes do not count, since they move no cursor.

The boundary is any power of two. It may be greater than a page, and wherever the region wraps it
does so on the boundary as well. A boundary beyond the words is met by the address zero alone.
-/

namespace EarlyMemory

/-! ## Powers of two -/

/-- A sum of words that are multiples of a power of two is one, also when it wraps. -/
lemma dvd_add_mod_two_pow {align m n : ℕ} (hpow : align.isPowerOfTwo) (hm : m < 2 ^ 64)
    (hn : n < 2 ^ 64) (hdvd_m : align ∣ m) (hdvd_n : align ∣ n) : align ∣ (m + n) % 2 ^ 64 := by
  rcases Nat.le_total align (2 ^ 64) with hle | hge
  · have hword : align ∣ 2 ^ 64 := dvd_of_isPowerOfTwo_of_le hpow ⟨64, rfl⟩ hle
    exact (Nat.dvd_mod_iff hword).2 (Nat.dvd_add hdvd_m hdvd_n)
  · -- no word but zero is a multiple of so great a number
    rw [Nat.eq_zero_of_dvd_of_lt hdvd_m (by omega), Nat.eq_zero_of_dvd_of_lt hdvd_n (by omega)]
    exact Nat.dvd_zero _

namespace History

/-! ## Alignments that were asked for -/

/-- The alignment of a granted block is a power of two. -/
lemma isPowerOfTwo_align_of_step {a a' : Arena} {c : Arena.Call} {g : Grant}
    (hstep : a.Step c (some g) a') : g.align.isPowerOfTwo := by
  cases hstep with
  | bytes l taken hadmitted => exact (Arena.toNat_of_admitBytes_eq_ok hadmitted).2.2
  | pages count align taken hadmitted =>
    exact a.page.isPowerOfTwo_of_isAlignment (Arena.of_admitPages_eq_ok hadmitted).1.1

/-- After every run from an opening, the alignments of the blocks are powers of two. -/
lemma isPowerOfTwo_align_performAll (a : Arena) (r : Region) (calls : List Arena.Call) :
    ∀ g ∈ ((opened a r).performAll calls).grants, g.align.isPowerOfTwo := by
  refine performAll_induction (motive := fun h => ∀ g ∈ h.grants, g.align.isPowerOfTwo)
    (fun r _ g hg => absurd hg List.not_mem_nil) ?_ (fun g hg => absurd hg List.not_mem_nil) calls
  intro h a' c g _ hstep hh g' hg'
  rcases List.mem_append.1 hg' with hold | hnew
  · exact hh g' hold
  · rw [Option.mem_toList.1 hnew] at hstep
    exact isPowerOfTwo_align_of_step hstep

/-! ## Bytes -/

variable {align : ℕ}

/-- A block that is padded to a boundary, or has no bytes, has a length on the boundary. -/
lemma dvd_length {g : Grant} (hpow : align.isPowerOfTwo) (hg : g.align.isPowerOfTwo)
    (hle : g.asked ≠ 0 → align ≤ g.align) : align ∣ g.length := by
  by_cases hasked : g.asked = 0
  · rw [Grant.length, hasked, roundUp_eq_self (Nat.pos_of_isPowerOfTwo hg) (Nat.dvd_zero _)]
    exact Nat.dvd_zero _
  · exact (dvd_of_isPowerOfTwo_of_le hpow hg (hle hasked)).trans (dvd_roundUp _ _)

/-- While the region begins on a boundary and no byte block was padded to less, the byte cursor
stays on the boundary. -/
theorem dvd_byteCursor_of_le_align (a : Arena) (r : Region) (calls : List Arena.Call)
    (hpow : align.isPowerOfTwo)
    (hstart : align ∣ ((opened a r).performAll calls).arena.start.toNat)
    (hblocks : ∀ g ∈ ((opened a r).performAll calls).grantsOf .bytes,
      g.asked ≠ 0 → align ≤ g.align) :
    align ∣ ((opened a r).performAll calls).arena.byteCursor.toNat := by
  have hrow := (bytesAscend_performAll a r calls).ascending.eq_add_sum
  have haligned := isPowerOfTwo_align_performAll a r calls
  generalize (opened a r).performAll calls = h at hstart hblocks hrow haligned ⊢
  have hsum : align ∣ h.arena.offset h.arena.byteCursor := by
    rw [hrow, Nat.zero_add]
    apply List.dvd_sum
    intro n hn
    obtain ⟨g, hg, rfl⟩ := List.mem_map.1 hn
    exact dvd_length hpow (haligned g (List.mem_of_mem_filter hg)) (hblocks g hg)
  rw [Word.toNat_eq_add_mod h.arena.byteCursor h.arena.start]
  exact dvd_add_mod_two_pow hpow h.arena.start.toNat_lt (h.arena.offset_lt _) hstart hsum

/-! ## Pages -/

/-- While the region ends on a boundary and no page block was padded to less, the page cursor and
all page blocks are on the boundary. -/
def PagesOn (align : ℕ) (h : History) : Prop :=
  align ∣ h.arena.stop.toNat → (∀ g ∈ h.grantsOf .pages, align ≤ g.align) →
    align ∣ h.arena.pageCursor.toNat ∧ ∀ g ∈ h.grantsOf .pages, align ∣ g.addr.toNat

lemma pagesOn_around (a : Arena) (r : Region) : PagesOn align { arena := a.around r } :=
  fun hstop _ => ⟨hstop, fun _ hg => absurd hg List.not_mem_nil⟩

/-- Pages that are padded to a boundary keep the page cursor on it, also across the wrap. -/
lemma dvd_pageCursor_takePages_of_le {a : Arena} {count align' taken : Word}
    (hadmitted : a.admitPages count align' = .ok taken) (hpow : align.isPowerOfTwo)
    (hle : align ≤ align'.toNat) (hcursor : align ∣ a.pageCursor.toNat) :
    align ∣ (a.takePages taken).pageCursor.toNat := by
  have hvalid := (Arena.of_admitPages_eq_ok hadmitted).1.1
  have hdvd : align ∣ align'.toNat :=
    dvd_of_isPowerOfTwo_of_le hpow (a.page.isPowerOfTwo_of_isAlignment hvalid) hle
  have hword : align ∣ 2 ^ 64 := hdvd.trans (a.page.dvd_two_pow_of_isAlignment hvalid)
  have hmove : align ∣ (taken * a.page.bytes).toNat := by
    rw [Arena.mul_eq_ofNat_of_admitPages_eq_ok hadmitted, UInt64.toNat_ofNat',
      Nat.dvd_mod_iff hword]
    exact hdvd.trans (dvd_roundUp _ _)
  show align ∣ (a.pageCursor - taken * a.page.bytes).toNat
  rw [UInt64.toNat_sub, Nat.dvd_mod_iff hword]
  exact Nat.dvd_add (Nat.dvd_sub hword hmove) hcursor

/-- Every step keeps the page blocks on the boundary. -/
lemma PagesOn.step {h : History} (hpow : align.isPowerOfTwo) (hh : h.PagesOn align) {a' : Arena}
    {c : Arena.Call} {g : Option Grant} (hc : ∀ r, c ≠ .init r) (hstep : h.arena.Step c g a') :
    PagesOn align { arena := a', grants := h.grants ++ g.toList } := by
  intro hstop hblocks
  rw [(hstep.bounds_eq hc).2] at hstop
  have hsplit : grantsOf { arena := a', grants := h.grants ++ g.toList } .pages =
      h.grantsOf .pages ++ g.toList.filter (·.client = .pages) := List.filter_append ..
  rw [hsplit, List.forall_mem_append] at hblocks ⊢
  obtain ⟨hcursor, haddrs⟩ := hh hstop hblocks.1
  -- only a page block moves the page cursor, and it begins where the cursor is then
  cases hstep with
  | opened r => exact absurd rfl (hc r)
  | pages count align' taken hadmitted =>
    have hle : align ≤ align'.toNat := hblocks.2 _ (List.mem_singleton_self _)
    have hafter := dvd_pageCursor_takePages_of_le hadmitted hpow hle hcursor
    refine ⟨hafter, haddrs, ?_⟩
    intro g' hg'
    rw [List.mem_singleton.1 hg']
    exact hafter
  | bytes l taken hadmitted => exact ⟨hcursor, haddrs, fun _ hg' => absurd hg' List.not_mem_nil⟩
  | configured config => exact ⟨hcursor, haddrs, fun _ hg' => absurd hg' List.not_mem_nil⟩
  | kept c hc => exact ⟨hcursor, haddrs, fun _ hg' => absurd hg' List.not_mem_nil⟩

/-- After every run from an opening, the page blocks are on the boundary. -/
theorem pagesOn_performAll (a : Arena) (r : Region) (calls : List Arena.Call)
    (hpow : align.isPowerOfTwo) : ((opened a r).performAll calls).PagesOn align :=
  performAll_induction (fun r _ => pagesOn_around _ r)
    (fun hc hstep hh => hh.step hpow hc hstep) (pagesOn_around a r) calls

/-! ## Both clients -/

/-- After every run from an opening, and for every power of two: where the region begins on its
boundary and no byte block but empty ones was padded to less, the next byte block begins on the
boundary, whatever its own alignment. Where the region ends on the boundary and no page block, the
last one included, was padded to less, every page block begins on the boundary. -/
theorem dvd_granted_of_le_align (a : Arena) (r : Region) (calls : List Arena.Call)
    (hpow : align.isPowerOfTwo) :
    let h := (opened a r).performAll calls
    (align ∣ h.arena.start.toNat → (∀ g ∈ h.grantsOf .bytes, g.asked ≠ 0 → align ≤ g.align) →
        ∀ l addr, (h.arena.perform (.alloc l)).answer = .outcome (.granted addr) →
          align ∣ addr.toNat) ∧
      (align ∣ h.arena.stop.toNat → (∀ g ∈ h.grantsOf .pages, align ≤ g.align) →
        ∀ g ∈ h.grantsOf .pages, align ∣ g.addr.toNat) := by
  intro h
  refine ⟨?_, fun hstop hblocks => (pagesOn_performAll a r calls hpow hstop hblocks).2⟩
  intro hstart hblocks l addr hgranted
  rw [(Arena.eq_byteCursor_of_granted hgranted).1]
  exact dvd_byteCursor_of_le_align a r calls hpow hstart hblocks

/-- Blocks on the boundary of two pages, in a region that reaches over the top of the address space:
an empty block that was padded to less does no harm. -/
theorem dvd_granted_over_the_top :
    let h := (opened { page := .fourKib } { start := 0xFFFFFFFFFFFFE000, size := 0xC000 }).performAll
      [.alloc { size := 8193, align := 8192 }, .allocPages 1 8192,
        .alloc { size := 0, align := 1 }, .allocPages 2 16384]
    (Nat.isPowerOfTwo 8192 ∧ 8192 ∣ h.arena.start.toNat ∧
        (∀ g ∈ h.grantsOf .bytes, g.asked ≠ 0 → 8192 ≤ g.align) ∧
        (h.arena.perform (.alloc { size := 5, align := 1 })).answer =
          .outcome (.granted 0x2000)) ∧
      8192 ∣ h.arena.stop.toNat ∧ (∀ g ∈ h.grantsOf .pages, 8192 ≤ g.align) ∧
      (h.grantsOf .pages).map (·.addr) = [0x8000, 0x4000] ∧ 8192 ∣ (0x2000 : Word).toNat ∧
      ∀ g ∈ h.grantsOf .pages, 8192 ∣ g.addr.toNat := by
  intro h
  have hpow : Nat.isPowerOfTwo 8192 := ⟨13, rfl⟩
  have hstart : 8192 ∣ h.arena.start.toNat := by decide
  have hstop : 8192 ∣ h.arena.stop.toNat := by decide
  have hbytes : ∀ g ∈ h.grantsOf .bytes, g.asked ≠ 0 → 8192 ≤ g.align := by decide
  have hpages : ∀ g ∈ h.grantsOf .pages, 8192 ≤ g.align := by decide
  have hnext : (h.arena.perform (.alloc { size := 5, align := 1 })).answer =
      .outcome (.granted 0x2000) := by decide
  obtain ⟨hbyte_rule, hpage_rule⟩ := dvd_granted_of_le_align { page := .fourKib } _ _ hpow
  exact ⟨⟨hpow, hstart, hbytes, hnext⟩, hstop, hpages, by decide,
    hbyte_rule hstart hbytes _ _ hnext, hpage_rule hstop hpages⟩

end History

end EarlyMemory
