import EarlyMemory.Proofs.Arena.History

/-!
# Regions up to the top of the address space

The cursors of an arena are in order when they are counted from the start of its region, wherever
that lies. The plain order of addresses, which `contains` uses, is another matter: the end of a
region that fits the address space may be rounded up to its very top, and the top as a word is
zero. `Manages` says what the plain order should give, and `manages_iff` that it does so exactly
if the rounded end is still a word; with pages of one byte no length of a block may have left the
words either.
-/

namespace EarlyMemory

namespace Arena

lemma contains_iff (a : Arena) (addr : Word) :
    a.contains addr = true ↔ a.start.toNat ≤ addr.toNat ∧ addr.toNat < a.stop.toNat := by
  simp only [contains, Bool.and_eq_true, decide_eq_true_eq, UInt64.le_iff_toNat_le,
    UInt64.lt_iff_toNat_lt]

/-- If its rounded end is a word, the bounds enclose a region in the plain order. -/
lemma bounds_around_of_lt (a : Arena) {r : Region}
    (hend : roundUp (r.start.toNat + r.size.toNat) a.page.bytes.toNat < 2 ^ 64) :
    (a.around r).start.toNat ≤ r.start.toNat ∧
      r.start.toNat + r.size.toNat ≤ (a.around r).stop.toNat := by
  rw [toNat_start_around, toNat_stop_around, Nat.mod_eq_of_lt hend]
  exact ⟨Nat.mul_div_le _ _, le_roundUp _ a.page.toNat_bytes_pos⟩

end Arena

namespace History

/-! ## Blocks inside the region -/

/-- No block of a word's length reaches over the stop, and but for pages of one byte every length is
that of a word. -/
structure Enclosed (h : History) : Prop where
  ordered : h.arena.Ordered
  le_stop : ∀ g ∈ h.grants, g.length < 2 ^ 64 →
    h.arena.offset g.addr + g.length ≤ h.arena.offset h.arena.stop
  length_lt : h.arena.page.bytes.toNat ≠ 1 → ∀ g ∈ h.grants, g.length < 2 ^ 64

lemma enclosed_around (a : Arena) (r : Region) : Enclosed { arena := a.around r } where
  ordered := a.ordered_around r
  le_stop := fun _ hg => absurd hg List.not_mem_nil
  length_lt := fun _ _ hg => absurd hg List.not_mem_nil

/-- A new byte block ends at the byte cursor, so below the page cursor and the stop. -/
lemma le_stop_ofBytes {a : Arena} (h : a.Ordered) {l : Layout} {taken : Word}
    (hadmitted : a.admitBytes l = .ok taken) :
    a.offset a.byteCursor + (Grant.ofBytes l a.byteCursor).length ≤ a.offset a.stop := by
  have hroom := (Arena.toNat_of_admitBytes_eq_ok hadmitted).2.1
  have hgap := h.toNat_gap
  have hbyte := h.byteCursor_le
  have hpage := h.pageCursor_le
  rw [length_ofBytes hadmitted]
  omega

/-- The length of an admitted page block, where it is a word, is what the cursor moves by. -/
lemma length_ofPages_of_lt {a : Arena} {count align taken : Word}
    (hadmitted : a.admitPages count align = .ok taken) {addr : Word}
    (hlength : (Grant.ofPages a.page count align addr).length < 2 ^ 64) :
    (Grant.ofPages a.page count align addr).length = taken.toNat * a.page.bytes.toNat := by
  have hroom := Arena.toNat_mul_le_gap_of_admitPages_eq_ok hadmitted
  have hword := congrArg UInt64.toNat (Arena.mul_eq_ofNat_of_admitPages_eq_ok hadmitted)
  rw [Arena.toNat_count_mul hroom, UInt64.toNat_ofNat'] at hword
  exact (hword.trans (Nat.mod_eq_of_lt hlength)).symm

/-- A new page block whose length is a word ends at the page cursor before it. -/
lemma le_stop_ofPages {a : Arena} (h : a.Ordered) {count align taken : Word}
    (hadmitted : a.admitPages count align = .ok taken)
    (hlength : (Grant.ofPages a.page count align (a.takePages taken).pageCursor).length < 2 ^ 64) :
    a.offset (a.takePages taken).pageCursor +
        (Grant.ofPages a.page count align (a.takePages taken).pageCursor).length ≤
      a.offset a.stop := by
  have hroom := Arena.toNat_mul_le_gap_of_admitPages_eq_ok hadmitted
  have hcursor : a.offset (a.takePages taken).pageCursor =
      a.offset a.pageCursor - taken.toNat * a.page.bytes.toNat :=
    Arena.offset_pageCursor_takePages h hroom
  have hmoved := length_ofPages_of_lt hadmitted hlength
  have hgap := h.toNat_gap
  have hpage := h.pageCursor_le
  omega

/-- The length of a new block is that of a word, but for pages of one byte. -/
lemma length_lt_of_step {a a' : Arena} (hpage : a.page.bytes.toNat ≠ 1) {c : Arena.Call}
    {g : Grant} (hstep : a.Step c (some g) a') : g.length < 2 ^ 64 := by
  cases hstep with
  | bytes l taken hadmitted =>
    rw [length_ofBytes hadmitted]
    exact taken.toNat_lt
  | pages count align taken hadmitted =>
    have hpos := a.page.toNat_bytes_pos
    have hgap := a.gap.toNat_lt
    have hroom := Arena.toNat_mul_le_gap_of_admitPages_eq_ok hadmitted
    have hlength := (Arena.toNat_mul_of_admitPages_eq_ok (by omega) hadmitted).1
    show roundUp (count.toNat * a.page.bytes.toNat) align.toNat < 2 ^ 64
    omega

/-- Every step keeps the blocks inside the region. -/
lemma Enclosed.step {h : History} (hh : h.Enclosed) {a' : Arena} {c : Arena.Call}
    {g : Option Grant} (hc : ∀ r, c ≠ .init r) (hstep : h.arena.Step c g a') :
    Enclosed { arena := a', grants := h.grants ++ g.toList } := by
  refine ⟨hh.ordered.step hstep, ?_, ?_⟩
  · intro g' hg' hlength
    -- the bounds stay, so the offsets of the blocks before do
    obtain ⟨hstart, hstop⟩ := hstep.bounds_eq hc
    show (g'.addr - a'.start).toNat + g'.length ≤ (a'.stop - a'.start).toNat
    rw [hstart, hstop]
    rcases List.mem_append.1 hg' with hold | hnew
    · exact hh.le_stop g' hold hlength
    · rw [Option.mem_toList.1 hnew] at hstep
      cases hstep with
      | bytes l taken hadmitted => exact le_stop_ofBytes hh.ordered hadmitted
      | pages count align taken hadmitted => exact le_stop_ofPages hh.ordered hadmitted hlength
  · intro hpage g' hg'
    have hpage' : h.arena.page.bytes.toNat ≠ 1 := by
      rw [← hstep.page_eq]
      exact hpage
    rcases List.mem_append.1 hg' with hold | hnew
    · exact hh.length_lt hpage' g' hold
    · rw [Option.mem_toList.1 hnew] at hstep
      exact length_lt_of_step hpage' hstep

/-- After every run from an opening, the blocks are inside the region. -/
theorem enclosed_performAll (a : Arena) (r : Region) (calls : List Arena.Call) :
    ((opened a r).performAll calls).Enclosed :=
  performAll_induction (fun r _ => enclosed_around _ r)
    (fun hc hstep hh => hh.step hc hstep) (enclosed_around a r) calls

/-! ## The plain order of addresses -/

/-- What an arena owes to a region that fits the address space: its cursors are in order as
addresses, and it owns up to every address of the region and of the blocks. -/
structure Manages (h : History) (r : Region) : Prop where
  start_le : h.arena.start ≤ h.arena.byteCursor
  byteCursor_le : h.arena.byteCursor ≤ h.arena.pageCursor
  pageCursor_le : h.arena.pageCursor ≤ h.arena.stop
  contains_region : ∀ addr : Word, r.start ≤ addr →
    addr.toNat < r.start.toNat + r.size.toNat → h.arena.contains addr = true
  contains_grants : ∀ g ∈ h.grants, ∀ addr : Word, g.addr ≤ addr →
    addr.toNat < g.addr.toNat + g.length → h.arena.contains addr = true

/-- Where the bounds enclose the region and the blocks are no longer than words, all is in order. -/
lemma manages_of_enclosed {h : History} {r : Region} (hh : h.Enclosed)
    (hstart : h.arena.start.toNat ≤ r.start.toNat)
    (hstop : r.start.toNat + r.size.toNat ≤ h.arena.stop.toNat)
    (hlength : ∀ g ∈ h.grants, g.length < 2 ^ 64) : h.Manages r := by
  have hbounds : h.arena.start ≤ h.arena.stop := by
    rw [UInt64.le_iff_toNat_le]
    omega
  obtain ⟨hle_byte, hle_page, hle_stop⟩ := hh.ordered.le_of_start_le_stop hbounds
  refine ⟨hle_byte, hle_page, hle_stop, ?_, ?_⟩
  · intro addr hlow hhigh
    rw [UInt64.le_iff_toNat_le] at hlow
    rw [Arena.contains_iff]
    omega
  · intro g hg addr hlow hhigh
    have hend := hh.le_stop g hg (hlength g hg)
    have hbelow : h.arena.offset g.addr ≤ h.arena.offset h.arena.stop := by omega
    have haddr := Arena.toNat_eq_start_add_offset hbounds hbelow
    have hlast := Arena.toNat_eq_start_add_offset hbounds (le_refl (h.arena.offset h.arena.stop))
    rw [UInt64.le_iff_toNat_le] at hlow
    rw [Arena.contains_iff]
    omega

/-- A block longer than the words would have to hold the greatest address, which no arena owns. -/
lemma Manages.length_lt {h : History} {r : Region} (hh : h.Manages r) {g : Grant}
    (hg : g ∈ h.grants) : g.length < 2 ^ 64 := by
  by_contra hlength
  have hgreatest : Word.greatest.toNat = 2 ^ 64 - 1 := rfl
  have haddr := g.addr.toNat_lt
  have hstop := h.arena.stop.toNat_lt
  have hcontains := hh.contains_grants g hg Word.greatest
    (by rw [UInt64.le_iff_toNat_le]; omega) (by omega)
  rw [Arena.contains_iff] at hcontains
  omega

/-- If the rounded end of a region is the top of the address space, its arena is out of order. -/
lemma Manages.roundUp_lt {h : History} {r : Region} {a : Arena} (hh : h.Manages r)
    (hsum : r.start.toNat + r.size.toNat < 2 ^ 64) (hstart : h.arena.start = (a.around r).start)
    (hstop : h.arena.stop = (a.around r).stop) :
    roundUp (r.start.toNat + r.size.toNat) a.page.bytes.toNat < 2 ^ 64 := by
  by_contra hlt
  have htop : roundUp (r.start.toNat + r.size.toNat) a.page.bytes.toNat = 2 ^ 64 :=
    le_antisymm (Word.roundUp_le_two_pow a.page.isPowerOfTwo_bytes hsum.le) (Nat.le_of_not_lt hlt)
  have hzero : h.arena.stop.toNat = 0 := by
    rw [hstop, Arena.toNat_stop_around, htop, Nat.mod_self]
  have hpage64 := a.page.bytes.toNat_lt
  -- the order of the cursors brings the start down to zero, so the region begins in the first page
  have hbelow := UInt64.le_iff_toNat_le.1
    (UInt64.le_trans (UInt64.le_trans hh.start_le hh.byteCursor_le) hh.pageCursor_le)
  have hfirst : r.start.toNat < a.page.bytes.toNat := by
    rw [hstart, Arena.toNat_start_around, hzero] at hbelow
    have hdiv := Nat.div_add_mod r.start.toNat a.page.bytes.toNat
    have hmod := Nat.mod_lt r.start.toNat a.page.toNat_bytes_pos
    omega
  -- it ends beyond that page, so it is not empty, but no address lies below a stop of zero
  have hend : a.page.bytes.toNat < r.start.toNat + r.size.toNat := by
    rw [← not_le, ← roundUp_le_iff a.page.toNat_bytes_pos dvd_rfl]
    omega
  have hcontains := hh.contains_region r.start (UInt64.le_refl _) (by omega)
  rw [Arena.contains_iff] at hcontains
  omega

/-- A region that fits the address space is managed in the plain order of addresses exactly if its
end, rounded up to a page, is still a word and, with pages of one byte, so is the length of every
block. -/
theorem manages_iff (a : Arena) {r : Region} (hsum : r.start.toNat + r.size.toNat < 2 ^ 64)
    {calls : List Arena.Call} (hcalls : ∀ c ∈ calls, ∀ r', c ≠ .init r') :
    ((opened a r).performAll calls).Manages r ↔
      roundUp (r.start.toNat + r.size.toNat) a.page.bytes.toNat < 2 ^ 64 ∧
        (a.page.bytes.toNat = 1 →
          ∀ g ∈ ((opened a r).performAll calls).grants, g.length < 2 ^ 64) := by
  obtain ⟨hstart, hstop⟩ := (a.around r).bounds_performAll hcalls
  have henclosed := enclosed_performAll a r calls
  have hpage := page_opened_performAll a r calls
  have harena : ((opened a r).performAll calls).arena = (a.around r).performAll calls :=
    arena_performAll _ _
  rw [← harena] at hstart hstop
  constructor
  · intro hh
    exact ⟨hh.roundUp_lt hsum hstart hstop, fun _ g hg => hh.length_lt hg⟩
  · rintro ⟨hend, hlength⟩
    obtain ⟨hlow, hhigh⟩ := a.bounds_around_of_lt hend
    refine manages_of_enclosed henclosed (by rwa [hstart]) (by rwa [hstop]) ?_
    by_cases hone : a.page.bytes.toNat = 1
    · exact hlength hone
    · exact henclosed.length_lt (by rwa [hpage])

/-- Bytes and pages in a region that ends in the last page but one. -/
theorem manages_below_last_page :
    let r : Region := { start := 0xFFFFFFFFFFFFC123, size := 0x2000 }
    let calls : List Arena.Call := [.alloc { size := 3, align := 8 }, .allocPages 1 8192]
    let h := (opened { page := .fourKib } r).performAll calls
    r.start.toNat + r.size.toNat < 2 ^ 64 ∧ (∀ c ∈ calls, ∀ r', c ≠ .init r') ∧
      h.grants.map (·.addr) = [0xFFFFFFFFFFFFC000, 0xFFFFFFFFFFFFD000] ∧ h.Manages r := by
  intro r calls h
  have hsum : r.start.toNat + r.size.toNat < 2 ^ 64 := by decide
  have hcalls : ∀ c ∈ calls, ∀ r', c ≠ .init r' := by simp [calls]
  refine ⟨hsum, hcalls, by decide, ?_⟩
  exact (manages_iff { page := .fourKib } hsum hcalls).2 ⟨by decide, by decide⟩

/-- Bytes in a region that ends in the last page: they are granted, at an address that the arena
denies, and its cursors are out of order. -/
theorem not_manages_last_page :
    let r : Region := { start := 0xFFFFFFFFFFFFF000, size := 0xFFF }
    let h := (opened { page := .fourKib } r).performAll [.alloc { size := 16, align := 8 }]
    r.start.toNat + r.size.toNat < 2 ^ 64 ∧ h.grants.map (·.addr) = [0xFFFFFFFFFFFFF000] ∧
      h.arena.contains 0xFFFFFFFFFFFFF000 = false ∧ ¬ h.arena.byteCursor ≤ h.arena.pageCursor ∧
      ¬ h.Manages r := by
  intro r h
  have horder : ¬ h.arena.byteCursor ≤ h.arena.pageCursor := by decide
  exact ⟨by decide, by decide, by decide, horder, fun hh => horder hh.byteCursor_le⟩

end History

end EarlyMemory
