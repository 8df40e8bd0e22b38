import Mathlib.Data.Set.Lattice
import Mathlib.Order.CompletePartialOrder
import Mathlib.Order.Interval.Set.Disjoint
import Mathlib.Order.Interval.Set.LinearOrder
import EarlyMemory.Proofs.Arena.History

/-!
# The blocks tile the region

Every grant is carved out of the gap between the cursors: bytes off its lower end, pages off its
upper end. So the blocks never meet, none of them meets what is left, and with what is left they
are the whole region (`Tiles.carve`). The byte blocks lie in a row upwards from the start and the
page blocks in a row downwards from the stop.

Blocks are compared by their offsets from the start, so a region that reaches over the top of the
address space is tiled like any other. Pages have at least two bytes: with pages of one byte the
rounded count of a request may wrap, and a block is then shorter than its request.
-/

namespace EarlyMemory

/-! ## Carving -/

/-- Pieces that do not meet, and a rest that none of them meets, make up the whole. -/
structure Tiles (whole : Set ℕ) (pieces : List (Set ℕ)) (rest : Set ℕ) : Prop where
  pairwise : pieces.Pairwise Disjoint
  apart : ∀ s ∈ pieces, Disjoint s rest
  cover : (⋃ s ∈ pieces, s) ∪ rest = whole

/-- Before the first cut the whole is left. -/
lemma Tiles.nil (whole : Set ℕ) : Tiles whole [] whole where
  pairwise := .nil
  apart := fun s hs => absurd hs List.not_mem_nil
  cover := by simp

/-- A cut through the rest makes one more piece. -/
lemma Tiles.carve {whole rest piece rest' : Set ℕ} {pieces : List (Set ℕ)}
    (h : Tiles whole pieces rest) (hcut : piece ∪ rest' = rest) (hapart : Disjoint piece rest') :
    Tiles whole (pieces ++ [piece]) rest' where
  pairwise := by
    rw [List.pairwise_append]
    refine ⟨h.pairwise, List.pairwise_singleton _ _, ?_⟩
    intro s hs t ht
    rw [List.mem_singleton.1 ht]
    exact (h.apart s hs).mono_right (hcut ▸ Set.subset_union_left)
  apart := by
    intro s hs
    rcases List.mem_append.1 hs with hs | hs
    · exact (h.apart s hs).mono_right (hcut ▸ Set.subset_union_right)
    · rw [List.mem_singleton.1 hs]
      exact hapart
  cover := by
    have hpieces : (⋃ s ∈ pieces ++ [piece], s) = (⋃ s ∈ pieces, s) ∪ piece := by
      simp only [List.mem_append, List.mem_singleton, Set.iUnion_or, Set.iUnion_union_distrib,
        Set.iUnion_iUnion_eq_left]
    rw [hpieces, Set.union_assoc, hcut, h.cover]

/-- No piece leaves the whole. -/
lemma Tiles.subset {whole rest : Set ℕ} {pieces : List (Set ℕ)} (h : Tiles whole pieces rest)
    {s : Set ℕ} (hs : s ∈ pieces) : s ⊆ whole := by
  rw [← h.cover]
  exact fun x hx => .inl (Set.mem_iUnion₂.2 ⟨s, hs, hx⟩)

/-! ## The gap as a region -/

/-- The offsets that a region takes. -/
def Region.span (offset : Word → ℕ) (r : Region) : Set ℕ :=
  Set.Ico (offset r.start) (offset r.start + r.size.toNat)

/-- What is unused lies between the cursors. -/
lemma Arena.Ordered.span_unusedRegion {a : Arena} (h : a.Ordered) :
    a.unusedRegion.span a.offset = Set.Ico (a.offset a.byteCursor) (a.offset a.pageCursor) := by
  have hgap := h.toNat_gap
  have hle := h.byteCursor_le
  show Set.Ico (a.offset a.byteCursor) (a.offset a.byteCursor + a.gap.toNat) = _
  rw [hgap, Nat.add_sub_cancel' hle]

/-! ## Histories -/

namespace History

/-- How the blocks of a history lie in the region of its arena. -/
structure Tiling (h : History) : Prop where
  ascending : Ascending h.arena.offset 0 (h.grantsOf .bytes) (h.arena.offset h.arena.byteCursor)
  descending :
    Descending h.arena.offset (h.arena.offset h.arena.stop) (h.grantsOf .pages)
      (h.arena.offset h.arena.pageCursor)
  tiles :
    Tiles (Set.Ico 0 (h.arena.offset h.arena.stop)) (h.grants.map (Grant.span h.arena.offset))
      (h.arena.unusedRegion.span h.arena.offset)
  asked_le : ∀ g ∈ h.grants, g.asked ≤ g.length

lemma tiling_around (a : Arena) (r : Region) : Tiling { arena := a.around r } where
  ascending := (bytesAscend_around a r).ascending
  descending := rfl
  tiles := by
    rw [(a.ordered_around r).span_unusedRegion]
    show Tiles (Set.Ico 0 _) [] (Set.Ico ((a.around r).offset (a.around r).start) _)
    rw [Arena.offset_start]
    exact Tiles.nil _
  asked_le := fun g hg => absurd hg List.not_mem_nil

/-- The length of an admitted page block is what the cursor moves by. -/
lemma length_ofPages {a : Arena} (hpage : 2 ≤ a.page.bytes.toNat) {count align taken : Word}
    (h : a.admitPages count align = .ok taken) (addr : Word) :
    (Grant.ofPages a.page count align addr).length = taken.toNat * a.page.bytes.toNat :=
  (Arena.toNat_mul_of_admitPages_eq_ok hpage h).1.symm

variable {h : History} {taken : Word}

/-- A byte block is carved off the lower end of the gap. -/
lemma tiles_takeBytes (hordered : h.arena.Ordered) (ht : h.Tiling)
    {l : Layout} (hadmitted : h.arena.admitBytes l = .ok taken) :
    Tiles (Set.Ico 0 (h.arena.offset h.arena.stop))
      ((h.grants ++ [Grant.ofBytes l h.arena.byteCursor]).map (Grant.span h.arena.offset))
      ((h.arena.takeBytes taken).unusedRegion.span h.arena.offset) := by
  obtain ⟨-, hroom, -⟩ := Arena.toNat_of_admitBytes_eq_ok hadmitted
  have hafter : (h.arena.takeBytes taken).unusedRegion.span h.arena.offset =
      Set.Ico (h.arena.offset h.arena.byteCursor + taken.toNat)
        (h.arena.offset h.arena.pageCursor) := by
    have hspan := (Arena.ordered_takeBytes hordered hroom).span_unusedRegion
    rw [Arena.offset_byteCursor_takeBytes hordered hroom] at hspan
    exact hspan
  have hpiece : (Grant.ofBytes l h.arena.byteCursor).span h.arena.offset =
      Set.Ico (h.arena.offset h.arena.byteCursor)
        (h.arena.offset h.arena.byteCursor + taken.toNat) := by
    rw [Grant.span, length_ofBytes hadmitted]
    rfl
  have hgap := hordered.toNat_gap
  have hle := hordered.byteCursor_le
  rw [List.map_append, List.map_singleton, hpiece, hafter]
  refine ht.tiles.carve ?_ Set.Ico_disjoint_Ico_same
  rw [hordered.span_unusedRegion]
  exact Set.Ico_union_Ico_eq_Ico (Nat.le_add_right _ _) (by omega)

/-- A page block is carved off the upper end of the gap. -/
lemma tiles_takePages (hpage : 2 ≤ h.arena.page.bytes.toNat) (hordered : h.arena.Ordered)
    (ht : h.Tiling) {count align : Word} (hadmitted : h.arena.admitPages count align = .ok taken) :
    Tiles (Set.Ico 0 (h.arena.offset h.arena.stop))
      ((h.grants ++
          [Grant.ofPages h.arena.page count align (h.arena.takePages taken).pageCursor]).map
        (Grant.span h.arena.offset))
      ((h.arena.takePages taken).unusedRegion.span h.arena.offset) := by
  have hroom := Arena.toNat_mul_le_gap_of_admitPages_eq_ok hadmitted
  have hcursor : h.arena.offset (h.arena.takePages taken).pageCursor =
      h.arena.offset h.arena.pageCursor - taken.toNat * h.arena.page.bytes.toNat :=
    Arena.offset_pageCursor_takePages hordered hroom
  have hafter : (h.arena.takePages taken).unusedRegion.span h.arena.offset =
      Set.Ico (h.arena.offset h.arena.byteCursor)
        (h.arena.offset (h.arena.takePages taken).pageCursor) :=
    (Arena.ordered_takePages hordered hroom).span_unusedRegion
  have hgap := hordered.toNat_gap
  have hle := hordered.byteCursor_le
  have hpiece : (Grant.ofPages h.arena.page count align
        (h.arena.takePages taken).pageCursor).span h.arena.offset =
      Set.Ico (h.arena.offset (h.arena.takePages taken).pageCursor)
        (h.arena.offset h.arena.pageCursor) := by
    rw [Grant.span, length_ofPages hpage hadmitted]
    show Set.Ico (h.arena.offset (h.arena.takePages taken).pageCursor)
      (h.arena.offset (h.arena.takePages taken).pageCursor + _) = _
    have hend : h.arena.offset (h.arena.takePages taken).pageCursor +
        taken.toNat * h.arena.page.bytes.toNat = h.arena.offset h.arena.pageCursor := by
      omega
    rw [hend]
  rw [List.map_append, List.map_singleton, hpiece, hafter]
  refine ht.tiles.carve ?_ (Disjoint.symm Set.Ico_disjoint_Ico_same)
  rw [hordered.span_unusedRegion, Set.union_comm]
  exact Set.Ico_union_Ico_eq_Ico (by omega) (by omega)

/-- A block is no shorter than what was asked for. -/
lemma asked_le_length {a a' : Arena} {c : Arena.Call} {g : Grant}
    (hstep : a.Step c (some g) a') : g.asked ≤ g.length := by
  cases hstep with
  | bytes l taken hadmitted =>
    obtain ⟨-, -, halign⟩ := Arena.toNat_of_admitBytes_eq_ok hadmitted
    exact le_roundUp _ (Nat.pos_of_isPowerOfTwo halign)
  | pages count align taken hadmitted =>
    obtain ⟨⟨halign, -⟩, -⟩ := Arena.of_admitPages_eq_ok hadmitted
    exact le_roundUp _ (a.page.pos_of_isAlignment halign)

/-- Every step keeps the tiling. -/
lemma Tiling.step (hpage : 2 ≤ h.arena.page.bytes.toNat) (hordered : h.arena.Ordered)
    (ht : h.Tiling) {a' : Arena} {c : Arena.Call} {g : Option Grant} (hc : ∀ r, c ≠ .init r)
    (hstep : h.arena.Step c g a') : Tiling { arena := a', grants := h.grants ++ g.toList } := by
  have hrow := (BytesAscend.step ⟨hordered, ht.ascending⟩ hc hstep).ascending
  have hasked : ∀ g' ∈ h.grants ++ g.toList, g'.asked ≤ g'.length := by
    intro g' hg'
    rcases List.mem_append.1 hg' with hold | hnew
    · exact ht.asked_le g' hold
    · rw [Option.mem_toList.1 hnew] at hstep
      exact asked_le_length hstep
  have hdown := ht.descending
  simp only [grantsOf] at hdown
  -- the bounds stay where they are, so the offsets before the step are those after it
  cases hstep with
  | opened r => exact absurd rfl (hc r)
  | bytes l taken hadmitted =>
    refine ⟨hrow, ?_, tiles_takeBytes hordered ht hadmitted, hasked⟩
    have hnone : (some (Grant.ofBytes l h.arena.byteCursor)).toList.filter
        (·.client = .pages) = [] := rfl
    simp only [grantsOf, List.filter_append]
    rw [hnone, List.append_nil]
    exact hdown
  | pages count align taken hadmitted =>
    refine ⟨hrow, ?_, tiles_takePages hpage hordered ht hadmitted, hasked⟩
    have hroom := Arena.toNat_mul_le_gap_of_admitPages_eq_ok hadmitted
    have hcursor := Arena.offset_pageCursor_takePages hordered hroom
    have hgap := hordered.toNat_gap
    simp only [grantsOf, List.filter_append]
    apply hdown.append_singleton
    rw [length_ofPages hpage hadmitted]
    show (h.arena.takePages taken).offset (h.arena.takePages taken).pageCursor + _ = _
    omega
  | configured config =>
    rw [Option.toList_none, List.append_nil] at hrow ⊢
    exact ⟨hrow, hdown, ht.tiles, ht.asked_le⟩
  | kept c hc =>
    rw [Option.toList_none, List.append_nil] at hrow ⊢
    exact ht

/-- After every run from an opening, the byte blocks lie in a row from the start up to the byte
cursor, the page blocks lie in a row from the stop down to the page cursor, each as long as its
request rounded up to its alignment, and all of them tile the region together with what is
unused. -/
theorem tiling_performAll (a : Arena) (hpage : 2 ≤ a.page.bytes.toNat) (r : Region)
    (calls : List Arena.Call) : ((opened a r).performAll calls).Tiling := by
  -- the order of the cursors and the size of the pages go along through the run
  have hrun := performAll_induction
    (motive := fun h => 2 ≤ h.arena.page.bytes.toNat ∧ h.arena.Ordered ∧ h.Tiling)
    (fun r hh => ⟨hh.1, Arena.ordered_around _ r, tiling_around _ r⟩)
    (fun hc hstep hh =>
      ⟨by rw [hstep.page_eq]; exact hh.1, hh.2.1.step hstep, hh.2.2.step hh.1 hh.2.1 hc hstep⟩)
    (h := opened a r) ⟨hpage, a.ordered_around r, tiling_around a r⟩ calls
  exact hrun.2.2

/-- Two byte blocks and two page blocks in a region of five pages that reaches over the top of the
address space, by their offsets and lengths. -/
theorem tiling_over_the_top :
    let h := (opened { page := .fourKib } { start := 0xFFFFFFFFFFFFE000, size := 0x5000 }).performAll
      [.alloc { size := 3, align := 8 }, .allocPages 1 8192, .allocPages 1 12288,
        .alloc { size := 5000, align := 1 }, .allocPages 1 4096]
    2 ≤ PageSize.fourKib.bytes.toNat ∧
      h.grants.map (fun g => (h.arena.offset g.addr, g.length)) =
        [(0, 8), (12288, 8192), (8, 5000), (8192, 4096)] ∧
      h.Tiling := by
  intro h
  refine ⟨by decide, by decide, ?_⟩
  exact tiling_performAll { page := .fourKib } (by decide) _ _

end History

end EarlyMemory
