import Mathlib.Data.UInt
import EarlyMemory.Proofs.Arena.Order

/-!
# Opening an arena

An opening takes the least row of whole pages around a region, its cover. The bounds of the cover
are natural numbers (`PageSize.Covers`): the arena begins at the lower bound, and stops at the upper
one modulo `2 ^ 64`. How much it manages is the distance of the bounds, again modulo `2 ^ 64`. As a
cover adds less than a page on either side, this is too little for the region exactly if the cover
is as large as the address space or larger (`PageSize.Covers.size_le_iff`). A region of whole pages
is its own cover, and so are the bounds of an open arena (`Arena.cover_init`).
-/

namespace EarlyMemory

lemma Region.between_stop (r : Region) : between r.start r.stop = r := by
  rw [between, stop, add_sub_cancel_left]

/-! ## Covers -/

namespace PageSize

/-- The bounds of the least row of whole pages around a region. Neither bound has wrapped. -/
structure Covers (p : PageSize) (r : Region) (low high : ℕ) : Prop where
  isGreatest_low : IsGreatest {m | p.bytes.toNat ∣ m ∧ m ≤ r.start.toNat} low
  isLeast_high : IsLeast {m | p.bytes.toNat ∣ m ∧ r.start.toNat + r.size.toNat ≤ m} high

/-- Every region has a cover, by rounding its start down and its end up. -/
lemma covers (p : PageSize) (r : Region) :
    p.Covers r (p.bytes.toNat * (r.start.toNat / p.bytes.toNat))
      (roundUp (r.start.toNat + r.size.toNat) p.bytes.toNat) where
  isGreatest_low := isGreatest_mul_div _ p.toNat_bytes_pos
  isLeast_high := isLeast_roundUp _ p.toNat_bytes_pos

section

variable {p : PageSize} {r : Region} {low high : ℕ}

/-- A cover adds less than a page below the region. -/
lemma Covers.start_lt (h : p.Covers r low high) : r.start.toNat < low + p.bytes.toNat := by
  by_contra hle
  have hnext := h.isGreatest_low.2
    ⟨Nat.dvd_add h.isGreatest_low.1.1 dvd_rfl, Nat.le_of_not_lt hle⟩
  have hpos := p.toNat_bytes_pos
  omega

/-- A cover adds less than a page above the region. -/
lemma Covers.lt_stop (h : p.Covers r low high) :
    high < r.start.toNat + r.size.toNat + p.bytes.toNat := by
  by_contra hle
  have hnext : high ≤ high - p.bytes.toNat :=
    h.isLeast_high.2 ⟨Nat.dvd_sub h.isLeast_high.1.1 dvd_rfl, by omega⟩
  have hpos := p.toNat_bytes_pos
  omega

/-- Modulo `2 ^ 64`, a cover has room for its region exactly if it is smaller than the address
space. -/
lemma Covers.size_le_iff (h : p.Covers r low high) :
    r.size.toNat ≤ (high - low) % 2 ^ 64 ↔ high - low < 2 ^ 64 := by
  have hlow := h.isGreatest_low.1.2
  have hhigh := h.isLeast_high.1.2
  have hstart := h.start_lt
  have hstop := h.lt_stop
  -- the cover adds less than two pages, and two pages are no larger than the address space
  have hpage := p.two_mul_toNat_bytes_le
  have hsize := r.size.toNat_lt
  omega

end

end PageSize

/-! ## The arena over a cover -/

namespace Arena

lemma toNat_total_around (a : Arena) (r : Region) :
    (a.around r).bytes.total.toNat =
      (roundUp (r.start.toNat + r.size.toNat) a.page.bytes.toNat -
        a.page.bytes.toNat * (r.start.toNat / a.page.bytes.toNat)) % 2 ^ 64 :=
  a.offset_stop_around r

/-- Only a region of whole pages that does not wrap is managed just as it is. -/
lemma around_eq_region_iff (a : Arena) (r : Region) :
    ((a.around r).start = r.start ∧
        (a.around r).stop.toNat = r.start.toNat + r.size.toNat ∧ (a.around r).unusedRegion = r) ↔
      a.page.bytes.toNat ∣ r.start.toNat ∧ a.page.bytes.toNat ∣ r.size.toNat ∧
        r.start.toNat + r.size.toNat < 2 ^ 64 := by
  have hordered := a.ordered_around r
  constructor
  · rintro ⟨hstart, hstop, -⟩
    have hdvd : a.page.bytes.toNat ∣ r.start.toNat := hstart ▸ hordered.dvd_start
    have hsum : a.page.bytes.toNat ∣ r.start.toNat + r.size.toNat := hstop ▸ hordered.dvd_stop
    exact ⟨hdvd, (Nat.dvd_add_right hdvd).1 hsum, hstop ▸ (a.around r).stop.toNat_lt⟩
  · rintro ⟨hstart, hsize, hlt⟩
    have hsum : r.stop.toNat = r.start.toNat + r.size.toNat := by
      rw [Region.stop, UInt64.toNat_add, Nat.mod_eq_of_lt hlt]
    have hlow : (a.around r).start = r.start :=
      Word.alignDown_eq_self a.page.isPowerOfTwo_bytes hstart
    have hhigh : (a.around r).stop = r.stop :=
      Word.alignUp_eq_self a.page.isPowerOfTwo_bytes (hsum ▸ Nat.dvd_add hstart hsize)
    refine ⟨hlow, by rw [hhigh, hsum], ?_⟩
    show Region.between (a.around r).start (a.around r).stop = r
    rw [hlow, hhigh, r.between_stop]

/-- Opening an arena anew over bounds on page boundaries keeps the bounds. -/
lemma around_between {a : Arena} (hstart : a.page.bytes.toNat ∣ a.start.toNat)
    (hstop : a.page.bytes.toNat ∣ a.stop.toNat) :
    a.around (.between a.start a.stop) =
      { a with byteCursor := a.start, pageCursor := a.stop } := by
  have hlow : (Region.between a.start a.stop).start.alignDown a.page.bytes = a.start :=
    Word.alignDown_eq_self a.page.isPowerOfTwo_bytes hstart
  have hhigh : (Region.between a.start a.stop).stop.alignUp a.page.bytes = a.stop := by
    rw [Region.stop_between, Word.alignUp_eq_self a.page.isPowerOfTwo_bytes hstop]
  simp only [around, hlow, hhigh]

/-- An opening takes the cover of its region, whatever the arena was before: both lower addresses
are the lower bound, both upper ones the upper bound modulo `2 ^ 64`, and as many bytes are managed
as there are between the bounds, again modulo `2 ^ 64`. These are at least the bytes of the region
exactly if the cover is smaller than the address space. The region is managed just as it is exactly
if it is whole pages and does not wrap. And to open the arena again over its own bounds changes
nothing. -/
theorem cover_init (a : Arena) (r : Region) :
    ∃ low high, a.page.Covers r low high ∧
      let b := (a.init r).arena
      (b.start.toNat = low ∧ b.byteCursor.toNat = low) ∧
        (b.stop.toNat = high % 2 ^ 64 ∧ b.pageCursor.toNat = high % 2 ^ 64) ∧
        b.bytes.total.toNat = (high - low) % 2 ^ 64 ∧
        (r.size ≤ b.bytes.total ↔ high - low < 2 ^ 64) ∧
        ((b.start = r.start ∧ b.stop.toNat = r.start.toNat + r.size.toNat ∧ b.unusedRegion = r) ↔
          a.page.bytes.toNat ∣ r.start.toNat ∧ a.page.bytes.toNat ∣ r.size.toNat ∧
            r.start.toNat + r.size.toNat < 2 ^ 64) ∧
        (b.init { start := b.start, size := b.stop - b.start }).arena = b := by
  have hcovers := a.page.covers r
  have hlow := a.toNat_start_around r
  have hhigh := a.toNat_stop_around r
  have htotal := a.toNat_total_around r
  have hordered := a.ordered_around r
  refine ⟨_, _, hcovers, ⟨hlow, hlow⟩, ⟨hhigh, hhigh⟩, htotal, ?_, a.around_eq_region_iff r, ?_⟩
  · show r.size ≤ (a.around r).bytes.total ↔ _
    rw [UInt64.le_iff_toNat_le, htotal]
    exact hcovers.size_le_iff
  · exact around_between hordered.dvd_start hordered.dvd_stop

/-- A cover larger than the address space: half of it is all that is left to manage. -/
example :
    let a : Arena := { page := ⟨0x8000000000000000, by decide⟩ }
    (a.init { start := 0x7FFFFFFFFFFFFFFF, size := 0xFFFFFFFFFFFFFFFF }).arena.bytes.total =
      0x8000000000000000 := by
  decide

end Arena

end EarlyMemory
