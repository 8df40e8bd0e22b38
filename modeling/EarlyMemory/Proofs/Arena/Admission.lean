import EarlyMemory.Arena.Basic
import EarlyMemory.Proofs.Rounding

/-!
# Admission in natural numbers

The two decisions of an arena, `admitBytes` and `admitPages`, are made on words: masks,
remainders and wrapping sums. Here each is read as one comparison of natural numbers with the gap.
These facts hold in every state, whatever the four addresses are.

A byte request needs the least multiple of its alignment (`admitBytes_eq`). A page request needs
the least multiple of its alignment too, but its rounded count is a word that may wrap
(`admitPages_eq`); from two bytes a page on it cannot (`admitPages_eq_of_two_le`).
-/

namespace EarlyMemory

/-! ## Alignments of pages -/

/-- The alignments that a page request may ask for: pages times a power of two. -/
def PageSize.IsAlignment (p : PageSize) (align : ℕ) : Prop := ∃ k, align = p.bytes.toNat * 2 ^ k

namespace PageSize

variable (p : PageSize)

/-- An alignment is a whole number of pages, and that number is a power of two. -/
lemma isAlignment_iff (align : ℕ) :
    p.IsAlignment align ↔ p.bytes.toNat ∣ align ∧ (align / p.bytes.toNat).isPowerOfTwo := by
  constructor
  · rintro ⟨k, rfl⟩
    rw [Nat.mul_div_cancel_left _ p.toNat_bytes_pos]
    exact ⟨Dvd.intro _ rfl, k, rfl⟩
  · rintro ⟨⟨q, rfl⟩, k, hk⟩
    rw [Nat.mul_div_cancel_left _ p.toNat_bytes_pos] at hk
    exact ⟨k, by rw [hk]⟩

lemma pos_of_isAlignment {align : ℕ} (h : p.IsAlignment align) : 0 < align := by
  obtain ⟨k, rfl⟩ := h
  exact Nat.mul_pos p.toNat_bytes_pos (Nat.two_pow_pos k)

instance (align : ℕ) : Decidable (p.IsAlignment align) :=
  decidable_of_iff _ (p.isAlignment_iff align).symm

/-- The test on words, a remainder and a quotient, finds the alignments of pages. -/
lemma isAlignment_toNat_iff (align : Word) :
    p.IsAlignment align.toNat ↔
      align % p.bytes = 0 ∧ (align / p.bytes).isPowerOfTwo = true := by
  have hzero : (0 : Word).toNat = 0 := rfl
  rw [isAlignment_iff, Word.isPowerOfTwo_iff, UInt64.toNat_div, ← UInt64.toNat_inj,
    UInt64.toNat_mod, hzero, Nat.dvd_iff_mod_eq_zero]

end PageSize

namespace Arena

variable (a : Arena)

/-! ## Byte requests -/

/-- A byte request is admitted when its size, rounded up to its alignment, fits the gap. -/
theorem admitBytes_eq (l : Layout) :
    a.admitBytes l =
      if l.align.toNat.isPowerOfTwo ∧ roundUp l.size.toNat l.align.toNat < 2 ^ 64 then
        if a.gap.toNat < roundUp l.size.toNat l.align.toNat then .error .noMemory
        else .ok (.ofNat (roundUp l.size.toNat l.align.toNat))
      else .error .invalidParam := by
  unfold admitBytes
  rw [Layout.of?_eq]
  by_cases h : l.align.toNat.isPowerOfTwo ∧ roundUp l.size.toNat l.align.toNat < 2 ^ 64
  · have hpadded := Layout.toNat_paddedSize h.1 h.2
    rw [if_pos h, if_pos h, ← hpadded, UInt64.ofNat_toNat]
    simp only [UInt64.lt_iff_toNat_lt]
  · simp only [if_neg h]

/-- What an admitted byte request takes. -/
lemma toNat_of_admitBytes_eq_ok {a : Arena} {l : Layout} {taken : Word}
    (h : a.admitBytes l = .ok taken) :
    taken.toNat = roundUp l.size.toNat l.align.toNat ∧ taken.toNat ≤ a.gap.toNat ∧
      l.align.toNat.isPowerOfTwo := by
  rw [admitBytes_eq] at h
  split at h
  · next hvalid =>
    split at h
    · cases h
    · next hroom =>
      cases h
      rw [UInt64.toNat_ofNat', Nat.mod_eq_of_lt hvalid.2]
      exact ⟨rfl, Nat.le_of_not_lt hroom, hvalid.1⟩
  · cases h

/-! ## Page requests -/

/-- Rounding a count of pages by its remainder gives the least multiple, but for the wrap. -/
lemma toNat_roundedCount {alignPages : Word} (count : Word)
    (h : alignPages.isPowerOfTwo = true) :
    (if count % alignPages = 0 then count
      else count + (alignPages - count % alignPages)).toNat =
      roundUp count.toNat alignPages.toNat % 2 ^ 64 := by
  have hpos := Word.toNat_pos_of_isPowerOfTwo h
  have hcount := count.toNat_lt
  have hmod := Nat.mod_lt count.toNat hpos
  have hzero : count % alignPages = 0 ↔ count.toNat % alignPages.toNat = 0 := by
    rw [← UInt64.toNat_inj, UInt64.toNat_mod]
    rfl
  rw [roundUp_eq_of_mod hpos]
  by_cases h0 : count.toNat % alignPages.toNat = 0
  · rw [if_pos (hzero.2 h0), if_pos h0, Nat.mod_eq_of_lt hcount]
  · have hle : count % alignPages ≤ alignPages := by
      rw [UInt64.le_iff_toNat_le, UInt64.toNat_mod]
      omega
    rw [if_neg (fun hw => h0 (hzero.1 hw)), if_neg h0, UInt64.toNat_add,
      UInt64.toNat_sub_of_le _ _ hle, UInt64.toNat_mod]

/-- A count of pages is within the room when its bytes are within the gap. -/
lemma room_lt_iff (count : Word) :
    a.gap / a.page.bytes < count ↔ a.gap.toNat < count.toNat * a.page.bytes.toNat := by
  rw [UInt64.lt_iff_toNat_lt, UInt64.toNat_div, Nat.div_lt_iff_lt_mul a.page.toNat_bytes_pos]

/-- A page request is admitted when its pages fit the gap, and the rounded pages do. With pages
of one byte the rounded count may wrap. -/
theorem admitPages_eq (count align : Word) :
    a.admitPages count align =
      if a.page.IsAlignment align.toNat ∧ count.toNat ≠ 0 then
        if a.gap.toNat < count.toNat * a.page.bytes.toNat then .error .noMemory
        else if a.gap.toNat <
            roundUp count.toNat (align.toNat / a.page.bytes.toNat) % 2 ^ 64 *
              a.page.bytes.toNat then .error .noMemory
        else .ok (.ofNat (roundUp count.toNat (align.toNat / a.page.bytes.toNat)))
      else .error .invalidParam := by
  have hvalid : (align % a.page.bytes != 0 || !(align / a.page.bytes).isPowerOfTwo ||
      count == 0) = !decide (a.page.IsAlignment align.toNat ∧ count.toNat ≠ 0) := by
    have hzero : count = 0 ↔ count.toNat = 0 := UInt64.toNat_inj.symm
    rw [Bool.eq_iff_iff]
    simp only [PageSize.isAlignment_toNat_iff, Bool.or_eq_true, bne_iff_ne, Bool.not_eq_true',
      beq_iff_eq, decide_eq_false_iff_not, hzero]
    grind
  unfold admitPages
  simp only [hvalid, room_lt_iff]
  by_cases h : a.page.IsAlignment align.toNat ∧ count.toNat ≠ 0
  · have hpow := ((a.page.isAlignment_toNat_iff align).1 h.1).2
    have hround := toNat_roundedCount count hpow
    rw [UInt64.toNat_div] at hround
    have hword : (if count % (align / a.page.bytes) = 0 then count
        else count + (align / a.page.bytes - count % (align / a.page.bytes))) =
        .ofNat (roundUp count.toNat (align.toNat / a.page.bytes.toNat)) := by
      rw [← UInt64.toNat_inj, hround, UInt64.toNat_ofNat']
    simp only [decide_eq_true h, Bool.not_true, Bool.false_eq_true, if_false, if_pos h, hword,
      UInt64.toNat_ofNat']
  · simp only [decide_eq_false h, Bool.not_false, if_true, if_neg h]

/-- What an admission says of a page request and of the pages taken, for pages of any size. -/
lemma of_admitPages_eq_ok {a : Arena} {count align taken : Word}
    (h : a.admitPages count align = .ok taken) :
    (a.page.IsAlignment align.toNat ∧ count.toNat ≠ 0) ∧
      count.toNat * a.page.bytes.toNat ≤ a.gap.toNat ∧
      taken.toNat = roundUp count.toNat (align.toNat / a.page.bytes.toNat) % 2 ^ 64 ∧
      taken.toNat * a.page.bytes.toNat ≤ a.gap.toNat := by
  rw [admitPages_eq] at h
  split at h
  · next hvalid =>
    split at h
    · cases h
    · next hcount =>
      split at h
      · cases h
      · next hrounded =>
        cases h
        rw [UInt64.toNat_ofNat']
        exact ⟨hvalid, Nat.le_of_not_lt hcount, rfl, Nat.le_of_not_lt hrounded⟩
  · cases h

/-- The pages that are taken fit the gap, also when their count has wrapped. -/
lemma toNat_mul_le_gap_of_admitPages_eq_ok {a : Arena} {count align taken : Word}
    (h : a.admitPages count align = .ok taken) :
    taken.toNat * a.page.bytes.toNat ≤ a.gap.toNat := by
  obtain ⟨-, -, -, hroom⟩ := of_admitPages_eq_ok h
  exact hroom

/-- Rounding the count to the alignment in pages is rounding the bytes to the alignment. -/
lemma roundUp_count_mul {align : ℕ} (halign : a.page.IsAlignment align) (count : ℕ) :
    roundUp count (align / a.page.bytes.toNat) * a.page.bytes.toNat =
      roundUp (count * a.page.bytes.toNat) align := by
  obtain ⟨k, rfl⟩ := halign
  rw [Nat.mul_div_cancel_left _ a.page.toNat_bytes_pos,
    ← roundUp_mul_right _ _ a.page.toNat_bytes_pos (Nat.two_pow_pos k), Nat.mul_comm (2 ^ k)]

/-- The bytes of the pages taken, as a word: those of the rounded count, also when it has wrapped. -/
lemma mul_eq_ofNat_of_admitPages_eq_ok {a : Arena} {count align taken : Word}
    (h : a.admitPages count align = .ok taken) :
    taken * a.page.bytes = .ofNat (roundUp (count.toNat * a.page.bytes.toNat) align.toNat) := by
  obtain ⟨⟨halign, -⟩, -, htaken, -⟩ := of_admitPages_eq_ok h
  rw [← UInt64.toNat_inj, UInt64.toNat_mul, UInt64.toNat_ofNat', htaken, Nat.mod_mul_mod,
    a.roundUp_count_mul halign]

/-- From two bytes a page on, a count within the gap cannot wrap when it is rounded. -/
lemma roundUp_count_lt (hpage : 2 ≤ a.page.bytes.toNat) {count align : Word}
    (halign : a.page.IsAlignment align.toNat)
    (hroom : count.toNat * a.page.bytes.toNat ≤ a.gap.toNat) :
    roundUp count.toNat (align.toNat / a.page.bytes.toNat) < 2 ^ 64 := by
  obtain ⟨k, hk⟩ := halign
  have hgap := a.gap.toNat_lt
  have halign64 := align.toNat_lt
  rw [hk] at halign64 ⊢
  rw [Nat.mul_div_cancel_left _ a.page.toNat_bytes_pos]
  -- both the count and the alignment in pages are below `2 ^ 63`
  have hcount : count.toNat * 2 ≤ count.toNat * a.page.bytes.toNat :=
    Nat.mul_le_mul_left _ hpage
  have hpages : 2 * 2 ^ k ≤ a.page.bytes.toNat * 2 ^ k := Nat.mul_le_mul_right _ hpage
  have hlt := roundUp_lt count.toNat (Nat.two_pow_pos k)
  omega

/-- From two bytes a page on, a page request is admitted when its bytes, rounded up to its
alignment, fit the gap. -/
theorem admitPages_eq_of_two_le (hpage : 2 ≤ a.page.bytes.toNat) (count align : Word) :
    a.admitPages count align =
      if a.page.IsAlignment align.toNat ∧ count.toNat ≠ 0 then
        if a.gap.toNat < roundUp (count.toNat * a.page.bytes.toNat) align.toNat then
          .error .noMemory
        else .ok (.ofNat (roundUp count.toNat (align.toNat / a.page.bytes.toNat)))
      else .error .invalidParam := by
  rw [admitPages_eq]
  split
  · next hvalid =>
    have hle := le_roundUp (count.toNat * a.page.bytes.toNat)
      (a.page.pos_of_isAlignment hvalid.1)
    split
    · rw [if_pos (by omega)]
    · next hroom =>
      rw [Nat.mod_eq_of_lt (a.roundUp_count_lt hpage hvalid.1 (Nat.le_of_not_lt hroom)),
        a.roundUp_count_mul hvalid.1]
  · rfl

/-- What an admitted page request takes. -/
lemma toNat_mul_of_admitPages_eq_ok {a : Arena} (hpage : 2 ≤ a.page.bytes.toNat)
    {count align taken : Word} (h : a.admitPages count align = .ok taken) :
    taken.toNat * a.page.bytes.toNat =
        roundUp (count.toNat * a.page.bytes.toNat) align.toNat ∧
      a.page.IsAlignment align.toNat ∧ count.toNat ≠ 0 := by
  obtain ⟨hvalid, hcount, htaken, -⟩ := of_admitPages_eq_ok h
  have hlt := a.roundUp_count_lt hpage hvalid.1 hcount
  rw [htaken, Nat.mod_eq_of_lt hlt, a.roundUp_count_mul hvalid.1]
  exact ⟨rfl, hvalid⟩

/-! ## What is left of the gap -/

section

variable {a : Arena}

/-- Bytes within the gap leave the rest of it. -/
lemma toNat_gap_takeBytes {taken : Word} (htaken : taken.toNat ≤ a.gap.toNat) :
    (a.takeBytes taken).gap.toNat = a.gap.toNat - taken.toNat := by
  rw [gap_takeBytes, UInt64.toNat_sub_of_le _ _ (UInt64.le_iff_toNat_le.2 htaken)]

/-- The bytes of a count of pages that fits the gap are a word. -/
lemma toNat_count_mul {count : Word} (hcount : count.toNat * a.page.bytes.toNat ≤ a.gap.toNat) :
    (count * a.page.bytes).toNat = count.toNat * a.page.bytes.toNat := by
  have hgap := a.gap.toNat_lt
  rw [UInt64.toNat_mul, Nat.mod_eq_of_lt (by omega)]

/-- Pages within the gap leave the rest of it. -/
lemma toNat_gap_takePages {count : Word}
    (hcount : count.toNat * a.page.bytes.toNat ≤ a.gap.toNat) :
    (a.takePages count).gap.toNat = a.gap.toNat - count.toNat * a.page.bytes.toNat := by
  have hbytes := toNat_count_mul hcount
  rw [gap_takePages, UInt64.toNat_sub_of_le _ _ (by rwa [UInt64.le_iff_toNat_le, hbytes]), hbytes]

end

end Arena

end EarlyMemory
