import EarlyMemory.Proofs.Arena.PageAlignment

/-!
# The rounding of page requests

A page request is padded to its alignment, and the padded count is a word. The page cursor moves by
the padded bytes modulo `2 ^ 64` (`toNat_pageMove`), which are at most `2 ^ 64` because the
alignment divides it (`roundUp_asked_le`). So nothing is lost unless they come to `2 ^ 64` itself.
That takes pages of one byte, and a count that leaves the words no room for one more alignment
(`roundUp_asked_lt_iff`). Such a request is granted, and the cursor stays where it is
(`pageMove_eq_zero_in_whole_space`).
-/

namespace EarlyMemory

namespace Arena

/-- How many bytes a page request brings the page cursor down by. -/
def pageMove (a : Arena) (count align : Word) : ℕ :=
  (a.pageCursor - (a.perform (.allocPages count align)).arena.pageCursor).toNat

section

variable {a : Arena} {count align taken : Word} (h : a.admitPages count align = .ok taken)

include h

/-- The cursor moves by the padded bytes, but for the wrap. -/
lemma toNat_pageMove :
    a.pageMove count align =
      roundUp (count.toNat * a.page.bytes.toNat) align.toNat % 2 ^ 64 := by
  have hafter : (a.perform (.allocPages count align)).arena = a.takePages taken :=
    (allocPages_of_admitPages_eq_ok h).2
  have hmove : a.pageCursor - (a.takePages taken).pageCursor = taken * a.page.bytes :=
    sub_sub_cancel _ _
  rw [pageMove, hafter, hmove, mul_eq_ofNat_of_admitPages_eq_ok h, UInt64.toNat_ofNat']

/-- The bytes asked for are within the gap, and the next boundary after them is within the words. -/
lemma roundUp_asked_le : roundUp (count.toNat * a.page.bytes.toNat) align.toNat ≤ 2 ^ 64 := by
  obtain ⟨⟨halign, -⟩, hroom, -, -⟩ := of_admitPages_eq_ok h
  have hgap := a.gap.toNat_lt
  rw [roundUp_le_iff (a.page.pos_of_isAlignment halign) (a.page.dvd_two_pow_of_isAlignment halign)]
  omega

/-- Only with pages of one byte can that boundary be the end of the words. -/
lemma roundUp_asked_lt_iff :
    roundUp (count.toNat * a.page.bytes.toNat) align.toNat < 2 ^ 64 ↔
      (a.page.bytes.toNat = 1 → count.toNat + align.toNat ≤ 2 ^ 64) := by
  obtain ⟨⟨halign, -⟩, -, -, hroom⟩ := of_admitPages_eq_ok h
  have hpos := a.page.toNat_bytes_pos
  have hgap := a.gap.toNat_lt
  by_cases hone : a.page.bytes.toNat = 1
  · rw [hone, Nat.mul_one, roundUp_lt_iff (a.page.pos_of_isAlignment halign)
      (a.page.dvd_two_pow_of_isAlignment halign)]
    exact ⟨fun hle _ => hle, fun hle => hle rfl⟩
  · -- larger pages have no more than half as many counts as there are words
    have htaken := (toNat_mul_of_admitPages_eq_ok (by omega) h).1
    exact iff_of_true (by omega) fun hpage => absurd hpage hone

end

/-- A granted page request moves the page cursor down by its bytes, padded to its alignment, and so
hands over as many bytes as were asked for, exactly if pages are larger than one byte or the count
and the alignment together stay within the words. Otherwise the request is granted all the same, and
the cursor does not move. -/
theorem pageMove_eq_roundUp_iff (a : Arena) {count align addr : Word}
    (hgranted : (a.perform (.allocPages count align)).answer = .outcome (.granted addr)) :
    let asked := count.toNat * a.page.bytes.toNat
    let fits := a.page.bytes.toNat = 1 → count.toNat + align.toNat ≤ 2 ^ 64
    (a.pageMove count align = roundUp asked align.toNat ↔ fits) ∧
      (asked ≤ a.pageMove count align ↔ fits) ∧ (¬ fits → a.pageMove count align = 0) := by
  intro asked fits
  obtain ⟨taken, hadmitted, -⟩ := exists_admitPages_of_granted hgranted
  obtain ⟨⟨halign, hcount⟩, -⟩ := of_admitPages_eq_ok hadmitted
  have hmove : a.pageMove count align = roundUp asked align.toNat % 2 ^ 64 :=
    toNat_pageMove hadmitted
  have hle : roundUp asked align.toNat ≤ 2 ^ 64 := roundUp_asked_le hadmitted
  have hfits : roundUp asked align.toNat < 2 ^ 64 ↔ fits := roundUp_asked_lt_iff hadmitted
  have hasked : asked ≤ roundUp asked align.toNat :=
    le_roundUp asked (a.page.pos_of_isAlignment halign)
  have hpos : 0 < asked := Nat.mul_pos (Nat.pos_of_ne_zero hcount) a.page.toNat_bytes_pos
  rw [hmove, ← hfits]
  refine ⟨?_, ?_, ?_⟩
  · omega
  · omega
  · omega

/-- Almost half of all addresses, in pages of one byte, on a boundary of half of them. The largest
count that this alignment leaves room for. -/
theorem pageMove_half_space :
    let a := ({ page := ⟨1, by decide⟩ } : Arena).performAll
      [.init { start := 0, size := Word.greatest }]
    let count : Word := 0x7FFFFFFFFFFFFFFF
    let align : Word := 0x8000000000000000
    (a.perform (.allocPages count align)).answer = .outcome (.granted 0x7FFFFFFFFFFFFFFF) ∧
      a.pageMove count align = 2 ^ 63 := by
  intro a count align
  have hgranted : (a.perform (.allocPages count align)).answer =
      .outcome (.granted 0x7FFFFFFFFFFFFFFF) := by decide
  have hfits : a.page.bytes.toNat = 1 → count.toNat + align.toNat ≤ 2 ^ 64 := by decide
  refine ⟨hgranted, ?_⟩
  rw [(pageMove_eq_roundUp_iff a hgranted).1.2 hfits]
  decide

/-- Two pages of one byte more: the padded count is `2 ^ 64`, and as a word it is zero. The request
is granted at the end of the region, with no page in it. -/
theorem pageMove_eq_zero_in_whole_space :
    let a := ({ page := ⟨1, by decide⟩ } : Arena).performAll
      [.init { start := 0, size := Word.greatest }]
    let count : Word := 0x8000000000000001
    let align : Word := 0x8000000000000000
    (a.perform (.allocPages count align)).answer = .outcome (.granted Word.greatest) ∧
      a.pageMove count align = 0 ∧
      roundUp (count.toNat * a.page.bytes.toNat) align.toNat = 2 ^ 64 ∧
      ¬ count.toNat * a.page.bytes.toNat ≤ a.pageMove count align := by
  decide

end Arena

end EarlyMemory
