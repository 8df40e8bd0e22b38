import EarlyMemory.Proofs.Arena.Interleaving
import EarlyMemory.Proofs.Arena.PageAlignment

/-!
# Smaller requests and larger gaps

A caller whose request is granted may ask for less, on a boundary no coarser, and may ask an arena
with a larger gap: it is granted as well (`isGranted_of_noGreater`). What a request needs is its
size rounded up to a power of two, and of two powers of two the smaller divides the greater, so the
smaller request needs no more and is valid if the greater one is (`NoGreater.need_le`,
`NoGreater.valid`).

Pages have at least two bytes here. With pages of one byte the rounding may wrap, and the greater
request may be the one that needs less.
-/

namespace EarlyMemory

/-- Of two alignments of pages the smaller divides the greater. -/
lemma PageSize.dvd_of_isAlignment_of_le (p : PageSize) {align align' : ℕ}
    (h : p.IsAlignment align) (h' : p.IsAlignment align') (hle : align' ≤ align) : align' ∣ align :=
  dvd_of_isPowerOfTwo_of_le (p.isPowerOfTwo_of_isAlignment h') (p.isPowerOfTwo_of_isAlignment h) hle

namespace Arena

/-- The first request is of the kind of the second, asks for no more than that, and does so on a
boundary that is no coarser. It names a boundary that there is, and asks for a page if for pages. -/
inductive Call.NoGreater (p : PageSize) : Call → Call → Prop where
  | alloc {size size' align align' : Word} (hsize : size' ≤ size) (halign : align' ≤ align)
      (hpow : align'.toNat.isPowerOfTwo) :
      NoGreater p (.alloc { size := size', align := align' }) (.alloc { size, align })
  | allocPages {count count' align align' : Word} (hone : 1 ≤ count') (hcount : count' ≤ count)
      (halign : align' ≤ align) (hpages : p.IsAlignment align'.toNat) :
      NoGreater p (.allocPages count' align') (.allocPages count align)

namespace Call.NoGreater

variable {p : PageSize} {c c' : Call}

/-- The smaller request needs no more. -/
lemma need_le (h : c'.NoGreater p c) (hvalid : c.Valid p) : c'.need p ≤ c.need p := by
  cases h with
  | alloc hsize halign hpow =>
    rw [UInt64.le_iff_toNat_le] at hsize halign
    exact roundUp_le_roundUp (Nat.pos_of_isPowerOfTwo hvalid.1)
      (dvd_of_isPowerOfTwo_of_le hpow hvalid.1 halign) hsize
  | allocPages hone hcount halign hpages =>
    rw [UInt64.le_iff_toNat_le] at hcount halign
    exact roundUp_le_roundUp (p.pos_of_isAlignment hvalid.1)
      (p.dvd_of_isAlignment_of_le hvalid.1 hpages halign) (Nat.mul_le_mul_right _ hcount)

/-- The smaller request is valid, its padded size included. -/
lemma valid (h : c'.NoGreater p c) (hvalid : c.Valid p) : c'.Valid p := by
  have hneed := h.need_le hvalid
  cases h with
  | alloc hsize halign hpow => exact ⟨hpow, hneed.trans_lt hvalid.2⟩
  | allocPages hone hcount halign hpages =>
    exact ⟨hpages, Nat.ne_of_gt (UInt64.le_iff_toNat_le.1 hone)⟩

end Call.NoGreater

/-- If an arena grants a request, then every arena with pages of the same size and a gap at least as
large grants every request that is no greater. -/
theorem isGranted_of_noGreater {a b : Arena} (hpage : b.page = a.page)
    (htwo : 2 ≤ a.page.bytes.toNat) (hgap : a.gap ≤ b.gap) {c c' : Call}
    (hle : c'.NoGreater a.page c) (h : (a.perform c).answer.isGranted = true) :
    (b.perform c').answer.isGranted = true := by
  obtain ⟨hvalid, hroom⟩ := (isGranted_perform_iff htwo c).1 h
  rw [UInt64.le_iff_toNat_le] at hgap
  rw [isGranted_perform_iff (by rwa [hpage]), hpage]
  exact ⟨hle.valid hvalid, (hle.need_le hvalid).trans (hroom.trans hgap)⟩

/-- Two arenas with their cursors anywhere. One grants two pages on a boundary of two and bytes on a
boundary of 16; the other, with one byte more between its cursors, grants a page and fewer bytes. -/
theorem isGranted_of_noGreater_across_the_top :
    let a : Arena := { page := .fourKib, byteCursor := 0xFFFFFFFFFFFFF001, pageCursor := 0x1001 }
    let b : Arena := { page := .fourKib, start := 7, byteCursor := 0x5000, pageCursor := 0x7001 }
    (b.page = a.page ∧ 2 ≤ a.page.bytes.toNat ∧ a.gap ≤ b.gap) ∧
      ((a.perform (.allocPages 2 8192)).answer.isGranted = true ∧
        (b.perform (.allocPages 1 4096)).answer.isGranted = true) ∧
      (a.perform (.alloc { size := 8177, align := 16 })).answer.isGranted = true ∧
        (b.perform (.alloc { size := 8176, align := 1 })).answer.isGranted = true := by
  intro a b
  have hpage : b.page = a.page := rfl
  have htwo : 2 ≤ a.page.bytes.toNat := by decide
  have hgap : a.gap ≤ b.gap := by decide
  have hpages : (a.perform (.allocPages 2 8192)).answer.isGranted = true := by decide
  have hbytes : (a.perform (.alloc { size := 8177, align := 16 })).answer.isGranted = true := by
    decide
  refine ⟨⟨hpage, htwo, hgap⟩, ⟨hpages, ?_⟩, hbytes, ?_⟩
  · exact isGranted_of_noGreater hpage htwo hgap
      (.allocPages (by decide) (by decide) (by decide) (by decide)) hpages
  · exact isGranted_of_noGreater hpage htwo hgap
      (.alloc (by decide) (by decide) (by decide)) hbytes

end Arena

end EarlyMemory
