import EarlyMemory.Proofs.Arena.Opening
import EarlyMemory.Proofs.Boot.Course
import EarlyMemory.Proofs.Boot.Options

/-!
# How a start comes out

A start fails before it has an arena, if its region is uneven or the host does not lend so much, or
it carries out its plan over the region. There the gap is the whole region, so the first block that
is too large for what is left decides. `Options.failure?` says in numbers which one that is, and
`failure_start` that the start comes to just this.
-/

namespace EarlyMemory.Boot

/-! ## The size of the region -/

/-- The number of bytes in the region, as the word that it is. -/
lemma Options.toNat_regionBytes (o : Options) :
    o.regionBytes.toNat = o.regionKib.toNat * 1024 % 2 ^ 64 :=
  UInt64.toNat_mul _ _

/-- The bytes are whole pages exactly if the kibibytes are, also when the product has wrapped. -/
lemma Options.dvd_regionBytes_iff (o : Options) :
    4096 ∣ o.regionBytes.toNat ↔ 4 ∣ o.regionKib.toNat := by
  rw [o.toNat_regionBytes]
  omega

/-! ## Opening -/

/-- A start before it has a region. -/
def idle (o : Options) : Course := { arena := { page, config := { traceGrants := o.trace } } }

/-- A start whose arena has just been opened over what the host lends. -/
def opened (host : Host) (o : Options) : Course :=
  (idle o).follow ((idle o).arena.init { start := host.base, size := o.regionBytes })

/-- The three ways that a start can take. -/
lemma start_eq (host : Host) (o : Options) :
    start host o =
      if 4 ∣ o.regionKib.toNat then
        if host.limit < o.regionBytes then (idle o).fail (.noRegion o.regionBytes)
        else (opened host o).run (plan o.stackPages)
      else (idle o).fail (.unevenRegion o.regionKib) := by
  have heven : (o.regionBytes % page.bytes != 0) = !decide (4 ∣ o.regionKib.toNat) := by
    have hzero : (0 : Word).toNat = 0 := rfl
    have hpage : page.bytes.toNat = 4096 := rfl
    rw [Bool.eq_iff_iff, bne_iff_ne, Bool.not_eq_true', decide_eq_false_iff_not, Ne,
      ← UInt64.toNat_inj, UInt64.toNat_mod, hzero, hpage, ← Nat.dvd_iff_mod_eq_zero,
      o.dvd_regionBytes_iff]
  unfold start
  rw [heven]
  by_cases hkib : 4 ∣ o.regionKib.toNat
  · rw [if_pos hkib, decide_eq_true hkib]
    by_cases hlimit : host.limit < o.regionBytes
    · have hnone : host.reserve? o.regionBytes = none := if_neg (UInt64.not_le.2 hlimit)
      rw [if_pos hlimit, hnone]
      rfl
    · have hsome : host.reserve? o.regionBytes =
          some { start := host.base, size := o.regionBytes } := if_pos (UInt64.not_lt.1 hlimit)
      rw [if_neg hlimit, hsome]
      rfl
  · rw [if_neg hkib, decide_eq_false hkib]
    rfl

/-- A region that the host of the rehearsal lends. -/
structure Options.Lent (o : Options) : Prop where
  dvd_regionKib : 4 ∣ o.regionKib.toNat
  regionBytes_le : o.regionBytes.toNat ≤ 67108864

lemma limit_lt_iff (o : Options) :
    Host.rehearsal.limit < o.regionBytes ↔ 67108864 < o.regionBytes.toNat :=
  UInt64.lt_iff_toNat_lt

lemma start_of_lent {o : Options} (h : o.Lent) :
    start .rehearsal o = (opened .rehearsal o).run (plan o.stackPages) := by
  rw [start_eq, if_pos h.dvd_regionKib, if_neg]
  rw [limit_lt_iff]
  exact Nat.not_lt.2 h.regionBytes_le

lemma start_of_not_lent {o : Options} (h : ¬ o.Lent) :
    ∃ f, start .rehearsal o = (idle o).fail f := by
  by_cases hkib : 4 ∣ o.regionKib.toNat
  · have hlimit : 67108864 < o.regionBytes.toNat := by
      by_contra hle
      exact h ⟨hkib, Nat.le_of_not_lt hle⟩
    exact ⟨_, by rw [start_eq, if_pos hkib, if_pos ((limit_lt_iff o).2 hlimit)]⟩
  · exact ⟨_, by rw [start_eq, if_neg hkib]⟩

lemma lent_of_success {o : Options} (h : (start .rehearsal o).failure = none) : o.Lent := by
  by_contra hnot
  obtain ⟨f, hf⟩ := start_of_not_lent hnot
  rw [hf] at h
  cases h

/-- The region that the host lends is managed as it is: it begins and ends on a page. -/
lemma toNat_cursors_opened {o : Options} (h : o.Lent) :
    (opened .rehearsal o).arena.byteCursor.toNat = 2 ^ 44 ∧
      (opened .rehearsal o).arena.pageCursor.toNat = 2 ^ 44 + o.regionBytes.toNat := by
  have hbase : Host.rehearsal.base.toNat = 2 ^ 44 := rfl
  have hpage : (idle o).arena.page.bytes.toNat = 4096 := rfl
  have hdvd : (idle o).arena.page.bytes.toNat ∣ Host.rehearsal.base.toNat := by
    rw [hpage, hbase]
    decide
  have hlt : Host.rehearsal.base.toNat + o.regionBytes.toNat < 2 ^ 64 := by
    have hbytes := h.regionBytes_le
    omega
  obtain ⟨hstart, hstop, -⟩ :=
    ((idle o).arena.around_eq_region_iff { start := Host.rehearsal.base, size := o.regionBytes }).2
      ⟨hdvd, o.dvd_regionBytes_iff.2 h.dvd_regionKib, hlt⟩
  exact ⟨congrArg UInt64.toNat hstart, hstop⟩

/-- The gap of the new arena is the whole region. -/
lemma toNat_gap_opened {o : Options} (h : o.Lent) :
    (opened .rehearsal o).arena.gap.toNat = o.regionBytes.toNat := by
  obtain ⟨hbyte, hpage⟩ := toNat_cursors_opened h
  rw [Arena.gap, UInt64.toNat_sub_of_le _ _ (UInt64.le_iff_toNat_le.2 (by omega))]
  omega

/-- A plan asks for no empty block unless the stack has no pages. -/
lemma occupies_of_mem_plan {stackPages : Word} (h : stackPages ≠ 0) (item : Item)
    (hitem : .obtain item ∈ plan stackPages) : item.Occupies := by
  simp only [plan, List.mem_cons, reduceCtorEq, Action.obtain.injEq, List.not_mem_nil, false_or,
    or_false] at hitem
  rcases hitem with rfl | rfl | rfl | rfl
  · decide
  · decide
  · decide
  · exact fun hstack => h (Item.stack.inj hstack)

/-- A start over a region that the host lends carries out its plan. -/
lemma run_opened {o : Options} (hstack : o.stackPages ≠ 0) :
    (opened .rehearsal o).Run (plan o.stackPages)
      ((opened .rehearsal o).run (plan o.stackPages)) :=
  Course.run_spec rfl rfl (occupies_of_mem_plan hstack)

/-! ## The outcome in numbers -/

/-- What a start with these options fails at, if it does: the region has to be whole pages, no more
than the host lends, and hold a page for the records, the root table and the stack. -/
def Options.failure? (o : Options) : Option Failure :=
  let bytes := o.regionKib.toNat * 1024 % 2 ^ 64
  let pages := bytes / 4096
  if 4 ∣ o.regionKib.toNat then
    if 67108864 < bytes then some (.noRegion o.regionBytes)
    else if bytes = 0 then some (.refused .info .noMemory)
    else if pages = 1 then some (.refused .rootTable .noMemory)
    else if pages - 2 < o.stackPages.toNat then some (.refused (.stack o.stackPages) .noMemory)
    else none
  else some (.unevenRegion o.regionKib)

/-- A region of whole pages has room for both records as soon as it has a page. -/
lemma shortItem?_plan {bytes : ℕ} (heven : 4096 ∣ bytes) (stackPages : Word) :
    Course.shortItem? bytes (plan stackPages) =
      if bytes = 0 then some .info
      else if bytes / 4096 = 1 then some .rootTable
      else if bytes / 4096 - 2 < stackPages.toNat then some (.stack stackPages)
      else none := by
  obtain ⟨pages, rfl⟩ := heven
  have hstack (need : ℕ) : 4096 * pages - 16 - 384 - 4096 < need * 4096 ↔ pages - 2 < need := by
    omega
  rw [Nat.mul_div_cancel_left pages (by decide)]
  change (if 4096 * pages < 16 then some Item.info
    else if 4096 * pages - 16 < 384 then some .memoryMap
    else if 4096 * pages - 16 - 384 < 4096 then some .rootTable
    else if 4096 * pages - 16 - 384 - 4096 < stackPages.toNat * 4096 then some (.stack stackPages)
    else none) = _
  by_cases hzero : pages = 0
  · rw [if_pos (show 4096 * pages < 16 by omega), if_pos (show 4096 * pages = 0 by omega)]
  · rw [if_neg (show ¬ 4096 * pages < 16 by omega),
      if_neg (show ¬ 4096 * pages - 16 < 384 by omega), if_neg (show ¬ 4096 * pages = 0 by omega)]
    have hroot : 4096 * pages - 16 - 384 < 4096 ↔ pages = 1 := by omega
    by_cases hone : pages = 1
    · rw [if_pos (hroot.2 hone), if_pos hone]
    · rw [if_neg (mt hroot.1 hone), if_neg hone, if_congr (hstack _) rfl rfl]

/-- A start comes to what its numbers say. -/
theorem failure_start {o : Options} (hstack : o.stackPages ≠ 0) :
    (start .rehearsal o).failure = o.failure? := by
  unfold Options.failure?
  rw [← o.toNat_regionBytes]
  by_cases hkib : 4 ∣ o.regionKib.toNat
  · rw [if_pos hkib]
    by_cases hlimit : 67108864 < o.regionBytes.toNat
    · rw [start_eq, if_pos hkib, if_pos ((limit_lt_iff o).2 hlimit)]
      simp only [if_pos hlimit]
      rfl
    · have hlent : o.Lent := ⟨hkib, Nat.le_of_not_lt hlimit⟩
      rw [start_of_lent hlent, (run_opened hstack).failure_eq rfl, toNat_gap_opened hlent,
        shortItem?_plan (o.dvd_regionBytes_iff.2 hkib)]
      simp only [if_neg hlimit]
      split_ifs <;> rfl
  · rw [if_neg hkib, start_eq, if_neg hkib]
    rfl

/-! ## The last word -/

/-- A start that fails says so last. -/
lemma notices_start_of_some {o : Options} (hstack : o.stackPages ≠ 0) {f : Failure}
    (hf : (start .rehearsal o).failure = some f) :
    ∃ earlier, (start .rehearsal o).notices = earlier ++ [.failed f] := by
  by_cases hlent : o.Lent
  · rw [start_of_lent hlent] at hf ⊢
    exact (run_opened hstack).notices_of_failure rfl hf
  · obtain ⟨g, hg⟩ := start_of_not_lent hlent
    rw [hg] at hf ⊢
    obtain rfl := Option.some.inj hf
    exact ⟨[], rfl⟩

end EarlyMemory.Boot
