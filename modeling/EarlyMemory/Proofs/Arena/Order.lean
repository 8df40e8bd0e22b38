import EarlyMemory.Proofs.Arena.Step

/-!
# The order of the cursors

Nothing bounds the region of an arena, which may reach over the top of the address space, so the
cursors are compared by their distance from the start: `offset`. `Ordered` is the invariant: the
bounds and the page cursor are whole pages, and the byte cursor, the page cursor and the stop lie
in this order. Opening establishes it for every region (`ordered_around`), and both moves keep it
because what is taken is within the gap. Every history of every arena keeps it
(`Ordered.performAll`), also when it never opens the arena or opens it many times.
-/

namespace EarlyMemory

/-! ## Distances between words -/

namespace Word

variable {x y w : Word}

/-- A step up moves the distance as far, unless the distance wraps. -/
lemma toNat_add_sub_of_lt (h : (x - y).toNat + w.toNat < 2 ^ 64) :
    (x + w - y).toNat = (x - y).toNat + w.toNat := by
  have hcomm : x + w - y = (x - y) + w := by grind
  rw [hcomm, UInt64.toNat_add, Nat.mod_eq_of_lt h]

/-- A step down moves the distance as far, unless it passes zero. -/
lemma toNat_sub_sub_of_le (h : w.toNat ≤ (x - y).toNat) :
    (x - w - y).toNat = (x - y).toNat - w.toNat := by
  have hcomm : x - w - y = (x - y) - w := by grind
  rw [hcomm, UInt64.toNat_sub_of_le _ _ (UInt64.le_iff_toNat_le.2 h)]

/-- The distance between two words, from their distances to a third. -/
lemma toNat_sub_of_distance_le (h : (x - w).toNat ≤ (y - w).toNat) :
    (y - x).toNat = (y - w).toNat - (x - w).toNat := by
  have hcomm : y - x = (y - w) - (x - w) := by grind
  rw [hcomm, UInt64.toNat_sub_of_le _ _ (UInt64.le_iff_toNat_le.2 h)]

/-- The distance between two multiples of a unit is one as well, also when it wraps. -/
lemma dvd_toNat_sub {unit : ℕ} (hword : unit ∣ 2 ^ 64) (hx : unit ∣ x.toNat)
    (hy : unit ∣ y.toNat) : unit ∣ (x - y).toNat := by
  rw [UInt64.toNat_sub, Nat.dvd_mod_iff hword]
  exact Nat.dvd_add (Nat.dvd_sub hword hy) hx

/-- A word lies its distance above another, but for the wrap. -/
lemma toNat_eq_add_mod (x y : Word) : x.toNat = (y.toNat + (x - y).toNat) % 2 ^ 64 := by
  have hcomm : x = y + (x - y) := by grind
  rw [← UInt64.toNat_add, ← hcomm]

end Word

namespace Arena

variable {a : Arena}

/-! ## Offsets -/

/-- How far an address lies above the start of the region, modulo `2 ^ 64`. -/
def offset (a : Arena) (addr : Word) : ℕ := (addr - a.start).toNat

lemma offset_lt (a : Arena) (addr : Word) : a.offset addr < 2 ^ 64 := (addr - a.start).toNat_lt

/-- The distance between two addresses is that of their offsets. -/
lemma toNat_sub_of_offset_le (a : Arena) {x y : Word} (h : a.offset x ≤ a.offset y) :
    (y - x).toNat = a.offset y - a.offset x :=
  Word.toNat_sub_of_distance_le h

/-- The order of the cursors, with the page boundaries that it rests on. -/
structure Ordered (a : Arena) : Prop where
  dvd_start : a.page.bytes.toNat ∣ a.start.toNat
  dvd_stop : a.page.bytes.toNat ∣ a.stop.toNat
  dvd_pageCursor : a.page.bytes.toNat ∣ a.pageCursor.toNat
  byteCursor_le : a.offset a.byteCursor ≤ a.offset a.pageCursor
  pageCursor_le : a.offset a.pageCursor ≤ a.offset a.stop

/-- The gap is what lies between the cursors. -/
lemma Ordered.toNat_gap (h : a.Ordered) :
    a.gap.toNat = a.offset a.pageCursor - a.offset a.byteCursor :=
  a.toNat_sub_of_offset_le h.byteCursor_le

/-! ## Opening -/

@[simp] lemma offset_start (a : Arena) : a.offset a.start = 0 := by
  rw [offset, UInt64.sub_self]
  rfl

/-- The start of the region, rounded down to a page. -/
lemma toNat_start_around (a : Arena) (r : Region) :
    (a.around r).start.toNat = a.page.bytes.toNat * (r.start.toNat / a.page.bytes.toNat) :=
  Word.toNat_alignDown _ a.page.isPowerOfTwo_bytes

/-- The end of the region, rounded up to a page. The sum and its rounding wrap as one number. -/
lemma toNat_stop_around (a : Arena) (r : Region) :
    (a.around r).stop.toNat =
      roundUp (r.start.toNat + r.size.toNat) a.page.bytes.toNat % 2 ^ 64 := by
  show (r.stop.alignUp a.page.bytes).toNat = _
  rw [Word.toNat_alignUp _ a.page.isPowerOfTwo_bytes, Region.stop, UInt64.toNat_add,
    roundUp_mod_mod _ a.page.toNat_bytes_pos a.page.dvd_two_pow]

/-- The size of the managed region, from the bounds of the cover. -/
lemma offset_stop_around (a : Arena) (r : Region) :
    (a.around r).offset (a.around r).stop =
      (roundUp (r.start.toNat + r.size.toNat) a.page.bytes.toNat -
        a.page.bytes.toNat * (r.start.toNat / a.page.bytes.toNat)) % 2 ^ 64 := by
  have hlow := Nat.mul_div_le r.start.toNat a.page.bytes.toNat
  have hhigh := le_roundUp (r.start.toNat + r.size.toNat) a.page.toNat_bytes_pos
  have hstart := r.start.toNat_lt
  -- the start is at most where the region begins, so only the stop can have wrapped
  rw [offset, UInt64.toNat_sub, toNat_start_around, toNat_stop_around]
  omega

/-- Every region opens in order, whatever the arena was before. -/
lemma ordered_around (a : Arena) (r : Region) : (a.around r).Ordered where
  dvd_start := a.page.dvd_alignDown _
  dvd_stop := a.page.dvd_alignUp _
  dvd_pageCursor := a.page.dvd_alignUp _
  byteCursor_le := by
    have hstart : (a.around r).offset (a.around r).byteCursor = 0 := offset_start (a.around r)
    rw [hstart]
    exact Nat.zero_le _
  pageCursor_le := le_rfl

/-! ## Taking bytes -/

/-- Bytes within the gap move the byte cursor by their number. -/
lemma offset_byteCursor_takeBytes (h : a.Ordered) {taken : Word}
    (htaken : taken.toNat ≤ a.gap.toNat) :
    (a.takeBytes taken).offset (a.takeBytes taken).byteCursor =
      a.offset a.byteCursor + taken.toNat := by
  have hgap := h.toNat_gap
  have hlt := a.offset_lt a.pageCursor
  have hle := h.byteCursor_le
  apply Word.toNat_add_sub_of_lt
  show a.offset a.byteCursor + taken.toNat < 2 ^ 64
  omega

lemma ordered_takeBytes (h : a.Ordered) {taken : Word} (htaken : taken.toNat ≤ a.gap.toNat) :
    (a.takeBytes taken).Ordered where
  dvd_start := h.dvd_start
  dvd_stop := h.dvd_stop
  dvd_pageCursor := h.dvd_pageCursor
  byteCursor_le := by
    have hgap := h.toNat_gap
    have hle := h.byteCursor_le
    rw [offset_byteCursor_takeBytes h htaken]
    show _ ≤ a.offset a.pageCursor
    omega
  pageCursor_le := h.pageCursor_le

/-! ## Taking pages -/

/-- Pages within the gap move the page cursor by their bytes. -/
lemma offset_pageCursor_takePages (h : a.Ordered) {count : Word}
    (hcount : count.toNat * a.page.bytes.toNat ≤ a.gap.toNat) :
    (a.takePages count).offset (a.takePages count).pageCursor =
      a.offset a.pageCursor - count.toNat * a.page.bytes.toNat := by
  have hgap := h.toNat_gap
  have hmul := toNat_count_mul hcount
  rw [← hmul]
  apply Word.toNat_sub_sub_of_le
  show _ ≤ a.offset a.pageCursor
  omega

/-- Whole pages leave the page cursor on a page boundary, also across the wrap. -/
lemma dvd_pageCursor_takePages (h : a.Ordered) (count : Word) :
    a.page.bytes.toNat ∣ (a.takePages count).pageCursor.toNat := by
  have hmul : a.page.bytes.toNat ∣ (count * a.page.bytes).toNat := by
    rw [UInt64.toNat_mul]
    exact (Nat.dvd_mod_iff a.page.dvd_two_pow).2 (Dvd.intro_left _ rfl)
  exact Word.dvd_toNat_sub a.page.dvd_two_pow h.dvd_pageCursor hmul

lemma ordered_takePages (h : a.Ordered) {count : Word}
    (hcount : count.toNat * a.page.bytes.toNat ≤ a.gap.toNat) : (a.takePages count).Ordered where
  dvd_start := h.dvd_start
  dvd_stop := h.dvd_stop
  dvd_pageCursor := dvd_pageCursor_takePages h count
  byteCursor_le := by
    have hgap := h.toNat_gap
    rw [offset_pageCursor_takePages h hcount]
    show a.offset a.byteCursor ≤ _
    have hle := h.byteCursor_le
    omega
  pageCursor_le := by
    rw [offset_pageCursor_takePages h hcount]
    show _ ≤ a.offset a.stop
    have hle := h.pageCursor_le
    omega

/-! ## Runs -/

/-- An arena that was never opened is empty, and in order. -/
lemma ordered_unopened (page : PageSize) (config : Config) :
    ({ page, config } : Arena).Ordered where
  dvd_start := Nat.dvd_zero _
  dvd_stop := Nat.dvd_zero _
  dvd_pageCursor := Nat.dvd_zero _
  byteCursor_le := le_rfl
  pageCursor_le := le_rfl

/-- Every step keeps the order. -/
lemma Ordered.step {a' : Arena} {c : Call} {g : Option Grant} (h : a.Ordered)
    (hstep : a.Step c g a') : a'.Ordered := by
  cases hstep with
  | opened r => exact ordered_around a r
  | bytes l taken hadmitted =>
    exact ordered_takeBytes h (toNat_of_admitBytes_eq_ok hadmitted).2.1
  | pages count align taken hadmitted =>
    exact ordered_takePages h (toNat_mul_le_gap_of_admitPages_eq_ok hadmitted)
  | configured config => exact ⟨h.dvd_start, h.dvd_stop, h.dvd_pageCursor, h.byteCursor_le,
      h.pageCursor_le⟩
  | kept c hc => exact h

/-- Every run keeps the order. -/
lemma Ordered.performAll (h : a.Ordered) (calls : List Call) : (a.performAll calls).Ordered :=
  performAll_induction (fun hstep ha => ha.step hstep) h calls

/-- Where the bounds do not wrap, no address of the region lies above the wrap. -/
lemma toNat_eq_start_add_offset (hstop : a.start ≤ a.stop) {addr : Word}
    (hle : a.offset addr ≤ a.offset a.stop) : addr.toNat = a.start.toNat + a.offset addr := by
  have hsize : a.offset a.stop = a.stop.toNat - a.start.toNat := UInt64.toNat_sub_of_le _ _ hstop
  have hstop64 := a.stop.toNat_lt
  have hmod := Word.toNat_eq_add_mod addr a.start
  rw [UInt64.le_iff_toNat_le] at hstop
  rw [← offset] at hmod
  rwa [Nat.mod_eq_of_lt (by omega)] at hmod

/-- Where the bounds do not wrap, the order of the offsets is that of the addresses. -/
lemma Ordered.le_of_start_le_stop (h : a.Ordered) (hstop : a.start ≤ a.stop) :
    a.start ≤ a.byteCursor ∧ a.byteCursor ≤ a.pageCursor ∧ a.pageCursor ≤ a.stop := by
  have hbyte := h.byteCursor_le
  have hpage := h.pageCursor_le
  simp only [UInt64.le_iff_toNat_le]
  rw [toNat_eq_start_add_offset hstop (hbyte.trans hpage), toNat_eq_start_add_offset hstop hpage,
    toNat_eq_start_add_offset hstop le_rfl]
  omega

/-- Every history of an arena leaves its bounds and its page cursor on page boundaries and its
cursors in order, counted from the start. Where the bounds do not wrap, the addresses themselves
are in order. -/
theorem ordered_of_history (page : PageSize) (config : Config) (calls : List Call) :
    let a := ({ page, config } : Arena).performAll calls
    a.page = page ∧ a.Ordered ∧
      (a.start ≤ a.stop →
        a.start ≤ a.byteCursor ∧ a.byteCursor ≤ a.pageCursor ∧ a.pageCursor ≤ a.stop) := by
  intro a
  have hordered : a.Ordered := (ordered_unopened page config).performAll calls
  exact ⟨page_performAll _ calls, hordered, hordered.le_of_start_le_stop⟩

end Arena

end EarlyMemory
