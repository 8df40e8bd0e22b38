import EarlyMemory.Proofs.Arena.Order

/-!
# The ledger of an arena

An allocator with no words in it: a capacity and two counters, all natural numbers. A request
needs the least multiple of its alignment that covers it, and is granted if what is taken already
leaves that much of the capacity. There is no mask, no wrap and no second test.

`Describes` relates a ledger to the arena that it stands for. Opening establishes it for every
region (`describes_around`), one call keeps it with the same answer on both sides
(`Describes.perform`), and so do all runs (`Describes.run`). Pages have at least two bytes there:
with pages of one byte an arena rounds its counts modulo `2 ^ 64`, which the ledger does not.
-/

namespace EarlyMemory

/-- What an arena has given out of its region, in bytes. -/
structure Ledger where
  page : PageSize
  /-- The address of the region. -/
  base : ℕ
  /-- The size of the region. -/
  capacity : ℕ
  /-- The bytes taken by byte requests, from the low end. -/
  low : ℕ := 0
  /-- The bytes taken by page requests, from the high end. -/
  high : ℕ := 0

namespace Ledger

/-! ## Requests -/

/-- A byte request: refused as invalid if its padded size is no size, refused for want of room,
or granted above the bytes taken before. -/
def allocBytes (g : Ledger) (size align : ℕ) : Outcome × Ledger :=
  if align.isPowerOfTwo ∧ roundUp size align < 2 ^ 64 then
    if g.capacity < g.low + g.high + roundUp size align then (.refused .noMemory, g)
    else (.granted (.ofNat (g.base + g.low)), { g with low := g.low + roundUp size align })
  else (.refused .invalidParam, g)

/-- A page request: refused as invalid, refused for want of room, or granted below the pages
taken before. -/
def allocPages (g : Ledger) (count align : ℕ) : Outcome × Ledger :=
  if g.page.IsAlignment align ∧ count ≠ 0 then
    let taken := roundUp (count * g.page.bytes.toNat) align
    if g.capacity < g.low + g.high + taken then (.refused .noMemory, g)
    else
      (.granted (.ofNat (g.base + g.capacity - (g.high + taken))),
        { g with high := g.high + taken })
  else (.refused .invalidParam, g)

/-! ## Runs -/

/-- The ledger over the whole pages around a region. -/
def around (page : PageSize) (r : Region) : Ledger :=
  let base := page.bytes.toNat * (r.start.toNat / page.bytes.toNat)
  { page
    base
    capacity := (roundUp (r.start.toNat + r.size.toNat) page.bytes.toNat - base) % 2 ^ 64 }

/-- What nobody has taken. -/
def unusedRegion (g : Ledger) : Region where
  start := .ofNat (g.base + g.low)
  size := .ofNat (g.capacity - g.high - g.low)

/-- Answers a call. -/
def perform (g : Ledger) : Arena.Call → Arena.Answer × Ledger
  | .init r => (.nothing, around g.page r)
  | .addMemory _ => (.status .unsupported, g)
  | .alloc l =>
    let (outcome, after) := g.allocBytes l.size.toNat l.align.toNat
    (.outcome outcome, after)
  | .allocPages count align =>
    let (outcome, after) := g.allocPages count.toNat align.toNat
    (.outcome outcome, after)
  | .release _ _ => (.nothing, g)
  | .unusedRegion => (.region g.unusedRegion, g)
  | .contains addr =>
    (.member (g.base ≤ addr.toNat && addr.toNat < (g.base + g.capacity) % 2 ^ 64), g)
  | .setConfig config => (.config config, g)
  | .report _ => (.nothing, g)
  | .observe => (.nothing, g)

/-- The ledger after a history of calls. -/
def performAll (g : Ledger) (calls : List Arena.Call) : Ledger :=
  calls.foldl (fun g c => (g.perform c).2) g

/-- The answers to a history of calls. -/
def answers (g : Ledger) : List Arena.Call → List Arena.Answer
  | [] => []
  | c :: cs => (g.perform c).1 :: (g.perform c).2.answers cs

@[simp] lemma performAll_cons (g : Ledger) (c : Arena.Call) (cs : List Arena.Call) :
    g.performAll (c :: cs) = (g.perform c).2.performAll cs := rfl

/-! ## The arena that a ledger stands for -/

/-- The ledger and the arena agree on the region and on both cursors. -/
structure Describes (g : Ledger) (a : Arena) : Prop where
  ordered : a.Ordered
  page_eq : a.page = g.page
  start_eq : a.start.toNat = g.base
  stop_eq : a.offset a.stop = g.capacity
  byteCursor_eq : a.offset a.byteCursor = g.low
  pageCursor_eq : a.offset a.pageCursor + g.high = g.capacity

/-- What an arena reports, as a ledger has it. -/
structure Counts (g : Ledger) (a : Arena) : Prop where
  taken_le : g.low + g.high ≤ g.capacity
  bytes_total : a.bytes.total.toNat = g.capacity - g.high
  bytes_used : a.bytes.used.toNat = g.low
  bytes_available : a.bytes.available.toNat = g.capacity - g.high - g.low
  pages_total : a.pages.total.toNat = (g.capacity - g.low) / g.page.bytes.toNat
  pages_used : a.pages.used.toNat = g.high / g.page.bytes.toNat
  pages_available : a.pages.available.toNat =
    (g.capacity - g.low) / g.page.bytes.toNat - g.high / g.page.bytes.toNat
  byteCursor_eq : a.byteCursor = .ofNat (g.base + g.low)
  pageCursor_eq : a.pageCursor = .ofNat (g.base + g.capacity - g.high)
  unusedRegion_eq : a.unusedRegion = g.unusedRegion

variable {g : Ledger} {a : Arena}

/-- An address is given by its offset. -/
lemma eq_ofNat_of_offset_eq {addr : Word} {n : ℕ} (h : g.Describes a) (hn : a.offset addr = n) :
    addr = .ofNat (g.base + n) := by
  have hmod := Word.toNat_eq_add_mod addr a.start
  rw [← Arena.offset, hn, h.start_eq] at hmod
  rw [← UInt64.toNat_inj, UInt64.toNat_ofNat', hmod]

lemma Describes.taken_le (h : g.Describes a) : g.low + g.high ≤ g.capacity := by
  have hle := h.ordered.byteCursor_le
  have hpage := h.pageCursor_eq
  rw [h.byteCursor_eq] at hle
  omega

lemma Describes.toNat_gap (h : g.Describes a) :
    a.gap.toNat = g.capacity - g.high - g.low := by
  have hpage := h.pageCursor_eq
  rw [h.ordered.toNat_gap, h.byteCursor_eq]
  omega

/-- The room test on the gap is the test on the capacity. -/
lemma Describes.gap_lt_iff (h : g.Describes a) (taken : ℕ) :
    a.gap.toNat < taken ↔ g.capacity < g.low + g.high + taken := by
  have hle := h.taken_le
  rw [h.toNat_gap]
  omega

lemma Describes.unusedRegion_eq (h : g.Describes a) : a.unusedRegion = g.unusedRegion := by
  have hsize : a.gap = .ofNat (g.capacity - g.high - g.low) := by
    rw [← h.toNat_gap, UInt64.ofNat_toNat]
  show Region.mk a.byteCursor a.gap = _
  rw [unusedRegion, eq_ofNat_of_offset_eq h h.byteCursor_eq, hsize]

/-- A ledger counts what the arena that it describes reports. -/
lemma Describes.counts (h : g.Describes a) : g.Counts a := by
  have hle := h.taken_le
  have hpage := h.pageCursor_eq
  have hbytes := h.byteCursor_eq
  have hstop := h.stop_eq
  have htotal : (a.stop - a.byteCursor).toNat = g.capacity - g.low := by
    rw [a.toNat_sub_of_offset_le (by omega), hstop, hbytes]
  have hused : (a.stop - a.pageCursor).toNat = g.high := by
    rw [a.toNat_sub_of_offset_le (by omega), hstop]
    omega
  -- the bytes of the taken pages are part of what the byte cursor leaves: no borrow below
  have hpages : g.high / g.page.bytes.toNat ≤ (g.capacity - g.low) / g.page.bytes.toNat :=
    Nat.div_le_div_right (by omega)
  have havailable : a.pages.used ≤ a.pages.total := by
    rw [UInt64.le_iff_toNat_le, Arena.pages, UInt64.toNat_div, UInt64.toNat_div, htotal, hused,
      h.page_eq]
    exact hpages
  exact
    { taken_le := hle
      bytes_total := by
        show a.offset a.pageCursor = _
        omega
      bytes_used := hbytes
      bytes_available := by rw [a.available_bytes, h.toNat_gap]
      pages_total := by rw [Arena.pages, UInt64.toNat_div, htotal, h.page_eq]
      pages_used := by rw [Arena.pages, UInt64.toNat_div, hused, h.page_eq]
      pages_available := by
        show (a.pages.total - a.pages.used).toNat = _
        rw [UInt64.toNat_sub_of_le _ _ havailable, Arena.pages, UInt64.toNat_div, UInt64.toNat_div,
          htotal, hused, h.page_eq]
      byteCursor_eq := eq_ofNat_of_offset_eq h hbytes
      pageCursor_eq := by
        have hcursor : a.offset a.pageCursor = g.capacity - g.high := by omega
        rw [Nat.add_sub_assoc (by omega)]
        exact eq_ofNat_of_offset_eq h hcursor
      unusedRegion_eq := h.unusedRegion_eq }

/-! ## Opening -/

/-- Opening an arena opens the ledger over the same pages, with nothing taken. -/
lemma describes_around (a : Arena) (r : Region) : (around a.page r).Describes (a.around r) where
  ordered := a.ordered_around r
  page_eq := rfl
  start_eq := a.toNat_start_around r
  stop_eq := a.offset_stop_around r
  byteCursor_eq := (a.around r).offset_start
  pageCursor_eq := a.offset_stop_around r

/-! ## One call -/

/-- Bytes within the gap are entered at the low end. -/
lemma Describes.takeBytes (h : g.Describes a) {taken : Word} (htaken : taken.toNat ≤ a.gap.toNat) :
    { g with low := g.low + taken.toNat }.Describes (a.takeBytes taken) where
  ordered := Arena.ordered_takeBytes h.ordered htaken
  page_eq := h.page_eq
  start_eq := h.start_eq
  stop_eq := h.stop_eq
  byteCursor_eq := by rw [Arena.offset_byteCursor_takeBytes h.ordered htaken, h.byteCursor_eq]
  pageCursor_eq := h.pageCursor_eq

/-- Pages within the gap are entered at the high end. -/
lemma Describes.takePages (h : g.Describes a) {count : Word}
    (hcount : count.toNat * a.page.bytes.toNat ≤ a.gap.toNat) :
    { g with high := g.high + count.toNat * a.page.bytes.toNat }.Describes
      (a.takePages count) where
  ordered := Arena.ordered_takePages h.ordered hcount
  page_eq := h.page_eq
  start_eq := h.start_eq
  stop_eq := h.stop_eq
  byteCursor_eq := h.byteCursor_eq
  pageCursor_eq := by
    have hpage := h.pageCursor_eq
    have hle := h.taken_le
    have hgap := h.toNat_gap
    rw [Arena.offset_pageCursor_takePages h.ordered hcount]
    show _ + (g.high + _) = g.capacity
    omega

/-- A byte request has the same outcome in both, and leaves them in agreement. -/
lemma Describes.alloc (h : g.Describes a) (l : Layout) :
    (a.alloc l).answer = (g.allocBytes l.size.toNat l.align.toNat).1 ∧
      (g.allocBytes l.size.toNat l.align.toNat).2.Describes (a.alloc l).arena := by
  unfold Arena.alloc Ledger.allocBytes
  rw [Arena.admitBytes_eq]
  by_cases hvalid : l.align.toNat.isPowerOfTwo ∧ roundUp l.size.toNat l.align.toNat < 2 ^ 64
  · rw [if_pos hvalid, if_pos hvalid]
    by_cases hroom : a.gap.toNat < roundUp l.size.toNat l.align.toNat
    · rw [if_pos hroom, if_pos ((h.gap_lt_iff _).1 hroom)]
      exact ⟨rfl, h⟩
    · rw [if_neg hroom, if_neg (fun hn => hroom ((h.gap_lt_iff _).2 hn))]
      have htaken : (UInt64.ofNat (roundUp l.size.toNat l.align.toNat)).toNat =
          roundUp l.size.toNat l.align.toNat := by
        rw [UInt64.toNat_ofNat', Nat.mod_eq_of_lt hvalid.2]
      refine ⟨?_, ?_⟩
      · show Outcome.granted a.byteCursor = _
        rw [eq_ofNat_of_offset_eq h h.byteCursor_eq]
      · have hafter := h.takeBytes (htaken.trans_le (Nat.le_of_not_lt hroom))
        rwa [htaken] at hafter
  · rw [if_neg hvalid, if_neg hvalid]
    exact ⟨rfl, h⟩

/-- A page request has the same outcome in both, and leaves them in agreement. -/
lemma Describes.allocPages (h : g.Describes a) (hpage : 2 ≤ g.page.bytes.toNat)
    (count align : Word) :
    (a.allocPages count align).answer = (g.allocPages count.toNat align.toNat).1 ∧
      (g.allocPages count.toNat align.toNat).2.Describes (a.allocPages count align).arena := by
  have hpage_a : 2 ≤ a.page.bytes.toNat := by rwa [h.page_eq]
  have hdecision := a.admitPages_eq_of_two_le hpage_a count align
  rw [h.page_eq] at hdecision
  unfold Arena.allocPages Ledger.allocPages
  by_cases hvalid : g.page.IsAlignment align.toNat ∧ count.toNat ≠ 0
  · rw [if_pos hvalid] at hdecision
    rw [if_pos hvalid]
    by_cases hroom : a.gap.toNat < roundUp (count.toNat * g.page.bytes.toNat) align.toNat
    · rw [if_pos hroom] at hdecision
      rw [hdecision, if_pos ((h.gap_lt_iff _).1 hroom)]
      exact ⟨rfl, h⟩
    · rw [if_neg hroom] at hdecision
      -- the arena counts pages, the ledger their bytes
      have htaken := (Arena.toNat_mul_of_admitPages_eq_ok hpage_a hdecision).1
      have hafter := h.takePages (Arena.toNat_mul_le_gap_of_admitPages_eq_ok hdecision)
      rw [htaken, h.page_eq] at hafter
      rw [hdecision, if_neg (fun hn => hroom ((h.gap_lt_iff _).2 hn))]
      exact ⟨congrArg Outcome.granted hafter.counts.pageCursor_eq, hafter⟩
  · rw [if_neg hvalid] at hdecision
    rw [hdecision, if_neg hvalid]
    exact ⟨rfl, h⟩

/-- Whether an address is in the region does not depend on what is taken. -/
lemma Describes.contains_eq (h : g.Describes a) (addr : Word) :
    a.contains addr =
      (g.base ≤ addr.toNat && addr.toNat < (g.base + g.capacity) % 2 ^ 64 : Bool) := by
  have hstop := Word.toNat_eq_add_mod a.stop a.start
  rw [← Arena.offset, h.stop_eq, h.start_eq] at hstop
  simp only [Arena.contains, UInt64.le_iff_toNat_le, UInt64.lt_iff_toNat_lt, h.start_eq, hstop]

/-- Every call has the same answer in both, and leaves them in agreement. -/
theorem Describes.perform (h : g.Describes a) (hpage : 2 ≤ g.page.bytes.toNat)
    (c : Arena.Call) :
    (a.perform c).answer = (g.perform c).1 ∧ (g.perform c).2.Describes (a.perform c).arena := by
  cases c with
  | init r =>
    refine ⟨rfl, ?_⟩
    show (around g.page r).Describes (a.around r)
    rw [← h.page_eq]
    exact describes_around a r
  | alloc l => exact ⟨congrArg Arena.Answer.outcome (h.alloc l).1, (h.alloc l).2⟩
  | allocPages count align =>
    exact ⟨congrArg Arena.Answer.outcome (h.allocPages hpage count align).1,
      (h.allocPages hpage count align).2⟩
  | unusedRegion => exact ⟨congrArg Arena.Answer.region h.unusedRegion_eq, h⟩
  | contains addr => exact ⟨congrArg Arena.Answer.member (h.contains_eq addr), h⟩
  | setConfig config =>
    exact ⟨rfl, h.ordered.step (.configured config), h.page_eq, h.start_eq, h.stop_eq,
      h.byteCursor_eq, h.pageCursor_eq⟩
  | addMemory r => exact ⟨rfl, h⟩
  | release addr l => exact ⟨rfl, h⟩
  | report stage => exact ⟨rfl, h⟩
  | observe => exact ⟨rfl, h⟩

/-! ## Runs -/

/-- A ledger keeps the size of its pages. -/
lemma page_perform (g : Ledger) (c : Arena.Call) : (g.perform c).2.page = g.page := by
  cases c with
  | alloc l =>
    show (g.allocBytes _ _).2.page = _
    unfold allocBytes
    split
    · split <;> rfl
    · rfl
  | allocPages count align =>
    show (g.allocPages _ _).2.page = _
    unfold allocPages
    split
    · dsimp only
      split <;> rfl
    · rfl
  | _ => rfl

/-- Every run has the same answers in both, and leaves them in agreement. -/
theorem Describes.run (h : g.Describes a) (hpage : 2 ≤ g.page.bytes.toNat)
    (calls : List Arena.Call) :
    (a.effects calls).map (·.answer) = g.answers calls ∧
      (g.performAll calls).Describes (a.performAll calls) := by
  induction calls generalizing g a with
  | nil => exact ⟨rfl, h⟩
  | cons c calls ih =>
    obtain ⟨hanswer, hafter⟩ := h.perform hpage c
    obtain ⟨hanswers, hlast⟩ := ih hafter (by rwa [page_perform])
    refine ⟨?_, hlast⟩
    show (a.perform c).answer :: _ = (g.perform c).1 :: _
    rw [hanswer, hanswers]

end Ledger

namespace Arena

/-- An arena answers every call as the ledger over its region does, after every history, and its
counters, its cursors and its unused region are those of the ledger. The ledger starts with the
distance of the bounds as its capacity and with nothing taken. -/
theorem answers_eq_ledger (a : Arena) (hpage : 2 ≤ a.page.bytes.toNat) (r : Region)
    (calls : List Call) :
    let opened := (a.perform (.init r)).arena
    let ledger := Ledger.around a.page r
    (ledger.base = opened.start.toNat ∧ ledger.capacity = (opened.stop - opened.start).toNat ∧
        ledger.low = 0 ∧ ledger.high = 0) ∧
      (opened.effects calls).map (·.answer) = ledger.answers calls ∧
      (ledger.performAll calls).Counts (opened.performAll calls) := by
  intro opened ledger
  have hopened : ledger.Describes opened := Ledger.describes_around a r
  obtain ⟨hanswers, hlast⟩ := hopened.run hpage calls
  exact ⟨⟨hopened.start_eq.symm, hopened.stop_eq.symm, rfl, rfl⟩, hanswers, hlast.counts⟩

/-- A region of five pages that reaches over the top of the address space, from the opening until
no page is left. -/
theorem answers_over_the_top :
    let opened := (({ page := .fourKib } : Arena).perform
      (.init { start := 0xFFFFFFFFFFFFE000, size := 0x5000 })).arena
    let calls : List Call :=
      [.alloc { size := 3, align := 8 }, .allocPages 1 8192, .allocPages 1 12288,
        .alloc { size := 5000, align := 1 }, .alloc { size := 8192, align := 4096 },
        .allocPages 1 4096, .allocPages 3 4096]
    2 ≤ PageSize.fourKib.bytes.toNat ∧
      (opened.effects calls).map (·.answer) =
        [.outcome (.granted 0xFFFFFFFFFFFFE000), .outcome (.granted 0x1000),
          .outcome (.refused .invalidParam), .outcome (.granted 0xFFFFFFFFFFFFE008),
          .outcome (.refused .noMemory), .outcome (.granted 0), .outcome (.refused .noMemory)] ∧
      (opened.performAll calls).pages.available.toNat = 0 := by
  intro opened calls
  obtain ⟨-, hanswers, hcounts⟩ := answers_eq_ledger { page := .fourKib } (by decide)
    { start := 0xFFFFFFFFFFFFE000, size := 0x5000 } calls
  refine ⟨by decide, ?_, ?_⟩
  · exact hanswers.trans (by decide)
  · exact hcounts.pages_available.trans (by decide)

end Arena

end EarlyMemory
