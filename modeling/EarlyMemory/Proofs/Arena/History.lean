import Mathlib.Algebra.BigOperators.Ring.List
import Mathlib.Order.Interval.Set.Basic
import EarlyMemory.Proofs.Arena.Order

/-!
# The blocks that an arena has granted

An arena remembers two cursors, not the blocks it gave out. `History` runs an arena and keeps the
blocks beside it, in the order of the grants, from the last opening on. What holds of the blocks
after every run is proved step by step (`History.performAll_induction`).

The byte blocks lie one after the other, upwards from the start, and end at the byte cursor
(`bytesAscend_performAll`); this needs nothing of the size of the pages.
-/

namespace EarlyMemory

/-! ## Where blocks lie -/

namespace Grant

/-- The offsets that a block takes. -/
def span (offset : Word → ℕ) (g : Grant) : Set ℕ :=
  Set.Ico (offset g.addr) (offset g.addr + g.length)

/-- Blocks that are padded to multiples of an alignment have such a length together. -/
lemma dvd_sum_length {align : ℕ} {gs : List Grant} (h : ∀ g ∈ gs, align ∣ g.align) :
    align ∣ (gs.map length).sum := by
  apply List.dvd_sum
  intro n hn
  obtain ⟨g, hg, rfl⟩ := List.mem_map.1 hn
  exact Nat.dvd_trans (h g hg) (dvd_roundUp g.asked g.align)

end Grant

/-- The blocks lie one after the other, from `lo` up to `hi`, in this order. -/
def Ascending (offset : Word → ℕ) : ℕ → List Grant → ℕ → Prop
  | lo, [], hi => lo = hi
  | lo, g :: gs, hi => offset g.addr = lo ∧ Ascending offset (lo + g.length) gs hi

/-- The blocks lie one after the other, from `hi` down to `lo`, in this order. -/
def Descending (offset : Word → ℕ) : ℕ → List Grant → ℕ → Prop
  | hi, [], lo => hi = lo
  | hi, g :: gs, lo => offset g.addr + g.length = hi ∧ Descending offset (offset g.addr) gs lo

section

variable {offset : Word → ℕ} {lo mid hi : ℕ} {gs : List Grant} {g : Grant}

/-- One more block at the upper end. -/
lemma Ascending.append_singleton (h : Ascending offset lo gs mid) (hg : offset g.addr = mid) :
    Ascending offset lo (gs ++ [g]) (mid + g.length) := by
  induction gs generalizing lo with
  | nil =>
    have hlo : lo = mid := h
    exact ⟨by rw [hg, hlo], by rw [hlo]; rfl⟩
  | cons g' gs ih => exact ⟨h.1, ih h.2⟩

/-- One more block at the lower end. -/
lemma Descending.append_singleton (h : Descending offset hi gs mid)
    (hg : offset g.addr + g.length = mid) :
    Descending offset hi (gs ++ [g]) (offset g.addr) := by
  induction gs generalizing hi with
  | nil =>
    have hhi : hi = mid := h
    exact ⟨by rw [hg, hhi], rfl⟩
  | cons g' gs ih => exact ⟨h.1, ih h.2⟩

/-- The height of a row of blocks is the sum of their lengths. -/
lemma Ascending.eq_add_sum (h : Ascending offset lo gs hi) :
    hi = lo + (gs.map Grant.length).sum := by
  induction gs generalizing lo with
  | nil => exact (show lo = hi from h).symm
  | cons g gs ih =>
    have hrest := ih h.2
    rw [List.map_cons, List.sum_cons]
    omega

end

/-! ## Histories -/

/-- An arena with the blocks that it has granted since it was last opened. -/
structure History where
  arena : Arena
  grants : List Grant := []

namespace History

/-- Carries out a call and keeps the block that its answer shows. Opening forgets all blocks. -/
def perform (h : History) (c : Arena.Call) : History where
  arena := (h.arena.perform c).arena
  grants :=
    match c with
    | .init _ => []
    | _ => h.grants ++ (c.grant? h.arena.page (h.arena.perform c).answer).toList

/-- The history after a list of calls. -/
def performAll (h : History) (calls : List Arena.Call) : History := calls.foldl perform h

/-- The history of an arena that has just been given a region. -/
def opened (a : Arena) (r : Region) : History := perform { arena := a } (.init r)

/-- The blocks of one client, in the order of the grants. -/
def grantsOf (h : History) (client : Client) : List Grant :=
  h.grants.filter (·.client = client)

@[simp] lemma performAll_cons (h : History) (c : Arena.Call) (calls : List Arena.Call) :
    h.performAll (c :: calls) = (h.perform c).performAll calls := rfl

/-- The arena of a history does not depend on the blocks. -/
lemma arena_performAll (h : History) (calls : List Arena.Call) :
    (h.performAll calls).arena = h.arena.performAll calls := by
  induction calls generalizing h with
  | nil => rfl
  | cons c calls ih => rw [performAll_cons, ih, Arena.performAll_cons]; rfl

lemma page_opened_performAll (a : Arena) (r : Region) (calls : List Arena.Call) :
    ((opened a r).performAll calls).arena.page = a.page := by
  rw [arena_performAll, Arena.page_performAll]
  rfl

/-- What is kept by opening and by every step that does not open is kept by every list of calls. -/
theorem performAll_induction {motive : History → Prop}
    (init : ∀ {h : History} (r : Region), motive h → motive { arena := h.arena.around r })
    (step : ∀ {h : History} {a' : Arena} {c : Arena.Call} {g : Option Grant},
      (∀ r, c ≠ .init r) → h.arena.Step c g a' → motive h →
        motive { arena := a', grants := h.grants ++ g.toList })
    {h : History} (hh : motive h) (calls : List Arena.Call) : motive (h.performAll calls) := by
  induction calls generalizing h with
  | nil => exact hh
  | cons c calls ih =>
    rw [performAll_cons]
    apply ih
    -- opening forgets the blocks, every other call adds what it was granted
    by_cases hc : ∃ r, c = .init r
    · obtain ⟨r, rfl⟩ := hc
      exact init r hh
    · have hne : ∀ r, c ≠ .init r := fun r hr => hc ⟨r, hr⟩
      have hperform : h.perform c =
          { arena := (h.arena.perform c).arena
            grants := h.grants ++ (c.grant? h.arena.page (h.arena.perform c).answer).toList } := by
        cases c with
        | init r => exact absurd rfl (hne r)
        | _ => rfl
      rw [hperform]
      exact step hne (h.arena.step_perform c) hh

/-! ## The row of byte blocks -/

/-- The byte blocks fill what lies below the byte cursor. -/
structure BytesAscend (h : History) : Prop where
  ordered : h.arena.Ordered
  ascending : Ascending h.arena.offset 0 (h.grantsOf .bytes) (h.arena.offset h.arena.byteCursor)

lemma bytesAscend_around (a : Arena) (r : Region) :
    BytesAscend { arena := a.around r } where
  ordered := a.ordered_around r
  ascending := ((a.around r).offset_start).symm

/-- The length of an admitted byte block is what the cursor moves by. -/
lemma length_ofBytes {a : Arena} {l : Layout} {taken : Word} (h : a.admitBytes l = .ok taken)
    (addr : Word) : (Grant.ofBytes l addr).length = taken.toNat :=
  (Arena.toNat_of_admitBytes_eq_ok h).1.symm

/-- Every step keeps the byte blocks in their row. -/
lemma BytesAscend.step {h : History} (hh : h.BytesAscend) {a' : Arena} {c : Arena.Call}
    {g : Option Grant} (hc : ∀ r, c ≠ .init r) (hstep : h.arena.Step c g a') :
    BytesAscend { arena := a', grants := h.grants ++ g.toList } := by
  refine ⟨hh.ordered.step hstep, ?_⟩
  have hrow := hh.ascending
  simp only [grantsOf, List.filter_append] at hrow ⊢
  cases hstep with
  | opened r => exact absurd rfl (hc r)
  | bytes l taken hadmitted =>
    have hroom := (Arena.toNat_of_admitBytes_eq_ok hadmitted).2.1
    rw [Arena.offset_byteCursor_takeBytes hh.ordered hroom,
      ← length_ofBytes hadmitted h.arena.byteCursor]
    exact hrow.append_singleton rfl
  | pages count align taken hadmitted =>
    have hnone : (some (Grant.ofPages h.arena.page count align
        (h.arena.takePages taken).pageCursor)).toList.filter (·.client = .bytes) = [] := rfl
    rw [hnone, List.append_nil]
    exact hrow
  | configured config => rwa [Option.toList_none, List.filter_nil, List.append_nil]
  | kept c hc => rwa [Option.toList_none, List.filter_nil, List.append_nil]

/-- After every run from an opening, the byte blocks lie one after the other up to the cursor. -/
theorem bytesAscend_performAll (a : Arena) (r : Region) (calls : List Arena.Call) :
    ((opened a r).performAll calls).BytesAscend :=
  performAll_induction (fun r _ => bytesAscend_around _ r)
    (fun hc hstep hh => hh.step hc hstep) (bytesAscend_around a r) calls

end History

end EarlyMemory
