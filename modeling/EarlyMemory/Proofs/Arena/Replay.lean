import EarlyMemory.Proofs.Arena.Relocation

/-!
# What an arena depends on

Few calls move a bound or a cursor. Opening sets all four, whatever they were, and a granted request
moves one; every other call leaves them where they are. So of a history only the last opening and
the requests after it count, and `sinceOpening` keeps just these. An arena that takes them alone
comes out like the one with the whole history (`Alike.performAll`), and is like it for every call
that follows (`Alike.perform`), whatever the switches of the two are.

Two arenas that differ in their switches alone are one arena moved by a distance of zero, so what
moving an arena shows of its answers is used here once more.
-/

namespace EarlyMemory

namespace Arena

/-! ## What an arena shows -/

/-- Where an arena lies and how much of it is taken. -/
structure View where
  start : Word
  stop : Word
  byteCursor : Word
  pageCursor : Word
  bytes : Usage
  pages : Usage
deriving DecidableEq, Repr

/-- What an arena shows of itself, its switches left out. -/
def view (a : Arena) : View where
  start := a.start
  stop := a.stop
  byteCursor := a.byteCursor
  pageCursor := a.pageCursor
  bytes := a.bytes
  pages := a.pages

/-! ## Arenas that differ in their switches -/

lemma Answer.relocate_zero (answer : Answer) : answer.relocate 0 = answer := by
  cases answer with
  | outcome o => simp only [relocate, Outcome.relocate, UInt64.add_zero, ite_self]
  | region r => simp only [relocate, Region.relocate, UInt64.add_zero]
  | _ => rfl

/-- The arenas have the same pages, bounds and cursors. Their switches may differ. -/
def Alike (a b : Arena) : Prop := Relocated 0 a b

namespace Alike

variable {a b : Arena}

/-- Before they are opened, all arenas with pages of one size are alike. -/
lemma unopened (page : PageSize) (c c' : Config) :
    Alike { page, config := c } { page, config := c' } := ⟨rfl, rfl, rfl, rfl, rfl⟩

lemma bounds_eq (h : Alike a b) : b.start = a.start ∧ b.stop = a.stop := by
  rw [h.start_eq, h.stop_eq, UInt64.add_zero, UInt64.add_zero]
  exact ⟨rfl, rfl⟩

lemma view_eq (h : Alike a b) : b.view = a.view := by
  simp only [view, h.bytes_eq, h.pages_eq, h.start_eq, h.stop_eq, h.byteCursor_eq, h.pageCursor_eq,
    UInt64.add_zero]

lemma setConfig (h : Alike a b) (config : Config) : Alike a (b.setConfig config) :=
  ⟨h.page_eq, h.start_eq, h.stop_eq, h.byteCursor_eq, h.pageCursor_eq⟩

/-- Opening makes arenas alike that had no more than their pages in common. -/
lemma around (hpage : b.page = a.page) (r : Region) : Alike (a.around r) (b.around r) := by
  have hzero : a.page.bytes.toNat ∣ (0 : Word).toNat := Nat.dvd_zero _
  have hmoved := relocated_around hpage hzero r
  rwa [Region.relocate, UInt64.add_zero] at hmoved

/-- Arenas that are alike have the same answer to every call, and are alike afterwards. -/
theorem perform (h : Alike a b) (c : Call) :
    (b.perform c).answer = (a.perform c).answer ∧
      Alike (a.perform c).arena (b.perform c).arena := by
  by_cases hc : c.Placeless
  · have heffect := Relocated.perform h hc
    exact ⟨heffect.answer_eq.trans (Answer.relocate_zero _), heffect.arena⟩
  · -- the two calls that name a place
    cases c with
    | init r => exact ⟨rfl, around h.page_eq r⟩
    | contains addr =>
      obtain ⟨hstart, hstop⟩ := h.bounds_eq
      refine ⟨?_, h⟩
      show Answer.member (b.contains addr) = Answer.member (a.contains addr)
      rw [contains, contains, hstart, hstop]
    | _ => exact absurd trivial hc

end Alike

/-! ## The calls that count -/

/-- The calls that count so far, with one more: opening makes the others void, a request counts from
then on, and no other call does. -/
def Call.recordIn (kept : List Call) : Call → List Call
  | .init r => [.init r]
  | .alloc l => kept ++ [.alloc l]
  | .allocPages count align => kept ++ [.allocPages count align]
  | _ => kept

/-- The last opening of a history with the requests after it; all requests if there is none. -/
def sinceOpening (calls : List Call) : List Call := calls.foldl Call.recordIn []

example :
    sinceOpening [.alloc {}, .init {}, .observe, .allocPages 1 4096, .setConfig {}, .alloc {}] =
      [.init {}, .allocPages 1 4096, .alloc {}] := by decide

lemma performAll_append_singleton (a : Arena) (calls : List Call) (c : Call) :
    a.performAll (calls ++ [c]) = ((a.performAll calls).perform c).arena := by
  rw [performAll, List.foldl_append]
  rfl

namespace Alike

variable {a b : Arena}

/-- One call more leaves the arena like one that has taken the calls that count. -/
lemma recordIn {kept : List Call} (hpage : b.page = a.page) (h : Alike (a.performAll kept) b)
    (c : Call) : Alike (a.performAll (c.recordIn kept)) (b.perform c).arena := by
  cases c with
  | init r => exact around hpage r
  | alloc l =>
    rw [Call.recordIn, performAll_append_singleton]
    exact (h.perform _).2
  | allocPages count align =>
    rw [Call.recordIn, performAll_append_singleton]
    exact (h.perform _).2
  | setConfig config => exact h.setConfig config
  | _ => exact h

/-- A whole history leaves the arena like one that has taken the calls that count. -/
theorem performAll (h : Alike a b) (calls : List Call) :
    Alike (a.performAll (sinceOpening calls)) (b.performAll calls) := by
  have hrun : ∀ {kept : List Call} {b' : Arena}, b'.page = a.page →
      Alike (a.performAll kept) b' →
      Alike (a.performAll (calls.foldl Call.recordIn kept)) (b'.performAll calls) := by
    induction calls with
    | nil => exact fun _ hkept => hkept
    | cons c calls ih =>
      intro kept b' hpage hkept
      exact ih ((b'.page_perform c).trans hpage) (hkept.recordIn hpage c)
  exact hrun h.page_eq h

end Alike

end Arena

end EarlyMemory
