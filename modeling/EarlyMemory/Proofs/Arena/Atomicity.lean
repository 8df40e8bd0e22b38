import Mathlib.Data.UInt
import EarlyMemory.Proofs.Arena.Step

/-!
# Requests are carried out in full or not at all

A request is decided before anything moves. If it is refused, the arena is left as it was. If it is
granted, the cursor of its client goes into the gap by no more than the gap, and nothing else
changes; what it has passed is exactly what the gap has lost, so it never comes to the other side of
the other cursor (`allOrNothing_requests`).

This needs no order of the cursors and no whole pages: the four addresses may be any words. In an
arena without order the gap is just the wrapped difference of the cursors, which both decisions and
both moves go by.
-/

namespace EarlyMemory

/-- The bytes that the cursor of a client passes between two addresses: the one for bytes moves up,
the one for pages moves down. -/
def Client.passed : Client → Word → Word → ℕ
  | .bytes, before, after => (after - before).toNat
  | .pages, before, after => (before - after).toNat

namespace Arena

/-! ## The cursor of a client -/

/-- The cursor that the grants of a client move. -/
def cursor (a : Arena) : Client → Word
  | .bytes => a.byteCursor
  | .pages => a.pageCursor

/-- The arena with one client's cursor elsewhere, and with all else as it is. -/
def withCursor (a : Arena) : Client → Word → Arena
  | .bytes, addr => { a with byteCursor := addr }
  | .pages, addr => { a with pageCursor := addr }

@[simp] lemma cursor_withCursor (a : Arena) (client : Client) (addr : Word) :
    (a.withCursor client addr).cursor client = addr := by
  cases client <;> rfl

/-- A request of a client has been carried out in full or not at all. -/
structure AllOrNothing (a : Arena) (client : Client) (e : Effect Outcome) : Prop where
  refused : e.answer.status ≠ .ok → e.answer.addr = 0 ∧ e.arena = a
  granted : e.answer.status = .ok →
    let passed := client.passed (a.cursor client) (e.arena.cursor client)
    e.arena = a.withCursor client (e.arena.cursor client) ∧
      passed ≤ a.gap.toNat ∧ e.arena.gap.toNat = a.gap.toNat - passed

section

variable {a : Arena} {client : Client} {e : Effect Outcome}

lemma allOrNothing_of_refused {s : Status} (hs : s ≠ .ok)
    (h : e.answer = .refused s ∧ e.arena = a) : a.AllOrNothing client e where
  refused _ := ⟨congrArg Outcome.addr h.1, h.2⟩
  granted hok := absurd ((congrArg Outcome.status h.1).symm.trans hok) hs

lemma allOrNothing_of_granted {addr after : Word} {passed : ℕ}
    (h : e.answer = .granted addr ∧ e.arena = a.withCursor client after)
    (hpassed : client.passed (a.cursor client) after = passed) (hroom : passed ≤ a.gap.toNat)
    (hgap : e.arena.gap.toNat = a.gap.toNat - passed) : a.AllOrNothing client e where
  refused hne := absurd (congrArg Outcome.status h.1) hne
  granted _ := by
    rw [hgap, h.2, cursor_withCursor, hpassed]
    exact ⟨rfl, hroom, rfl⟩

end

/-! ## Requests -/

lemma allOrNothing_alloc (a : Arena) (l : Layout) : a.AllOrNothing .bytes (a.alloc l) := by
  cases hadmitted : a.admitBytes l with
  | error s =>
    exact allOrNothing_of_refused (ne_ok_of_admitBytes_eq_error hadmitted)
      (alloc_of_admitBytes_eq_error hadmitted)
  | ok taken =>
    have hresult := alloc_of_admitBytes_eq_ok hadmitted
    have hroom := (toNat_of_admitBytes_eq_ok hadmitted).2.1
    have hpassed : Client.passed .bytes a.byteCursor (a.byteCursor + taken) = taken.toNat :=
      congrArg UInt64.toNat (add_sub_cancel_left _ _)
    have hgap : (a.alloc l).arena.gap.toNat = a.gap.toNat - taken.toNat := by
      rw [hresult.2, toNat_gap_takeBytes hroom]
    exact allOrNothing_of_granted hresult hpassed hroom hgap

lemma allOrNothing_allocPages (a : Arena) (count align : Word) :
    a.AllOrNothing .pages (a.allocPages count align) := by
  cases hadmitted : a.admitPages count align with
  | error s =>
    exact allOrNothing_of_refused (ne_ok_of_admitPages_eq_error hadmitted)
      (allocPages_of_admitPages_eq_error hadmitted)
  | ok taken =>
    have hresult := allocPages_of_admitPages_eq_ok hadmitted
    have hroom := toNat_mul_le_gap_of_admitPages_eq_ok hadmitted
    -- the count may have wrapped when it was rounded, but the bytes of what is taken have not
    have hpassed : Client.passed .pages a.pageCursor (a.pageCursor - taken * a.page.bytes) =
        taken.toNat * a.page.bytes.toNat :=
      (congrArg UInt64.toNat (sub_sub_cancel _ _)).trans (toNat_count_mul hroom)
    have hgap : (a.allocPages count align).arena.gap.toNat =
        a.gap.toNat - taken.toNat * a.page.bytes.toNat := by
      rw [hresult.2, toNat_gap_takePages hroom]
    exact allOrNothing_of_granted hresult hpassed hroom hgap

/-- In every state, every request of either client is carried out in full or not at all. -/
theorem allOrNothing_requests (a : Arena) :
    (∀ l, a.AllOrNothing .bytes (a.alloc l)) ∧
      ∀ count align, a.AllOrNothing .pages (a.allocPages count align) :=
  ⟨a.allOrNothing_alloc, a.allOrNothing_allocPages⟩

end Arena

end EarlyMemory
